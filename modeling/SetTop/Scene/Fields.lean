import SetTop.Json.Basic

/-!
Looking into a description.

A scene is described by a structured value. These functions pick out its parts; a part that is
missing, or of another kind, reads as empty.
-/

namespace SetTop.Scene

variable (j : Json)

def get (key : String) : Json := (j.field? key).getD .null

def has (key : String) : Bool := (j.field? key).isSome

def isNull : Json → Bool
  | .null => true
  | _ => false

def fields : Json → List (String × Json)
  | .object fs => fs
  | _ => []

def items : Json → List Json
  | .list js => js
  | _ => []

/-- The parts that a walk through a value meets: items, characters, or names of fields. -/
def sequence? : Json → Option (List Json)
  | .list js => some js
  | .text s => some (s.toList.map fun c => .text c.toString)
  | .object fs => some (fs.map fun (k, _) => .text k)
  | _ => none

def text : Json → String
  | .text s => s
  | _ => ""

def text? : Json → Option String
  | .text s => some s
  | _ => none

def texts : List String := (items j).map text

def texts? : Option (List String) :=
  match j with
  | .list js => js.mapM text?
  | _ => none

def bool : Bool := j.isTrue

def num? : Json → Option Num
  | .number n => some n
  | .bool b => some (.int (if b then 1 else 0))
  | _ => none

def extended? : Json → Option Num
  | .text "inf" => some .posInf
  | .text "-inf" => some .negInf
  | .text "nan" => some .nan
  | j => num? j

def num (j : Json) : Num := (num? j).getD 0

def int : Int := ((num? j).bind Num.truncate?).getD 0

def nat : Nat := (int j).toNat

def natOr (key : String) (default : Nat) : Nat :=
  if has j key then nat (get j key) else default

def intOr (key : String) (default : Int) : Int :=
  if has j key then int (get j key) else default

def numOr (key : String) (default : Num) : Num := ((j.field? key).bind num?).getD default

def textOr (key default : String) : String := ((j.field? key).bind text?).getD default

def fieldOr (key : String) (default : Json) : Json := (j.field? key).getD default

/-- Whether a part counts as true; a missing one does. -/
def boolOrTrue (key : String) : Bool := bool (fieldOr j key (.bool true))

end SetTop.Scene
