import SetTop.Matching.Parameters

/-!
The keys of cached calls.

A key is made of the name of the function, whatever else its results depend on, and the
arguments. A picture counts by its extents and its bytes.
-/

namespace SetTop

inductive Argument
  | plain (j : Json)
  | list (items : List Argument)
  | object (fields : List (String × Argument))
  | picture (i : Image)
  | set (items : List Json)
  | parameters (p : MatchParameters)
  | album (isOpen : Bool)
  /-- anything that has no text -/
  | unknown

/-- Why there is no key for a call. -/
inductive Keyless
  /-- the call does more than give a result -/
  | effects
  | fault (e : Fault)

def lowBytes (size n : Nat) : List Nat := (List.range size).map fun i => n / Nat.pow 256 i % 256

def PixelKind.bytes (e : PixelKind) (v : Nat) : List Nat :=
  match e with
  | .byte => [v]
  | .other name =>
    if ["int8", "bool"].contains name then [v]
    else if ["uint16", "int16"].contains name then lowBytes 2 v
    else if ["uint32", "int32"].contains name then lowBytes 4 v
    else if ["uint64", "int64"].contains name then lowBytes 8 v
    else if name == "float32" then lowBytes 4 (Float32.ofNat v).toBits.toNat
    else if name == "float64" then lowBytes 8 (Float.ofNat v).toBits.toNat
    else [v]

namespace Image

def rawBytes (i : Image) : List Nat := i.values.toList.flatMap i.element.bytes

def keyPart (i : Image) : Json :=
  .list [.list (i.shape.map .ofNat), .text (String.ofList (i.rawBytes.flatMap (Text.hexDigits 2)))]

end Image

namespace Argument

def sortedSet (items : List Json) : Except Keyless (List Json) :=
  let distinct := items.foldl (fun acc j => if acc.any (Json.same j) then acc else acc ++ [j]) []
  if distinct.all fun a => distinct.all fun b => (Json.order a b).toOption.isSome then
    .ok (distinct.mergeSort fun a b => match Json.order a b with
      | .ok .gt => false
      | _ => true)
  else .error (.fault Json.unordered)

def parametersPart (p : MatchParameters) : Json :=
  .object [("confirm_method", .text p.confirmMethod), ("confirm_threshold", p.confirmThreshold),
    ("erode_passes", p.erodePasses), ("match_method", .text p.matchMethod),
    ("match_threshold", p.matchThreshold)]

mutual

def keyPart : Argument → Except Keyless Json
  | .plain j => .ok j.sorted
  | .list items => return .list (← keyParts items)
  | .object fields => return Json.sorted (.object (← keyFields fields))
  | .picture i => .ok i.keyPart
  | .set items => return .list (← sortedSet items)
  | .parameters p => .ok (parametersPart p)
  | .album true => .error .effects
  | .album false => .ok .null
  | .unknown => .error (.fault (.foreign .type "not serializable"))

def keyParts : List Argument → Except Keyless (List Json)
  | [] => .ok []
  | a :: rest => return (← keyPart a) :: (← keyParts rest)

def keyFields : List (String × Argument) → Except Keyless (List (String × Json))
  | [] => .ok []
  | (k, a) :: rest => return (k, ← keyPart a) :: (← keyFields rest)

end

end Argument

/-- The digest of a call, by the name of the function, what else it depends on, and the arguments.
-/
def callDigest (function : String) (dependsOn : Json) (arguments : List (String × Argument)) :
    Except Keyless String := do
  let name := (Json.list [.text function, dependsOn.sorted]).write
  let given ← (Argument.object arguments).keyPart
  return (Json.list [.text name, given]).write

end SetTop
