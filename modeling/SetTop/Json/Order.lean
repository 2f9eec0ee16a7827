import SetTop.Json.Basic
import SetTop.Number.Checked

/-!
The order of structured values.

Truth values count as numbers, and null comes before everything else. Values of different
kinds, and objects that differ, have no order.
-/

namespace SetTop.Json

def number? : Json → Option Num
  | .number n => some n
  | .bool b => some (.int (if b then 1 else 0))
  | _ => none

def needNumber (j : Json) : Except Fault Num :=
  match j.number? with
  | some n => .ok n
  | none => .error (.foreign .type "a number is needed")

mutual

def same : Json → Json → Bool
  | .null, .null => true
  | .text a, .text b => a == b
  | .list as, .list bs => sameItems as bs
  | .object as, .object bs => as.length == bs.length && sameFields as bs
  | a, b => match a.number?, b.number? with
    | some x, some y => x.eq y
    | _, _ => false

def sameItems : List Json → List Json → Bool
  | [], [] => true
  | a :: as, b :: bs => same a b && sameItems as bs
  | _, _ => false

def sameFields : List (String × Json) → List (String × Json) → Bool
  | [], _ => true
  | (k, a) :: as, bs => (match bs.lookup k with
    | some b => same a b
    | none => false) && sameFields as bs

end

instance : BEq Json := ⟨same⟩

def unordered : Fault := .foreign .type "unorderable types"

mutual

def order : Json → Json → Except Fault Ordering
  | .list as, .list bs => orderItems as bs
  | .text a, .text b => .ok (compare a b)
  | a, b => match a.number?, b.number? with
    | some x, some y => match x.compare? y with
      | some o => .ok o
      | none => .ok .eq
    | _, _ => .error unordered

def orderItems : List Json → List Json → Except Fault Ordering
  | [], [] => .ok .eq
  | [], _ :: _ => .ok .lt
  | _ :: _, [] => .ok .gt
  | a :: as, b :: bs => if same a b then orderItems as bs else order a b

end

def rank (a b : Json) : Except Fault Ordering :=
  if same a b then .ok .eq
  else match a, b with
    | .null, _ => .ok .lt
    | _, .null => .ok .gt
    | a, b => order a b

end SetTop.Json
