import SetTop.Fault
import SetTop.Number.Reading

/-!
Versions of programs.

A version is a row of parts: numbers, words of small letters, and whatever stands between
them; points only separate. Versions are compared part by part. A number and a word cannot
be compared.
-/

namespace SetTop

inductive VersionPart
  | number (n : Int)
  | word (s : String)
deriving DecidableEq

structure Version where
  text : String
  parts : List VersionPart
deriving DecidableEq

namespace Version

inductive Kind
  | digit | letter | point | other
deriving DecidableEq

def kindOf (c : Char) : Kind :=
  if Text.isDecimalDigit c then .digit
  else if 'a' ≤ c && c ≤ 'z' then .letter
  else if c == '.' then .point
  else .other

/-- Runs of characters of one kind; every point is a run of its own. -/
def runs : List Char → List (List Char)
  | [] => []
  | c :: cs =>
    match runs cs with
    | [] => [[c]]
    | [] :: rest => [c] :: rest
    | (d :: ds) :: rest =>
      if kindOf c = kindOf d && kindOf c ≠ .point then (c :: d :: ds) :: rest
      else [c] :: (d :: ds) :: rest

def partOf (cs : List Char) : VersionPart :=
  match Number.readInt? (String.ofList cs) with
  | some n => .number n
  | none => .word (String.ofList cs)

def ofText (s : String) : Version := ⟨s, ((runs s.toList).filter (· != ['.'])).map partOf⟩

def compareParts : List VersionPart → List VersionPart → Option Ordering
  | [], [] => some .eq
  | [], _ :: _ => some .lt
  | _ :: _, [] => some .gt
  | a :: as, b :: bs =>
    if a = b then compareParts as bs
    else match a, b with
      | .number m, .number n => some (compare m n)
      | .word s, .word t => some (compare s t)
      | _, _ => none

def isOlder (a b : Version) : Except Fault Bool :=
  match compareParts a.parts b.parts with
  | some o => .ok (o == .lt)
  | none => failBelow .type

end Version

end SetTop
