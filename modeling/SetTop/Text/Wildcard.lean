import SetTop.Text.Basic

/-!
Wildcards.

A star stands for any text and a question mark for any character. Brackets stand for one
character out of a set, or outside of it behind an exclamation mark. A bracket that is
never closed stands for itself.
-/

namespace SetTop

inductive Wildcard.Part
  | star
  | any
  | char (c : Char)
  | set (inside : Bool) (ranges : List (Char × Char))
deriving DecidableEq

abbrev Wildcard := List Wildcard.Part

namespace Wildcard

def Part.has : Part → Char → Bool
  | .star, _ => false
  | .any, _ => true
  | .char a, c => a == c
  | .set inside ranges, c => ranges.any (fun (a, b) => a ≤ c && c ≤ b) == inside

/-- The inside of brackets and what follows them. A closing bracket in the first place does not
count. -/
def takeBrackets? (cs : List Char) : Option (List Char × List Char) :=
  let (front, cs) := match cs with
    | '!' :: rest => (['!'], rest)
    | _ => ([], cs)
  let (front, cs) := match cs with
    | ']' :: rest => (front ++ [']'], rest)
    | _ => (front, cs)
  (Text.cut? ']' cs).map fun (inner, rest) => (front ++ inner, rest)

/-- Cuts the inside of brackets at the dashes that make ranges. `skip` counts characters that are
none. -/
def chunks : Nat → List Char → List Char → List (List Char)
  | _, current, [] => [current.reverse]
  | 0, current, '-' :: rest => current.reverse :: chunks 2 [] rest
  | 0, current, c :: rest => chunks 0 (c :: current) rest
  | skip + 1, current, c :: rest => chunks skip (c :: current) rest

def closeChunks (parts : List (List Char)) : List (List Char) :=
  match parts.reverse with
  | [] :: last :: more => ((last ++ ['-']) :: more).reverse
  | _ => parts

def joinEmpty : List (List Char) → List (List Char)
  | [] => []
  | part :: rest =>
    match joinEmpty rest with
    | [] => [part]
    | next :: more =>
      match part.getLast?, next with
      | some a, b :: tail => if b < a then (part.dropLast ++ tail) :: more else part :: next :: more
      | _, _ => part :: next :: more

/-- The ranges of chunks: between two chunks, and every other character by itself. -/
def ranges (start : Option Char) : List (List Char) → List (Char × Char)
  | [] => []
  | part :: rest =>
    let (front, part) := match start, part with
      | some a, b :: more => ([(a, b)], more)
      | _, p => ([], p)
    if rest.isEmpty then front ++ part.map fun c => (c, c)
    else match part.getLast? with
      | some a => front ++ part.dropLast.map (fun c => (c, c)) ++ ranges (some a) rest
      | none => front ++ ranges (front.head?.map (·.2)) rest

def setOf (inner : List Char) : Part :=
  let skip := if inner.head? == some '!' then 2 else 1
  let parts := if inner.contains '-' then joinEmpty (closeChunks (chunks skip [] inner)) else [inner]
  match parts with
  | ('!' :: first) :: rest => .set false (ranges none (first :: rest))
  | parts => .set true (ranges none parts)

def read : Nat → List Char → Wildcard
  | 0, _ => []
  | _, [] => []
  | fuel + 1, '*' :: rest => .star :: read fuel rest
  | fuel + 1, '?' :: rest => .any :: read fuel rest
  | fuel + 1, '[' :: rest =>
    match takeBrackets? rest with
    | some (inner, rest) => setOf inner :: read fuel rest
    | none => .char '[' :: read fuel rest
  | fuel + 1, c :: rest => .char c :: read fuel rest

def ofText (s : String) : Wildcard := read s.length s.toList

def suffixes : List Char → List (List Char)
  | [] => [[]]
  | c :: cs => (c :: cs) :: suffixes cs

def accepts : Wildcard → List Char → Bool
  | [], cs => cs.isEmpty
  | .star :: ps, cs => (suffixes cs).any (accepts ps)
  | _ :: _, [] => false
  | p :: ps, c :: cs => p.has c && accepts ps cs

def isWild (s : String) : Bool := s.toList.any fun c => c == '*' || c == '?' || c == '['

end Wildcard

def matchesWildcard (wildcard name : String) : Bool := (Wildcard.ofText wildcard).accepts name.toList

end SetTop
