/-!
Cutting and trimming text.

All functions work on lists of characters. White space is the set of blanks of
all scripts, line ends included; `lines` ends a line at the line feed only and
keeps it, `splitLines` ends one at any line boundary and drops it.
-/

namespace SetTop.Text

def isBlank (c : Char) : Bool :=
  let n := c.toNat
  (9 ≤ n && n ≤ 13) || (28 ≤ n && n ≤ 32) || n == 0x85 || n == 0xa0 || n == 0x1680 ||
    (0x2000 ≤ n && n ≤ 0x200a) || n == 0x2028 || n == 0x2029 || n == 0x202f || n == 0x205f ||
    n == 0x3000

def isLineBoundary (c : Char) : Bool :=
  let n := c.toNat
  (10 ≤ n && n ≤ 13) || (28 ≤ n && n ≤ 30) || n == 0x85 || n == 0x2028 || n == 0x2029

variable (cs : List Char)

def stripStart : List Char := cs.dropWhile isBlank

def dropEndWhile (p : Char → Bool) (cs : List Char) : List Char :=
  (cs.reverse.dropWhile p).reverse

def stripEnd : List Char := dropEndWhile isBlank cs

def dropLineEnd : List Char :=
  if cs.getLast? == some '\n' then cs.dropLast else cs

def strip : List Char := stripEnd (stripStart cs)

def dropFront? : (front cs : List Char) → Option (List Char)
  | [], cs => some cs
  | _ :: _, [] => none
  | f :: fs, c :: cs => if f = c then dropFront? fs cs else none

def startsWith (cs front : List Char) : Bool := (dropFront? front cs).isSome

def endsWith (cs back : List Char) : Bool := startsWith cs.reverse back.reverse

def splitAtChar (sep : Char) : List Char → List (List Char)
  | [] => [[]]
  | c :: cs =>
    match splitAtChar sep cs with
    | [] => [[c]]
    | part :: rest => if c = sep then [] :: part :: rest else (c :: part) :: rest

/-- Cuts at the occurrences of a non-empty separator, found from the left. -/
def splitAtText (sep : List Char) : Nat → (current cs : List Char) → List (List Char)
  | 0, current, _ => [current.reverse]
  | _ + 1, current, [] => [current.reverse]
  | fuel + 1, current, c :: cs =>
    match dropFront? sep (c :: cs) with
    | some rest => current.reverse :: splitAtText sep fuel [] rest
    | none => splitAtText sep fuel (c :: current) cs

def splitOn (sep cs : List Char) : List (List Char) := splitAtText sep (cs.length + 1) [] cs

def words : List (List Char) :=
  go [] cs
where
  go (current : List Char) : List Char → List (List Char)
    | [] => if current.isEmpty then [] else [current.reverse]
    | c :: cs =>
      if isBlank c then
        if current.isEmpty then go [] cs else current.reverse :: go [] cs
      else go (c :: current) cs

/-- The lines of a text, each with its line feed; the last one may lack it. -/
def lines : List (List Char) :=
  go [] cs
where
  go (current : List Char) : List Char → List (List Char)
    | [] => if current.isEmpty then [] else [current.reverse]
    | c :: cs => if c = '\n' then (c :: current).reverse :: go [] cs else go (c :: current) cs

def plainLineEnds : List Char → List Char
  | '\r' :: '\n' :: cs => '\n' :: plainLineEnds cs
  | '\r' :: cs => '\n' :: plainLineEnds cs
  | c :: cs => c :: plainLineEnds cs
  | [] => []

/-- The lines of a text without their ends. A carriage return and a line feed
together are one end. -/
def splitLines : List (List Char) :=
  go [] cs
where
  go (current : List Char) : List Char → List (List Char)
    | [] => if current.isEmpty then [] else [current.reverse]
    | '\r' :: '\n' :: cs => current.reverse :: go [] cs
    | c :: cs => if isLineBoundary c then current.reverse :: go [] cs else go (c :: current) cs

def join (sep : List Char) : List (List Char) → List Char
  | [] => []
  | [p] => p
  | p :: q :: rest => p ++ sep ++ join sep (q :: rest)

def cut? (sep : Char) : List Char → Option (List Char × List Char)
  | [] => none
  | c :: cs => if c = sep then some ([], cs) else (cut? sep cs).map fun (a, b) => (c :: a, b)

def cutLast? (sep : Char) (cs : List Char) : Option (List Char × List Char) :=
  (cut? sep cs.reverse).map fun (a, b) => (b.reverse, a.reverse)

def hasPart (part : List Char) : List Char → Bool
  | [] => part.isEmpty
  | c :: cs => startsWith (c :: cs) part || hasPart part cs

def replaceAll (old new cs : List Char) : List Char := join new (splitOn old cs)

def padRight (width : Nat) (cs : List Char) : List Char :=
  cs ++ List.replicate (width - cs.length) ' '

def padLeft (width : Nat) (cs : List Char) : List Char :=
  List.replicate (width - cs.length) ' ' ++ cs

end SetTop.Text

namespace SetTop

def stripText (s : String) : String := String.ofList (Text.strip s.toList)

def wordsOf (s : String) : List String := (Text.words s.toList).map String.ofList

def linesOf (s : String) : List String := (Text.lines s.toList).map String.ofList

def splitAtCharacter (sep : Char) (s : String) : List String :=
  (Text.splitAtChar sep s.toList).map String.ofList

def splitOnText (sep s : String) : List String :=
  (Text.splitOn sep.toList s.toList).map String.ofList

def joinText (sep : String) (parts : List String) : String := String.intercalate sep parts

def startsWithText (s front : String) : Bool := Text.startsWith s.toList front.toList

def endsWithText (s back : String) : Bool := Text.endsWith s.toList back.toList

def hasText (s part : String) : Bool := Text.hasPart part.toList s.toList

def replaceText (s old new : String) : String :=
  String.ofList (Text.replaceAll old.toList new.toList s.toList)

end SetTop
