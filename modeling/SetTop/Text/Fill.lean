import SetTop.Text.Basic
import SetTop.Text.Word

/-!
Filling lines with words.

A text is cut into pieces between which a line may end: runs of blanks, words, and dashes between
words. A word can also be cut behind a hyphen that has letters on both sides. A line takes as many
pieces as fit; a piece that is longer than a line is broken. Blanks at the ends of lines are
dropped.
-/

namespace SetTop.Text

def isLetter (c : Char) : Bool := isWordChar c && !isDecimalDigit c

def isGap (c : Char) : Bool := c == ' ' || (9 ≤ c.toNat && c.toNat ≤ 13)

def carriesDash (c : Char) : Bool := isWordChar c || ['!', '"', '\'', '&', '.', ',', '?'].contains c

def continuesWord : List Char → Bool
  | a :: '-' :: b :: _ => isLetter a && isLetter b
  | a :: b :: _ => isLetter a && isLetter b
  | _ => false

/-- Whether two letters end here; a hyphen may stand between them. The text is given from its end
on. -/
def endsWord : List Char → Bool
  | a :: '-' :: b :: _ => isLetter a && isLetter b
  | a :: b :: _ => isLetter a && isLetter b
  | _ => false

/-- The dashes at the front that stand between two words, given the text in front of them backwards.
-/
def dashesBetween (before cs : List Char) : List Char :=
  let dashes := cs.takeWhile (· == '-')
  match before.head?, cs.drop dashes.length with
  | some a, b :: _ => if carriesDash a && isWordChar b && dashes.length ≥ 2 then dashes else []
  | _, _ => []

def wordLength (before : List Char) : List Char → Nat
  | [] => 0
  | c :: cs =>
    if c == '-' && endsWord before && continuesWord cs then 1
    else if isGap c || !(dashesBetween before (c :: cs)).isEmpty then 0
    else wordLength (c :: before) cs + 1

def pieceLength (before : List Char) : List Char → Nat
  | [] => 0
  | c :: cs =>
    if isGap c then ((c :: cs).takeWhile isGap).length
    else match dashesBetween before (c :: cs) with
      | [] => wordLength (c :: before) cs + 1
      | dashes => dashes.length

/-- The pieces of a text. `before` is the text in front, backwards. -/
def piecesFrom : (fuel : Nat) → (before cs : List Char) → List (List Char)
  | 0, _, _ => []
  | _, _, [] => []
  | fuel + 1, before, cs =>
    let piece := cs.take (pieceLength before cs)
    piece :: piecesFrom fuel (piece.reverse ++ before) (cs.drop piece.length)

def pieces (cs : List Char) : List (List Char) := piecesFrom cs.length [] cs

/-- Where a piece that is too long for a line is broken, given the room that is left. -/
def breakAt (room : Nat) (piece : List Char) : Nat :=
  let front := piece.take room
  let behind := (front.reverse.takeWhile (· != '-')).length
  let kept := front.length - behind
  if kept > 1 && (front.take (kept - 1)).any (· != '-') then kept else room

def fillLine (width : Nat) : (length : Nat) → List (List Char) → List (List Char) × List (List Char)
  | _, [] => ([], [])
  | length, p :: ps =>
    if length + p.length ≤ width then
      let (line, rest) := fillLine width (length + p.length) ps
      (p :: line, rest)
    else if p.length > width then
      let n := breakAt (width - length) p
      ([p.take n], p.drop n :: ps)
    else ([], p :: ps)

def isBlankPiece (p : List Char) : Bool := p.all isBlank

def dropBlankEnd (line : List (List Char)) : List (List Char) :=
  match line.reverse with
  | p :: ps => if isBlankPiece p then ps.reverse else line
  | [] => []

/-- Fills lines with pieces; `fuel` bounds their number. -/
def fillLines (width : Nat) : (fuel : Nat) → (isFirst : Bool) → List (List Char) → List (List Char)
  | 0, _, _ => []
  | _, _, [] => []
  | fuel + 1, isFirst, p :: ps =>
    let (line, rest) := fillLine width 0 (if !isFirst && isBlankPiece p then ps else p :: ps)
    match dropBlankEnd line with
    | [] => fillLines width fuel isFirst rest
    | line => line.flatten :: fillLines width fuel false rest

def singleGaps : List Char → List Char
  | [] => []
  | c :: cs =>
    if !isGap c then c :: singleGaps cs
    else match cs with
      | d :: _ => if isGap d then singleGaps cs else ' ' :: singleGaps cs
      | [] => [' ']

def fill (width : Nat) (cs : List Char) : List (List Char) :=
  let single := strip (singleGaps cs)
  fillLines width (2 * single.length + 2) true (pieces single)

end SetTop.Text
