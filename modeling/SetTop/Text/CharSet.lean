import SetTop.Text.Basic
import SetTop.Text.Case
import SetTop.Text.Word

/-!
Sets of characters, as patterns use them.
-/

namespace SetTop

/-- Which letters are taken for each other where case does not count. -/
inductive Folding
  | ascii
  | full
deriving DecidableEq

namespace Folding

def key : Folding → Char → Char
  | .ascii, c => c.toLower
  | .full, c => Text.foldLetter c

def variants : Folding → Char → List Nat
  | .ascii, c => [c.toNat, c.toLower.toNat, c.toUpper.toNat]
  | .full, c => Text.variants c

def lower : Folding → Char → Char
  | .ascii, c => c.toLower
  | .full, c => Text.lowerLetter c

end Folding

inductive CharSet
  | char (c : Char)
  | range (low high : Nat)
  | digit | word | blank
  | asciiDigit | asciiWord | asciiBlank
  | any
  | all
  | none
  | union (a b : CharSet)
  | compl (a : CharSet)
  | folded (f : Folding) (a : CharSet)
deriving DecidableEq

namespace CharSet

def hasFolded (f : Folding) : CharSet → Char → Bool
  | .char a, c => f.key a == f.key c
  | .range a b, c => (f.variants c).any fun n => a ≤ n && n ≤ b
  | .digit, c => Text.isDecimalDigit c
  | .word, c => Text.isWordChar c
  | .blank, c => Text.isBlank c
  | .asciiDigit, c => c.isDigit
  | .asciiWord, c => c.isAlphanum || c = '_'
  | .asciiBlank, c => c = ' ' || (9 ≤ c.toNat && c.toNat ≤ 13)
  | .any, c => c != '\n'
  | .all, _ => true
  | .none, _ => false
  | .union a b, c => a.hasFolded f c || b.hasFolded f c
  | .compl a, c => !a.hasFolded f c
  | .folded g a, c => a.hasFolded g c

def has : CharSet → Char → Bool
  | .char a, c => a == c
  | .range a b, c => a ≤ c.toNat && c.toNat ≤ b
  | .digit, c => Text.isDecimalDigit c
  | .word, c => Text.isWordChar c
  | .blank, c => Text.isBlank c
  | .asciiDigit, c => c.isDigit
  | .asciiWord, c => c.isAlphanum || c = '_'
  | .asciiBlank, c => c = ' ' || (9 ≤ c.toNat && c.toNat ≤ 13)
  | .any, c => c != '\n'
  | .all, _ => true
  | .none, _ => false
  | .union a b, c => a.has c || b.has c
  | .compl a, c => !a.has c
  | .folded f a, c => a.hasFolded f c

def except (s : String) : CharSet :=
  .compl (s.toList.foldl (fun set c => .union set (.char c)) .none)

end CharSet

end SetTop
