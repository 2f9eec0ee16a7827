import SetTop.Text.Basic
import SetTop.Text.Word

/-!
The pieces of a document type.

A document type is a row of tokens, with white space between them where two of them would
run together otherwise. What may follow a token directly is part of its rule. The characters
of names come from two tables.
-/

namespace SetTop.Markup

open Text

def nameStarts : Ranges := .ofSteps [
  0x901b1d8ab1906a6ab6af1b92bfae4a90392c3c9db5f1930a3eb058aaa8aa3ad3aec8a8a8a8aa19693a901a93ac397,
  0xe4b9b9cb3bfb9f0c5b890c5912b2ead7b1f91c7906bca96aba8a099037e4c8b391c4fb9ba5aea8cbc39aa979a4dd9b,
  0xa5aea9a9a9c0ba8a4aa1ea8aaaa5aea9acc8c38c5fb9ba5aea9bbc8b79aac4dcaabc9a8a9c9cacfaa914faaaa6a91a,
  0xcc79c4faaaa6a91acc58a9c4faaaa6a97c79a40d5a8a995df49a8b9a8b8fbaeaaa8a8b9a9a8a9928bc974fac0c67c5,
  0x93c6928a9aaa8a9acd28a8a8948a8a8c9c8eaa8a8a8a8c9c9a8d18928b8b9909a8aed18d8918e007a33d931fa5bdb,
  0xc5bdbfa8a8a8ab6be4aea8caaecbbdd94eaaec528c9b8922af2058b290b09239593193c796324d0645e133a5643]

def nameParts : Ranges := .ofSteps [
  0xd59a91976890319d7905b39c68b74bc13a0aa6aaa8a9a8974893f9691f894696b9abb919010af18a97cb969b91a2a,
  0xf18aeb9ba928939b91a38f28acd9bab193a0af18afaaaab191a2af18adc9ba9199791a39f3ccaab928a090a2af3eaa,
  0xab909a091a39f3eaaab909a091a39f3dbaab9289791b028be9490a919308bda9928adb91f79f91948a8a8d9e2a3add,
  0xda8aa4cea89042794d8f4448c5dac9449b9936a]

def isNameStart (c : Char) : Bool := nameStarts.has c.toNat

def isNamePart (c : Char) : Bool := isNameStart c || nameParts.has c.toNat

def isLegal (c : Char) : Bool :=
  if c.toNat < 32 then c = '\t' || c = '\n' || c = '\r' else c.toNat ≠ 0xFFFE && c.toNat ≠ 0xFFFF

def isGap (c : Char) : Bool := c = ' ' || c = '\t' || c = '\n' || c = '\r'

def skipGap (cs : List Char) : List Char := cs.dropWhile isGap

def takeName? : List Char → Option (List Char × List Char)
  | [] => none
  | c :: cs =>
    if isNameStart c then some (c :: cs.takeWhile isNamePart, cs.dropWhile isNamePart) else none

def takeQualified? (cs : List Char) : Option (List Char × List Char) :=
  match takeName? cs with
  | none => none
  | some (short, ':' :: rest) =>
    (takeName? rest).map fun (name, rest) => (short ++ ':' :: name, rest)
  | some found => some found

/-! ### Comments and instructions -/

/-- Skips a comment, behind its opening. Two dashes end it, and must be followed by the bracket. -/
def skipComment? : List Char → Option (List Char)
  | [] => none
  | '-' :: '-' :: cs => dropFront? ['>'] cs
  | c :: cs => if isLegal c then skipComment? cs else none

def skipInstructionBody? : List Char → Option (List Char)
  | [] => none
  | '?' :: '>' :: cs => some cs
  | c :: cs => if isLegal c then skipInstructionBody? cs else none

def isReserved (name : List Char) : Bool := name.map Char.toLower == ['x', 'm', 'l']

def skipInstruction? (cs : List Char) : Option (List Char) :=
  match takeName? cs with
  | none => none
  | some (name, rest) =>
    if isReserved name then none
    else match rest with
      | '?' :: '>' :: rest => some rest
      | c :: rest => if isGap c then skipInstructionBody? rest else none
      | [] => none

/-! ### Tokens -/

inductive Token
  | opening (keyword : String)
  | closing
  | name (s : String) (isQualified : Bool)
  | counted (s : String)
  /-- a word that need not be a name -/
  | word (s : String)
  | marked (keyword : String)
  | quoted (cs : List Char)
  | leftBracket | rightBracket
  | leftParen
  /-- a bracket with or without a mark that says how often the group may occur -/
  | rightParen (mark : Option Char)
  | comma | bar | percent
  /-- a reference to declarations elsewhere -/
  | insertion
  /-- a comment or an instruction -/
  | aside
deriving DecidableEq

namespace Token

def goesOnWith (allowed : List Char) : List Char → Bool
  | [] => false
  | c :: _ => isGap c || allowed.contains c

def isWordPart (c : Char) : Bool := isNamePart c || c = ':'

/-- The token of a word. One colon inside of a name leaves it a name. -/
def ofWord (w : List Char) : Token :=
  let plain := Token.word (String.ofList w)
  match w with
  | [] => plain
  | c :: _ =>
    if !isNameStart c then plain
    else match cut? ':' w with
      | none => .name (String.ofList w) false
      | some (_, rest) =>
        if rest.isEmpty || rest.contains ':' then plain else .name (String.ofList w) true

variable (cs : List Char)

def takeWord? : Option (Token × List Char) :=
  let token := ofWord (cs.takeWhile isWordPart)
  let rest := cs.dropWhile isWordPart
  if goesOnWith ['>', ')', ',', '|', '[', '%'] rest then some (token, rest)
  else match token, rest with
    | .name s _, mark :: rest => if ['+', '*', '?'].contains mark then some (.counted s, rest) else none
    | _, _ => none

def takeQuoted? (quote : Char) (cs : List Char) : Option (Token × List Char) :=
  match cut? quote cs with
  | none => none
  | some (inner, rest) =>
    if inner.all isLegal && goesOnWith ['>', '%', '['] rest then some (.quoted inner, rest) else none

def isKeywordPart (c : Char) : Bool := c.isAlpha || c = '_'

def takeOpening? : Option (Token × List Char) :=
  let rest := cs.dropWhile isKeywordPart
  let token := Token.opening (String.ofList (cs.takeWhile isKeywordPart))
  match rest with
  | '%' :: c :: _ => if isGap c || c = '%' then none else some (token, rest)
  | c :: _ => if isGap c && rest.length < cs.length then some (token, rest) else none
  | [] => none

def takePercent? : Option (Token × List Char) :=
  match takeName? cs with
  | some (_, ';' :: rest) => some (.insertion, rest)
  | some _ => none
  | none => if goesOnWith ['%'] cs then some (.percent, cs) else none

def takeRightParen? : Option (Token × List Char) :=
  match cs with
  | c :: rest =>
    if ['*', '?', '+'].contains c then some (.rightParen (some c), rest)
    else if goesOnWith ['>', ',', '|', ')'] cs then some (.rightParen none, cs)
    else none
  | [] => none

def take? : Option (Token × List Char) :=
  match skipGap cs with
  | '<' :: '!' :: '-' :: '-' :: rest => (skipComment? rest).map (.aside, ·)
  | '<' :: '!' :: rest => takeOpening? rest
  | '<' :: '?' :: rest => (skipInstruction? rest).map (.aside, ·)
  | '"' :: rest => takeQuoted? '"' rest
  | '\'' :: rest => takeQuoted? '\'' rest
  | '>' :: rest => some (.closing, rest)
  | '[' :: rest => some (.leftBracket, rest)
  | ']' :: ']' :: '>' :: _ => none
  | ']' :: rest => some (.rightBracket, rest)
  | '(' :: rest => some (.leftParen, rest)
  | ')' :: rest => takeRightParen? rest
  | ',' :: rest => some (.comma, rest)
  | '|' :: rest => some (.bar, rest)
  | '%' :: rest => takePercent? rest
  | '#' :: rest =>
    match takeName? rest with
    | some (keyword, rest) =>
      if goesOnWith [')', '>', '%', '|'] rest then some (.marked (String.ofList keyword), rest) else none
    | none => none
  | c :: rest => if isWordPart c then takeWord? (c :: rest) else none
  | [] => none

/-- The tokens of a document type up to the bracket that ends it. `inside` tells whether its
declarations are being read. -/
def takeAll? : Nat → (inside : Bool) → List Char → Option (List Token × List Char)
  | 0, _, _ => none
  | fuel + 1, inside, cs => do
    let (token, rest) ← take? cs
    if token = .closing && !inside then return ([token], rest)
    let inside := token = .leftBracket || inside && token ≠ .rightBracket
    let (more, rest) ← takeAll? fuel inside rest
    return (token :: more, rest)

end Token

end SetTop.Markup
