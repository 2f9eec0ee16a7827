import SetTop.Text.CharSet

/-!
Patterns for text.

A pattern can match at a place of a text in several ways, and prefers the first alternative to the
second and a greedy repetition as long as possible. `run` looks for the first end that suits what
follows. A match may start in the middle of a text and end before its end; `matchesWhole` asks for
all of the text.
-/

namespace SetTop

/-- How often a repetition prefers to repeat. A possessive one repeats as often as it can, and never
less. -/
inductive Greed
  | greedy | lazy | possessive
deriving DecidableEq

inductive Pattern
  | empty
  | one (s : CharSet)
  | both (a b : Pattern)
  | either (a b : Pattern)
  | group (name : String) (p : Pattern)
  | repeated (p : Pattern) (least : Nat) (most : Option Nat) (greed : Greed)
  | again (name : String) (fold : Option Folding)
  /-- one pattern if a group has matched before, and another one if not -/
  | given (name : String) (yes no : Pattern)
  | start (ofLine : Bool)
  /-- the end of the text or the line end before it, or the end of any line -/
  | finish (ofLine : Bool)
  | veryEnd
  | boundary (holds : Bool) (letters : CharSet)
  | ahead (holds : Bool) (p : Pattern)
  | behind (holds : Bool) (width : Nat) (p : Pattern)
  | atomic (p : Pattern)
deriving DecidableEq

structure Spot where
  /-- the text before, last character first -/
  before : List Char := []
  rest : List Char
  found : List (String × List Char) := []
deriving DecidableEq

namespace Spot

def stepOver (c : Char) (rest : List Char) (s : Spot) : Spot :=
  { s with before := c :: s.before, rest := rest }

def remember (name : String) (from_ : Spot) (s : Spot) : Spot :=
  { s with found := (name, from_.rest.take (from_.rest.length - s.rest.length)) :: s.found }

def advance (n : Nat) (s : Spot) : Spot :=
  { s with before := (s.rest.take n).reverse ++ s.before, rest := s.rest.drop n }

def back? (n : Nat) (s : Spot) : Option Spot :=
  if n ≤ s.before.length then
    some { s with before := s.before.drop n, rest := (s.before.take n).reverse ++ s.rest }
  else none

def atStart (ofLine : Bool) (s : Spot) : Bool :=
  s.before.isEmpty || (ofLine && s.before.head? == some '\n')

def atFinish (ofLine : Bool) (s : Spot) : Bool :=
  if ofLine then s.rest.isEmpty || s.rest.head? == some '\n' else s.rest == [] || s.rest == ['\n']

def atBoundary (holds : Bool) (letters : CharSet) (s : Spot) : Bool :=
  let before := s.before.head?.any letters.has
  let after := s.rest.head?.any letters.has
  !(s.before.isEmpty && s.rest.isEmpty) && (before != after) == holds

def repeat? (fold : Option Folding) (cs : List Char) (s : Spot) : Option Spot :=
  let plain (cs : List Char) : List Char :=
    match fold with
    | some f => cs.map f.lower
    | none => cs
  if plain (s.rest.take cs.length) == plain cs then some (s.advance cs.length) else none

def group? (s : Spot) (name : String) : Option String := (s.found.lookup name).map String.ofList

def group (s : Spot) (name : String) : String := (s.group? name).getD ""

end Spot

namespace Pattern

/-! ### Repetition -/

/-- Whether there may be another round after `count` of them. `last` is how much text was left
before the last round that was not asked for; one that got nowhere is the last. -/
def mayRepeat (most last : Option Nat) (count : Nat) (s : Spot) : Bool :=
  most.all (count < ·) && last != some s.rest.length

def rounds (step : Spot → (Spot → Option Spot) → Option Spot) (least : Nat) (most : Option Nat)
    (greedy : Bool) (next : Spot → Option Spot) :
    (fuel count : Nat) → (last : Option Nat) → Spot → Option Spot
  | 0, _, _, _ => none
  | fuel + 1, count, last, s =>
    if count < least then step s (rounds step least most greedy next fuel (count + 1) last)
    else
      let further (_ : Unit) : Option Spot :=
        if mayRepeat most last count s then
          step s (rounds step least most greedy next fuel (count + 1) (some s.rest.length))
        else none
      if greedy then (further ()).orElse fun _ => next s else (next s).orElse further

def allRounds (step : Spot → Option Spot) (least : Nat) (most : Option Nat) :
    (fuel count : Nat) → (last : Option Nat) → Spot → Option Spot
  | 0, _, _, _ => none
  | fuel + 1, count, last, s =>
    if count < least then (step s).bind (allRounds step least most fuel (count + 1) last)
    else if mayRepeat most last count s then
      match step s with
      | some t => allRounds step least most fuel (count + 1) (some s.rest.length) t
      | none => some s
    else some s

/-- How many rounds a repetition can have: those asked for, those that get somewhere, and one more.
-/
def roundLimit (least : Nat) (s : Spot) : Nat := least + s.rest.length + 2

/-! ### Matching -/

def run : Pattern → Spot → (next : Spot → Option Spot) → Option Spot
  | .empty, s, next => next s
  | .one set, s, next =>
    match s.rest with
    | c :: rest => if set.has c then next (s.stepOver c rest) else none
    | [] => none
  | .both a b, s, next => run a s fun t => run b t next
  | .either a b, s, next => (run a s next).orElse fun _ => run b s next
  | .group name p, s, next => run p s fun t => next (Spot.remember name s t)
  | .repeated p least most .possessive, s, next =>
    (allRounds (fun t => run p t some) least most (roundLimit least s) 0 none s).bind next
  | .repeated p least most .greedy, s, next =>
    rounds (run p) least most true next (roundLimit least s) 0 none s
  | .repeated p least most .lazy, s, next =>
    rounds (run p) least most false next (roundLimit least s) 0 none s
  | .again name fold, s, next => ((s.found.lookup name).bind (s.repeat? fold)).bind next
  | .given name yes no, s, next =>
    if (s.found.lookup name).isSome then run yes s next else run no s next
  | .start ofLine, s, next => if s.atStart ofLine then next s else none
  | .finish ofLine, s, next => if s.atFinish ofLine then next s else none
  | .veryEnd, s, next => if s.rest.isEmpty then next s else none
  | .boundary holds letters, s, next => if s.atBoundary holds letters then next s else none
  | .ahead holds p, s, next =>
    match run p s some with
    | some t => if holds then next { s with found := t.found } else none
    | none => if holds then none else next s
  | .behind holds width p, s, next =>
    match (s.back? width).bind fun t => run p t some with
    | some t => if holds then next { s with found := t.found } else none
    | none => if holds then none else next s
  | .atomic p, s, next => (run p s some).bind next

/-! ### Questions -/

def startOf (cs : List Char) : Spot := { rest := cs }

variable (p : Pattern)

def matchStart (cs : List Char) : Option Spot := p.run (startOf cs) some

def matchesWhole (cs : List Char) : Bool :=
  (p.run (startOf cs) fun t => if t.rest.isEmpty then some t else none).isSome

def searchFrom (p : Pattern) : List Char → List Char → Option Spot
  | before, [] => p.run { before := before, rest := [] } some
  | before, c :: cs =>
    match p.run { before := before, rest := c :: cs } some with
    | some t => some t
    | none => searchFrom p (c :: before) cs

def search (cs : List Char) : Option Spot := p.searchFrom [] cs

/-! ### Building -/

def text (s : String) : Pattern := s.toList.foldr (fun c p => .both (.one (.char c)) p) .empty

def sequence (ps : List Pattern) : Pattern := ps.foldr .both .empty

def oneOrMore (s : CharSet) : Pattern := .repeated (.one s) 1 none .greedy

def many (s : CharSet) : Pattern := .repeated (.one s) 0 none .greedy

def optional : Pattern := .repeated p 0 (some 1) .greedy

def caseless : Pattern → Pattern
  | .empty => .empty
  | .one s => .one (.folded .full s)
  | .both a b => .both a.caseless b.caseless
  | .either a b => .either a.caseless b.caseless
  | .group name p => .group name p.caseless
  | .repeated p least most greed => .repeated p.caseless least most greed
  | .again name _ => .again name (some .full)
  | .given name yes no => .given name yes.caseless no.caseless
  | .start ofLine => .start ofLine
  | .finish ofLine => .finish ofLine
  | .veryEnd => .veryEnd
  | .boundary holds letters => .boundary holds letters
  | .ahead holds p => .ahead holds p.caseless
  | .behind holds width p => .behind holds width p.caseless
  | .atomic p => .atomic p.caseless

end Pattern

end SetTop
