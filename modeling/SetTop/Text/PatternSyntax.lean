import SetTop.Number.Reading
import SetTop.Text.CharName
import SetTop.Text.Identifier
import SetTop.Text.Pattern

/-!
Patterns written as text.

A dot stands for any character, brackets for a set, a bar for alternatives, and `*`,
`+`, `?` and counts in braces for repetition. Parentheses group and remember, under a
number and possibly a name; with a question mark in front they look around, ask for an
earlier group, or change how what is in them is read. A text that breaks these rules is no
pattern.
-/

namespace SetTop.Pattern

inductive SyntaxError
  | malformed
  | countTooLarge
  | countTooLong
  | classesClash
deriving DecidableEq

inductive Sign
  | plain (c : Char)
  | escaped (c : Char)
  | dangling
deriving DecidableEq

def signs : List Char → List Sign
  | [] => []
  | ['\\'] => [.dangling]
  | '\\' :: c :: cs => .escaped c :: signs cs
  | c :: cs => .plain c :: signs cs

structure Mode where
  fold : Bool := false
  lines : Bool := false
  dotAll : Bool := false
  spaced : Bool := false
  ascii : Bool := false
  /-- classes hold all characters, and were asked to -/
  full : Bool := false
  /-- nothing may be repeated -/
  once : Bool := false
deriving DecidableEq

namespace Mode

def folding (m : Mode) : Folding := if m.ascii then .ascii else .full

def set (m : Mode) (s : CharSet) : CharSet := if m.fold then .folded m.folding s else s

def class? (m : Mode) : Char → Option CharSet
  | 'd' => some (if m.ascii then .asciiDigit else .digit)
  | 'D' => some (.compl (if m.ascii then .asciiDigit else .digit))
  | 's' => some (if m.ascii then .asciiBlank else .blank)
  | 'S' => some (.compl (if m.ascii then .asciiBlank else .blank))
  | 'w' => some (if m.ascii then .asciiWord else .word)
  | 'W' => some (.compl (if m.ascii then .asciiWord else .word))
  | _ => none

def letters (m : Mode) : CharSet := if m.ascii then .asciiWord else .word

end Mode

abbrev Width := Nat × Nat

def maxWidth : Nat := Nat.pow 2 64

def maxCount : Nat := 4294967295

def maxGroups : Nat := 1073741823

def addWidth (a b : Width) : Width := (a.1 + b.1, a.2 + b.2)

def eitherWidth (a b : Width) : Width := (min a.1 b.1, max a.2 b.2)

def repeatWidth (w : Width) (least : Nat) (most : Option Nat) : Width :=
  (w.1 * least, match most with
    | some n => w.2 * n
    | none => if w.2 = 0 then 0 else maxWidth)

structure Groups where
  count : Nat := 0
  named : List (String × Nat) := []
  closed : List (Nat × Width) := []
  /-- while looking behind: how many groups there were before -/
  behind : Option Nat := none
  /-- the groups that were asked for by number -/
  wanted : List Nat := []
  /-- some look behind has no fixed width -/
  isLoose : Bool := false
  /-- something is repeated -/
  repeats : Bool := false

inductive PartKind
  | plain | anchor | repetition
deriving DecidableEq

structure Part where
  pattern : Pattern
  width : Width
  kind : PartKind := .plain

structure Parsed where
  part : Part
  rest : List Sign
  groups : Groups

abbrev Reading := Except SyntaxError

/-! ### Characters -/

def controlEscape? : Char → Option Char
  | 'a' => some (Char.ofNat 7)
  | 'f' => some (Char.ofNat 12)
  | 'n' => some '\n'
  | 'r' => some '\r'
  | 't' => some '\t'
  | 'v' => some (Char.ofNat 11)
  | '\\' => some '\\'
  | _ => none

def takePlain (n : Nat) (test : Char → Bool) : List Sign → List Char × List Sign
  | .plain c :: ss =>
    match n with
    | 0 => ([], .plain c :: ss)
    | n + 1 =>
      if test c then
        let (cs, rest) := takePlain n test ss
        (c :: cs, rest)
      else ([], .plain c :: ss)
  | ss => ([], ss)

variable (c : Char)

def isOctal : Bool := '0' ≤ c && c ≤ '7'

def valueOf (base : Nat) (cs : List Char) : Nat :=
  cs.foldl (fun n c => n * base + (Number.plainHexValue? c).getD 0) 0

def hexEscape (width : Nat) (ss : List Sign) : Reading (Nat × List Sign) := do
  let (ds, rest) := takePlain width (fun c => (Number.plainHexValue? c).isSome) ss
  if ds.length = width && valueOf 16 ds < 0x110000 then return (valueOf 16 ds, rest)
  throw .malformed

def takeName (close : Char) : List Sign → Reading (List Char × List Sign)
  | .plain c :: ss =>
    if c = close then .ok ([], ss)
    else do
      let (cs, rest) ← takeName close ss
      return (c :: cs, rest)
  | _ => .error .malformed

def nameEscape (ss : List Sign) : Reading (Nat × List Sign) := do
  match ss with
  | .plain '\x7b' :: ss =>
    let (name, rest) ← takeName '\x7d' ss
    match Text.characterNamed? name with
    | some c => return (c.toNat, rest)
    | none => throw .malformed
  | _ => throw .malformed

/-- A code point behind a backslash that means itself or is given by a number or a name. -/
def plainEscape (rest : List Sign) : Reading (Nat × List Sign) :=
  match controlEscape? c with
  | some d => .ok (d.toNat, rest)
  | none =>
    if c == 'x' then hexEscape 2 rest
    else if c == 'u' then hexEscape 4 rest
    else if c == 'U' then hexEscape 8 rest
    else if c == 'N' then nameEscape rest
    else if c == '0' then
      let (ds, rest) := takePlain 2 isOctal rest
      .ok (valueOf 8 ds, rest)
    else if c.isAlphanum then .error .malformed
    else .ok (c.toNat, rest)

def octalEscape (rest : List Sign) : Reading (Nat × List Sign) :=
  let (ds, rest) := takePlain 2 isOctal rest
  let n := valueOf 8 (c :: ds)
  if n < 256 then .ok (n, rest) else .error .malformed

def pointSet (n : Nat) : CharSet := if (Char.ofNat n).toNat = n then .char (Char.ofNat n) else .range n n

/-! ### Sets -/

variable (m : Mode)

def takeSetItem : List Sign → Reading ((Nat ⊕ CharSet) × List Sign)
  | .escaped 'b' :: rest => .ok (.inl 8, rest)
  | .escaped c :: rest =>
    match m.class? c with
    | some s => .ok (.inr s, rest)
    | none => do
      let (n, rest) ← if isOctal c then octalEscape c rest else plainEscape c rest
      return (.inl n, rest)
  | .plain c :: rest => .ok (.inl c.toNat, rest)
  | _ => .error .malformed

def itemSet : Nat ⊕ CharSet → CharSet
  | .inl n => pointSet n
  | .inr s => s

def takeSet (m : Mode) : Nat → (first : Bool) → CharSet → List Sign → Reading (CharSet × List Sign)
  | 0, _, _, _ => .error .malformed
  | fuel + 1, first, acc, ss => do
    match ss, first with
    | .plain ']' :: rest, false => return (acc, rest)
    | ss, _ =>
      let (item, rest) ← takeSetItem m ss
      match rest with
      | .plain '-' :: .plain ']' :: rest => return (.union (.union acc (itemSet item)) (.char '-'), rest)
      | .plain '-' :: rest =>
        match item, ← takeSetItem m rest with
        | .inl a, (.inl b, rest) =>
          if a ≤ b then takeSet m fuel false (.union acc (.range a b)) rest else throw .malformed
        | _, _ => throw .malformed
      | rest => takeSet m fuel false (.union acc (itemSet item)) rest

/-! ### Repetition -/

def countOf (ds : List Char) : Reading (Option Nat) :=
  if ds.isEmpty then .ok none
  else if ds.length > Number.maxDigits then .error .countTooLong
  else
    let n := valueOf 10 ds
    if n < maxCount then .ok (some n) else .error .countTooLarge

/-- Counts in braces, behind the opening one; nothing if the brace stands for itself. -/
def takeCounts (ss : List Sign) : Reading (Option ((Nat × Option Nat) × List Sign)) := do
  let (low, rest) := takePlain ss.length Char.isDigit ss
  let (high, isRange, rest) := match rest with
    | .plain ',' :: rest =>
      let (high, rest) := takePlain rest.length Char.isDigit rest
      (high, true, rest)
    | rest => (low, false, rest)
  match rest with
  | .plain '\x7d' :: .dangling :: _ => throw .malformed
  | .plain '\x7d' :: rest =>
    if low.isEmpty && !isRange then return none
    let least ← countOf low
    let most ← countOf high
    if most.any (· < least.getD 0) then throw .malformed
    return some ((least.getD 0, most), rest)
  | _ => return none

def takeRepetition (ss : List Sign) : Reading (Option ((Nat × Option Nat) × List Sign)) :=
  match ss with
  | .plain '*' :: rest => .ok (some ((0, none), rest))
  | .plain '+' :: rest => .ok (some ((1, none), rest))
  | .plain '?' :: rest => .ok (some ((0, some 1), rest))
  | .plain '\x7b' :: rest => takeCounts rest
  | _ => .ok none

def takeGreed : List Sign → Greed × List Sign
  | .plain '?' :: rest => (.lazy, rest)
  | .plain '+' :: rest => (.possessive, rest)
  | rest => (.greedy, rest)

def repeatLast (least : Nat) (most : Option Nat) (greed : Greed) : List Part → Reading (List Part)
  | [] => .error .malformed
  | part :: parts =>
    match part.kind with
    | .plain => .ok (⟨.repeated part.pattern least most greed, repeatWidth part.width least most, .repetition⟩ :: parts)
    | _ => .error .malformed

/-! ### Groups -/

def openGroup (g : Groups) (name : Option String) : Reading (Nat × Groups) :=
  let n := g.count + 1
  match name with
  | none => .ok (n, { g with count := n })
  | some s =>
    if g.named.any (·.1 == s) then .error .malformed
    else .ok (n, { g with count := n, named := (s, n) :: g.named })

/-- Checks that a group can be referred to. While looking behind, it must have been there before. -/
def checkBehind (g : Groups) (n : Nat) : Reading Unit :=
  match g.behind with
  | none => .ok ()
  | some before => if (g.closed.lookup n).isSome && n ≤ before then .ok () else .error .malformed

def reference (g : Groups) (n : Nat) (rest : List Sign) : Reading Parsed := do
  match g.closed.lookup n with
  | none => throw .malformed
  | some width =>
    checkBehind g n
    let fold := if m.fold then some m.folding else none
    return ⟨⟨.again (toString n) fold, width, .plain⟩, rest, g⟩

def ofSet (s : CharSet) : Part := ⟨.one (m.set s), (1, 1), .plain⟩

def anchor (p : Pattern) : Part := ⟨p, (0, 0), .anchor⟩

/-- A part behind a backslash and a digit: a group, or a character given by three octal digits. -/
def digitEscape (g : Groups) (c : Char) (rest : List Sign) : Reading Parsed :=
  match rest with
  | .plain d :: more =>
    if !d.isDigit then reference m g (valueOf 10 [c]) rest
    else match more with
      | .plain e :: more' =>
        if isOctal c && isOctal d && isOctal e then
          let n := valueOf 8 [c, d, e]
          if n < 256 then .ok ⟨ofSet m (pointSet n), more', g⟩ else .error .malformed
        else reference m g (valueOf 10 [c, d]) more
      | _ => reference m g (valueOf 10 [c, d]) more
  | _ => reference m g (valueOf 10 [c]) rest

def takeEscape (g : Groups) (c : Char) (rest : List Sign) : Reading Parsed :=
  match c with
  | 'A' => .ok ⟨anchor (.start false), rest, g⟩
  | 'Z' => .ok ⟨anchor .veryEnd, rest, g⟩
  | 'b' => .ok ⟨anchor (.boundary true m.letters), rest, g⟩
  | 'B' => .ok ⟨anchor (.boundary false m.letters), rest, g⟩
  | _ =>
    match m.class? c with
    | some s => .ok ⟨ofSet m s, rest, g⟩
    | none =>
      if '1' ≤ c && c ≤ '9' then digitEscape m g c rest
      else do
        let (n, rest) ← plainEscape c rest
        return ⟨ofSet m (pointSet n), rest, g⟩

def takeGroupName (close : Char) (ss : List Sign) : Reading (String × List Sign) := do
  let (name, rest) ← takeName close ss
  if Text.isIdentifier name then return (String.ofList name, rest)
  throw .malformed

def conditionGroup (g : Groups) (name : List Char) : Reading (Nat × Groups) :=
  if Text.isIdentifier name then
    match g.named.lookup (String.ofList name) with
    | some n => .ok (n, g)
    | none => .error .malformed
  else match Number.readInt? (String.ofList name) with
    | some n => if 0 < n && n < maxGroups then .ok (n.toNat, { g with wanted := n.toNat :: g.wanted }) else .error .malformed
    | none => .error .malformed

def Mode.switch (on : Bool) : Char → Mode
  | 'i' => { m with fold := on }
  | 'm' => { m with lines := on }
  | 's' => { m with dotAll := on }
  | 'x' => { m with spaced := on }
  | 'a' => { m with ascii := true, full := false }
  | 'u' => { m with ascii := false, full := true }
  | 't' => { m with once := true }
  | _ => m

def isSwitch : Bool := ['i', 'm', 's', 'x', 'a', 'u', 't'].contains c

/-- The mode that letters up to a colon or a closing parenthesis make of a mode, and whether it was
the colon. Letters behind a dash switch off. -/
def takeMode (ss : List Sign) : Reading (Mode × Bool × List Sign) := do
  let (on, rest) := takePlain ss.length isSwitch ss
  let made := on.foldl (fun m c => m.switch true c) m
  if on.contains 'a' && on.contains 'u' then throw .malformed
  match rest with
  | .plain ':' :: rest =>
    if on.isEmpty || on.contains 't' then throw .malformed else return (made, true, rest)
  | .plain ')' :: rest => if on.isEmpty then throw .malformed else return (made, false, rest)
  | .plain '-' :: rest =>
    let (off, rest) := takePlain rest.length isSwitch rest
    if off.isEmpty || on.contains 't' ||
        off.any fun c => ['a', 'u', 't'].contains c || on.contains c then
      throw .malformed
    match rest with
    | .plain ':' :: rest => return (off.foldl (fun m c => m.switch false c) made, true, rest)
    | _ => throw .malformed
  | _ => throw .malformed

def skipComment : List Sign → Reading (List Sign)
  | .plain ')' :: rest => .ok rest
  | .dangling :: _ => .error .malformed
  | _ :: rest => skipComment rest
  | [] => .error .malformed

def skipLine : List Sign → Reading (List Sign)
  | .plain '\n' :: rest => .ok rest
  | .dangling :: _ => .error .malformed
  | _ :: rest => skipLine rest
  | [] => .ok []

def isSpacing : Bool := c = ' ' || (9 ≤ c.toNat && c.toNat ≤ 13)

def joinParts (parts : List Part) : Part :=
  parts.foldl (fun acc part => ⟨.both part.pattern acc.pattern, addWidth part.width acc.width, .plain⟩)
    ⟨.empty, (0, 0), .plain⟩

def takeClose : List Sign → Reading (List Sign)
  | .plain ')' :: rest => .ok rest
  | _ => .error .malformed

mutual

def takeAlternatives : Nat → Mode → Groups → List Sign → Reading Parsed
  | 0, _, _, _ => .error .malformed
  | fuel + 1, m, g, ss => do
    let first ← takeSequence fuel m g [] ss
    match first.rest with
    | .plain '|' :: rest =>
      let second ← takeAlternatives fuel m first.groups rest
      return { second with
        part := ⟨.either first.part.pattern second.part.pattern,
          eitherWidth first.part.width second.part.width, .plain⟩ }
    | _ => return first

def takeSequence : Nat → Mode → Groups → List Part → List Sign → Reading Parsed
  | 0, _, _, _, _ => .error .malformed
  | fuel + 1, m, g, parts, ss => do
    match ss with
    | [] => return ⟨joinParts parts, [], g⟩
    | .dangling :: _ => throw .malformed
    | .escaped c :: rest =>
      let next ← takeEscape m g c rest
      takeSequence fuel m next.groups (next.part :: parts) next.rest
    | .plain c :: rest =>
      if c = '|' || c = ')' then return ⟨joinParts parts, ss, g⟩
      else if m.spaced && isSpacing c then takeSequence fuel m g parts rest
      else if m.spaced && c = '#' then takeSequence fuel m g parts (← skipLine rest)
      else match ← takeRepetition ss with
        | some ((least, most), rest) =>
          let (greed, rest) := takeGreed rest
          takeSequence fuel m { g with repeats := true } (← repeatLast least most greed parts) rest
        | none =>
          match c, rest with
          | '(', .plain '?' :: .plain '#' :: rest => takeSequence fuel m g parts (← skipComment rest)
          | _, _ =>
            let next ← takePart fuel m g c rest
            takeSequence fuel m next.groups (next.part :: parts) next.rest

def takePart : Nat → Mode → Groups → Char → List Sign → Reading Parsed
  | 0, _, _, _, _ => .error .malformed
  | fuel + 1, m, g, c, rest =>
    match c, rest with
    | '.', rest => .ok ⟨ofSet m (if m.dotAll then .all else .any), rest, g⟩
    | '^', rest => .ok ⟨anchor (.start m.lines), rest, g⟩
    | '$', rest => .ok ⟨anchor (.finish m.lines), rest, g⟩
    | '[', .plain '^' :: rest => do
      let (s, rest) ← takeSet m (rest.length + 1) true .none rest
      return ⟨ofSet m (.compl s), rest, g⟩
    | '[', rest => do
      let (s, rest) ← takeSet m (rest.length + 1) true .none rest
      return ⟨ofSet m s, rest, g⟩
    | '(', .plain '?' :: .plain 'P' :: .plain '<' :: rest => do
      let (name, rest) ← takeGroupName '>' rest
      takeRemembered fuel m g (some name) rest
    | '(', .plain '?' :: .plain 'P' :: .plain '=' :: rest => do
      let (name, rest) ← takeGroupName ')' rest
      match g.named.lookup name with
      | some n => reference m g n rest
      | none => throw .malformed
    | '(', .plain '?' :: .plain ':' :: rest => takeInside fuel m g id rest
    | '(', .plain '?' :: .plain '>' :: rest => takeInside fuel m g .atomic rest
    | '(', .plain '?' :: .plain '=' :: rest => takeAhead fuel m g true rest
    | '(', .plain '?' :: .plain '!' :: rest => takeAhead fuel m g false rest
    | '(', .plain '?' :: .plain '<' :: .plain '=' :: rest => takeBehind fuel m g true rest
    | '(', .plain '?' :: .plain '<' :: .plain '!' :: rest => takeBehind fuel m g false rest
    | '(', .plain '?' :: .plain '(' :: rest => do
      let (name, rest) ← takeName ')' rest
      let (n, g) ← conditionGroup g name
      checkBehind g n
      takeCondition fuel m g n rest
    | '(', .plain '?' :: rest => do
      let (inner, isScoped, rest) ← takeMode m rest
      if isScoped then takeInside fuel inner g id rest else throw .malformed
    | '(', rest => takeRemembered fuel m g none rest
    | c, rest => .ok ⟨ofSet m (.char c), rest, g⟩

def takeInside : Nat → Mode → Groups → (Pattern → Pattern) → List Sign → Reading Parsed
  | 0, _, _, _, _ => .error .malformed
  | fuel + 1, m, g, wrap, ss => do
    let inner ← takeAlternatives fuel m g ss
    return ⟨⟨wrap inner.part.pattern, inner.part.width, .plain⟩, ← takeClose inner.rest, inner.groups⟩

/-- The inside of parentheses that are remembered, under their number and possibly a name. -/
def takeRemembered : Nat → Mode → Groups → Option String → List Sign → Reading Parsed
  | 0, _, _, _, _ => .error .malformed
  | fuel + 1, m, g, name, ss => do
    let (n, g) ← openGroup g name
    let inner ← takeAlternatives fuel m g ss
    let numbered := Pattern.group (toString n) inner.part.pattern
    let pattern := match name with
      | some s => .group s numbered
      | none => numbered
    let width := (min inner.part.width.1 maxWidth, min inner.part.width.2 maxWidth)
    return ⟨⟨pattern, width, .plain⟩, ← takeClose inner.rest,
      { inner.groups with closed := (n, width) :: inner.groups.closed }⟩

def takeAhead : Nat → Mode → Groups → Bool → List Sign → Reading Parsed
  | 0, _, _, _, _ => .error .malformed
  | fuel + 1, m, g, holds, ss => do
    let inner ← takeAlternatives fuel m g ss
    return ⟨⟨.ahead holds inner.part.pattern, (0, 0), .plain⟩, ← takeClose inner.rest, inner.groups⟩

def takeBehind : Nat → Mode → Groups → Bool → List Sign → Reading Parsed
  | 0, _, _, _, _ => .error .malformed
  | fuel + 1, m, g, holds, ss => do
    let inner ← takeAlternatives fuel m { g with behind := some (g.behind.getD g.count) } ss
    let (least, most) := inner.part.width
    return ⟨⟨.behind holds least inner.part.pattern, (0, 0), .plain⟩, ← takeClose inner.rest,
      { inner.groups with
        behind := g.behind, isLoose := inner.groups.isLoose || least ≠ most || least > maxCount }⟩

/-- What follows the question for a group: one part, or two with a bar between them. -/
def takeCondition : Nat → Mode → Groups → Nat → List Sign → Reading Parsed
  | 0, _, _, _, _ => .error .malformed
  | fuel + 1, m, g, n, ss => do
    let yes ← takeSequence fuel m g [] ss
    match yes.rest with
    | .plain '|' :: rest =>
      let no ← takeSequence fuel m yes.groups [] rest
      return ⟨⟨.given (toString n) yes.part.pattern no.part.pattern,
        eitherWidth yes.part.width no.part.width, .plain⟩, ← takeClose no.rest, no.groups⟩
    | rest =>
      return ⟨⟨.given (toString n) yes.part.pattern .empty, (0, yes.part.width.2), .plain⟩,
        ← takeClose rest, yes.groups⟩

end

def takeStart : Nat → Mode → List Sign → Reading (Mode × List Sign)
  | 0, m, ss => .ok (m, ss)
  | fuel + 1, m, ss =>
    match ss with
    | .plain '(' :: .plain '?' :: .plain '#' :: rest => do takeStart fuel m (← skipComment rest)
    | .plain '(' :: .plain '?' :: rest =>
      match takeMode m rest with
      | .ok (made, false, rest) =>
        takeStart fuel { made with ascii := m.ascii || made.ascii, full := m.full || made.full } rest
      | _ => .ok (m, ss)
    | .plain c :: rest => do
      if m.spaced && isSpacing c then takeStart fuel m rest
      else if m.spaced && c = '#' then takeStart fuel m (← skipLine rest)
      else return (m, ss)
    | ss => .ok (m, ss)

def ofText (s : String) : Reading Pattern := do
  let ss := signs s.toList
  let (m, ss) ← takeStart ss.length {} ss
  let parsed ← takeAlternatives (4 * ss.length + 8) m {} ss
  let g := parsed.groups
  if m.ascii && m.full then throw .classesClash
  if !parsed.rest.isEmpty || g.wanted.any (g.count < ·) || g.isLoose || (m.once && g.repeats) then
    throw .malformed
  return parsed.part.pattern

def ofText? (s : String) : Option Pattern := (ofText s).toOption

end SetTop.Pattern
