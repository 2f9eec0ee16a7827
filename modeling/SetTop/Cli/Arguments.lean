import SetTop.Session

/-!
Command lines.

A grammar names the options of a program and its operands. Options may be shortened as long as they
stay unambiguous, short ones may be put together, and a value may follow after an equals sign.
Operands are taken as early as they fit; two dashes end the options. `scan` gives what was found in
the order in which it takes effect, and why it went no further.
-/

namespace SetTop.Cli

inductive ValueKind
  | text
  | whole
  | oneOf (choices : List String)
deriving DecidableEq

def ValueKind.accepts : ValueKind → String → Bool
  | .text, _ => true
  | .whole, s => (Number.readInt? s).isSome
  | .oneOf choices, s => choices.contains s

structure Flag where
  key : String
  names : List String
  value : Option ValueKind := none
deriving DecidableEq

def Flag.takesValue (f : Flag) : Bool := f.value.isSome

def Flag.accepts (f : Flag) (value : Option String) : Bool :=
  match f.value, value with
  | some kind, some v => kind.accepts v
  | _, _ => true

inductive Arity
  | one
  | optional
  | many
  /-- all that follows, options too -/
  | rest
deriving DecidableEq

structure Operand where
  key : String
  arity : Arity := .one
  kind : ValueKind := .text
deriving DecidableEq

structure Grammar where
  flags : List Flag
  operands : List Operand
  help : String := ""

inductive Item
  | flag (key : String) (value : Option String)
  | operand (key : String) (values : List String)
deriving DecidableEq

inductive Mark
  | plain
  | dashes
  /-- an option, or something that looks like one; `joined` says that a value came after `=` -/
  | option (flag : Option Flag) (name : String) (value : Option String) (joined : Bool)
deriving DecidableEq

def Mark.isOption : Mark → Bool
  | .option .. => true
  | _ => false

namespace Grammar

def find? (g : Grammar) (name : String) : Option Flag := g.flags.find? (·.names.contains name)

def spellings (g : Grammar) : List (String × Flag) :=
  g.flags.flatMap fun f => f.names.map (·, f)

def cutValue (s : String) : String × Option String :=
  match Text.cut? '=' s.toList with
  | some (a, b) => (String.ofList a, some (String.ofList b))
  | none => (s, none)

def readings (g : Grammar) (s : String) : List Mark :=
  if startsWithText s "--" then
    let (front, value) := cutValue s
    g.spellings.filterMap fun (name, f) =>
      if startsWithText name front then some (.option (some f) name value value.isSome) else none
  else
    let short := String.ofList (s.toList.take 2)
    let tail := String.ofList (s.toList.drop 2)
    g.spellings.filterMap fun (name, f) =>
      if name == short then some (.option (some f) name (some tail) false)
      else if startsWithText name s then some (.option (some f) name none false)
      else none

/-- Whether text looks like a negative number; a line end may follow it. -/
def looksNegative (s : String) : Bool :=
  match Text.dropLineEnd s.toList with
  | '-' :: cs =>
    let whole := cs.takeWhile Text.isDecimalDigit
    match cs.dropWhile Text.isDecimalDigit with
    | [] => !whole.isEmpty
    | '.' :: part => !part.isEmpty && part.all Text.isDecimalDigit
    | _ => false
  | _ => false

def classify? (g : Grammar) (s : String) : Option Mark :=
  if !startsWithText s "-" then some .plain
  else match g.find? s with
    | some f => some (.option (some f) s none false)
    | none =>
      if s == "-" then some .plain
      else
        let (front, value) := cutValue s
        match (if value.isSome then g.find? front else none) with
        | some f => some (.option (some f) front value true)
        | none =>
          match g.readings s with
          | [m] => some m
          | _ :: _ :: _ => none
          | [] =>
            if looksNegative s && !(g.spellings.any fun (n, _) => looksNegative n) then some .plain
            else if s.toList.contains ' ' then some .plain
            else some (.option none s none false)

/-- Classifies all arguments. What follows two dashes is no option. -/
def classifyAll? (g : Grammar) : List String → Option (List (Mark × String))
  | [] => some []
  | s :: rest =>
    if s == "--" then some ((.dashes, s) :: rest.map (.plain, ·))
    else do
      let m ← g.classify? s
      return (m, s) :: (← g.classifyAll? rest)

end Grammar

/-- How many arguments each operand takes from the front, if all of them find enough. -/
def shares? : List Arity → List Mark → Option (List Nat)
  | [], _ => some []
  | a :: rest, marks =>
    let dashes (ms : List Mark) : Nat := (ms.takeWhile (· == .dashes)).length
    let before := dashes marks
    let after := marks.drop before
    let count? : Option Nat := match a with
      | .one => match after with
        | .plain :: more => some (before + 1 + dashes more)
        | _ => none
      | .optional => match after with
        | .plain :: more => some (before + 1 + dashes more)
        | _ => some before
      | .many => some (marks.takeWhile (!·.isOption)).length
      | .rest => some marks.length
    match count? with
    | none => none
    | some n => (shares? rest (marks.drop n)).map (n :: ·)

def longestShares (operands : List Operand) (marks : List Mark) : Nat → List Nat
  | 0 => []
  | n + 1 =>
    match shares? ((operands.take (n + 1)).map (·.arity)) marks with
    | some counts => counts
    | none => longestShares operands marks n

inductive Stop
  | helpWanted
  | misuse
deriving DecidableEq

def helpFlag : Flag := ⟨"help", ["-h", "--help"], none⟩

def verboseFlag : Flag := ⟨"verbose", ["-v", "--verbose"], none⟩

structure Reading where
  items : List Item := []
  operands : List Operand
  left : List (Mark × String)
  extra : Bool := false
  stop : Option Stop := none

def operandValues (a : Arity) (values : List String) : List String :=
  match a with
  | .rest => values
  | _ => values.erase "--"

def handOut : List Operand → List Nat → Reading → Reading
  | o :: os, n :: ns, r =>
    let values := operandValues o.arity ((r.left.take n).map (·.2))
    if values.all o.kind.accepts then
      handOut os ns { r with
        items := r.items ++ [.operand o.key values], operands := os, left := r.left.drop n }
    else { r with stop := some .misuse }
  | _, _, r => r

def Reading.takeOperands (r : Reading) : Reading :=
  let counts := longestShares r.operands (r.left.map (·.1)) r.operands.length
  handOut r.operands counts r

inductive OptionResult
  | wrong
  | done (found : List (Flag × Option String)) (extra : Bool) (used : Nat)

/-- Reads an option, and further short ones behind it. `next` is the argument that follows. -/
def takeOption (g : Grammar) (next : Option (Mark × String)) :
    Nat → List (Flag × Option String) → Flag → String → Option String → Bool → OptionResult
  | 0, _, _, _, _, _ => .wrong
  | fuel + 1, found, f, name, value, joined =>
    match value with
    | none =>
      if f.takesValue then
        match next with
        | some (.plain, s) => .done (found ++ [(f, some s)]) false 2
        | _ => .wrong
      else .done (found ++ [(f, none)]) false 1
    | some v =>
      if f.takesValue then .done (found ++ [(f, some v)]) false 1
      else if startsWithText name "--" then .wrong
      else
        match v.toList with
        | [] => .wrong
        | c :: cs =>
          if joined || c == '-' then .wrong
          else
            let found := found ++ [(f, none)]
            let name := String.ofList ['-', c]
            match g.find? name with
            | none => .done found true 1
            | some f =>
              match cs with
              | [] => takeOption g next fuel found f name none false
              | '=' :: more => takeOption g next fuel found f name (some (String.ofList more)) true
              | _ => takeOption g next fuel found f name (some (String.ofList cs)) false

/-- Lets options take effect in turn, up to a request for help or a value that is not accepted. -/
def Reading.enact : List (Flag × Option String) → Reading → Reading
  | [], r => r
  | (f, value) :: rest, r =>
    if f.key == helpFlag.key then { r with stop := some .helpWanted }
    else if f.accepts value then enact rest { r with items := r.items ++ [.flag f.key value] }
    else { r with stop := some .misuse }

def Reading.takeOption (g : Grammar) (r : Reading) : Reading :=
  match r.left with
  | (.option none _ _ _, _) :: rest => { r with left := rest, extra := true }
  | (.option (some f) name value joined, s) :: rest =>
    match Cli.takeOption g rest.head? (s.length + 1) [] f name value joined with
    | .wrong => { r with stop := some .misuse }
    | .done found extra used =>
      enact found { r with left := r.left.drop used, extra := r.extra || extra }
  | _ => r

/-- Reads options and operands in turn up to the last option, and then the remaining operands. -/
def Reading.run (g : Grammar) : Nat → Reading → Reading
  | 0, r => r
  | fuel + 1, r =>
    if r.stop.isSome then r
    else if r.left.any (·.1.isOption) then
      let fresh := match r.left with
        | (m, _) :: _ => !m.isOption
        | [] => false
      let r' := if fresh then r.takeOperands else r
      if r'.stop.isSome then r'
      else if fresh && r'.left.length < r.left.length then Reading.run g fuel r'
      else
        let skipped := r'.left.takeWhile (!·.1.isOption)
        Reading.run g fuel (Reading.takeOption g { r' with
          left := r'.left.drop skipped.length, extra := r'.extra || !skipped.isEmpty })
    else
      let r := r.takeOperands
      { r with left := [], extra := r.extra || !r.left.isEmpty }

structure Outcome where
  items : List Item
  stop : Option Stop
deriving DecidableEq

def scan (g : Grammar) (arguments : List String) : Outcome :=
  match g.classifyAll? arguments with
  | none => ⟨[], some .misuse⟩
  | some marked =>
    let r := Reading.run g (2 * marked.length + 2) { operands := g.operands, left := marked }
    let incomplete := r.extra || r.operands.any fun o => o.arity == .one
    ⟨r.items, r.stop <|> if incomplete then some .misuse else none⟩

def misuse : Fault := .exit (.status 2)

def Stop.fault : Stop → Fault
  | .helpWanted => .exit (.status 0)
  | .misuse => Cli.misuse

def parse (g : Grammar) (arguments : List String) : Except Fault (List Item) :=
  let outcome := scan g arguments
  match outcome.stop with
  | none => .ok outcome.items
  | some stop => .error stop.fault

/-! ### Looking at the result -/

def count (key : String) (items : List Item) : Nat :=
  items.countP fun
    | .flag k _ => k == key
    | _ => false

def value? (key : String) (items : List Item) : Option String :=
  items.foldl (fun acc i => match i with
    | .flag k (some v) => if k == key then some v else acc
    | _ => acc) none

def operands (key : String) (items : List Item) : List String :=
  (items.findSome? fun
    | .operand k vs => if k == key then some vs else none
    | _ => none).getD []

end SetTop.Cli

/-!
Command lines of programs.

A program that is asked for help prints its page and ends; one that is called wrongly ends
at once.
-/

namespace SetTop.Cli

def Outcome.settle (g : Grammar) (o : Outcome) : Act (List Item) := do
  match o.stop with
  | none => return o.items
  | some stop =>
    if stop == .helpWanted then say g.help
    throw stop.fault

def read (g : Grammar) (arguments : List String) : Act (List Item) := (scan g arguments).settle g

end SetTop.Cli
