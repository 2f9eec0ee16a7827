import SetTop.Text.Basic
import SetTop.Text.Case
import SetTop.Fault

/-!
Settings: named options in named sections.

Option names do not depend on case. The options of the section `DEFAULT` stand in for
those that another section lacks. A value may refer to another option of its section
as `%(name)s`; two per cent signs stand for one. Sections and options keep the order
in which they first appeared.
-/

namespace SetTop

abbrev TextTable := List (String × String)

namespace TextTable

def get? (t : TextTable) (key : String) : Option String := t.lookup key

def put (t : TextTable) (key value : String) : TextTable :=
  if t.any (·.1 == key) then t.map fun (k, v) => if k == key then (k, value) else (k, v)
  else t ++ [(key, value)]

def remove (t : TextTable) (key : String) : TextTable := t.filter (·.1 != key)

end TextTable

structure Settings where
  defaults : TextTable := []
  sections : List (String × TextTable) := []
deriving DecidableEq

namespace Settings

def defaultSection : String := "DEFAULT"

def optionName (s : String) : String := String.ofList (Text.lower s.toList)

def section? (s : Settings) (name : String) : Option TextTable := s.sections.lookup name

def hasSection (s : Settings) (name : String) : Bool := s.sections.any (·.1 == name)

def addSection (s : Settings) (name : String) : Settings :=
  if s.hasSection name then s else { s with sections := s.sections ++ [(name, [])] }

def modifySection (s : Settings) (name : String) (f : TextTable → TextTable) : Settings :=
  if name == defaultSection then { s with defaults := f s.defaults }
  else { s with sections := s.sections.map fun (n, t) => if n == name then (n, f t) else (n, t) }

inductive LookupError
  | noSection (name : String)
  | strangeSection (literal : String)
  | noOption (option : String) (sectionName : String)
  | badReference (rest : String)
  | badPercent (rest : String)
  | unknownKey (option sectionName key raw : String)
  | tooDeep (option sectionName raw : String)
deriving DecidableEq

def LookupError.message : LookupError → String
  | .noSection name => "No section: " ++ quote name
  | .strangeSection literal => "No section: " ++ literal
  | .noOption option name => "No option " ++ quote option ++ " in section: " ++ quote name
  | .badReference rest => "bad interpolation variable reference " ++ quote rest
  | .badPercent rest => "'%' must be followed by '%' or '(', found: " ++ quote rest
  | .unknownKey option name key raw =>
    "Bad value substitution: option " ++ quote option ++ " in section " ++ quote name ++
      " contains an interpolation key " ++ quote key ++ " which is not a valid option name. " ++
      "Raw value: " ++ quote raw
  | .tooDeep option name raw =>
    "Recursion limit exceeded in value substitution: option " ++ quote option ++ " in section " ++
      quote name ++ " contains an interpolation key which cannot be substituted in 10 steps. " ++
      "Raw value: " ++ quote raw

def optionsOf (s : Settings) (name : String) : Except LookupError TextTable :=
  match s.section? name with
  | some t => .ok (t ++ s.defaults)
  | none => if name == defaultSection then .ok s.defaults else .error (.noSection name)

/-- The name between `%(` and `)s`, and what follows. -/
def reference? (cs : List Char) : Option (String × List Char) :=
  match cs with
  | '%' :: '(' :: rest =>
    let name := rest.takeWhile (· ≠ ')')
    match rest.drop name.length with
    | ')' :: 's' :: after => if name.isEmpty then none else some (String.ofList name, after)
    | _ => none
  | _ => none

/-- Replaces the references of a text. `inner` replaces those of a value that is referred to. -/
def expandWith (table : TextTable) (unknown : String → LookupError)
    (inner : List Char → Except LookupError (List Char)) :
    Nat → List Char → Except LookupError (List Char)
  | 0, _ => .ok []
  | _ + 1, [] => .ok []
  | fuel + 1, '%' :: '%' :: rest => do
    return '%' :: (← expandWith table unknown inner fuel rest)
  | fuel + 1, '%' :: rest => do
    match rest with
    | '(' :: _ =>
      match reference? ('%' :: rest) with
      | none => throw (.badReference (String.ofList ('%' :: rest)))
      | some (name, after) =>
        let key := optionName name
        match table.get? key with
        | none => throw (unknown key)
        | some v =>
          let front ← if v.toList.contains '%' then inner v.toList else pure v.toList
          return front ++ (← expandWith table unknown inner fuel after)
    | _ => throw (.badPercent (String.ofList ('%' :: rest)))
  | fuel + 1, c :: rest => do
    return c :: (← expandWith table unknown inner fuel rest)

def expand (table : TextTable) (unknown : String → LookupError) (tooDeep : LookupError) :
    Nat → List Char → Except LookupError (List Char)
  | 0, _ => .error tooDeep
  | depth + 1, cs =>
    expandWith table unknown (expand table unknown tooDeep depth) (cs.length + 1) cs

def get (s : Settings) (name option : String) : Except LookupError String := do
  let table ← s.optionsOf name
  let key := optionName option
  match table.get? key with
  | none => throw (.noOption key name)
  | some raw =>
    let unknown (k : String) : LookupError := .unknownKey key name k raw
    return String.ofList (← expand table unknown (.tooDeep key name raw) 10 raw.toList)

/-! ### Changing -/

/-- Whether every per cent sign is part of a reference. `fuel` bounds the number of characters. -/
def percentsFit : Nat → List Char → Bool
  | 0, _ => true
  | _ + 1, [] => true
  | fuel + 1, '%' :: rest =>
    match reference? ('%' :: rest) with
    | some (_, after) => percentsFit fuel after
    | none => false
  | fuel + 1, _ :: rest => percentsFit fuel rest

def dropDoubled : List Char → List Char
  | '%' :: '%' :: rest => dropDoubled rest
  | c :: rest => c :: dropDoubled rest
  | [] => []

def isStorable (value : String) : Bool :=
  let cs := dropDoubled value.toList
  percentsFit (cs.length + 1) cs

/-- Sets an option; the section is made if it is missing. Stray per cent signs and the reserved
section name are refused. -/
def set (s : Settings) (name option value : String) : Except Fault Settings :=
  if name == defaultSection then .error (.foreign .value s!"Invalid section name: {quote name}")
  else
    let target := if name.isEmpty then defaultSection else name
    if isStorable value then
      .ok ((s.addSection name).modifySection target (·.put (optionName option) value))
    else .error (.foreign .value s!"invalid interpolation syntax in {quote value}")

def removeOption (s : Settings) (name option : String) : Settings :=
  let name := if name.isEmpty then defaultSection else name
  s.modifySection name (·.remove (optionName option))

/-! ### Reading -/

structure Reader where
  settings : Settings
  current : Option String := none
  /-- the option being filled -/
  option : Option String := none
  indent : Nat := 0
  faulty : Bool := false

inductive ReadError
  | missingHeader
  | badLine
deriving DecidableEq

def ReadError.fault : ReadError → Fault
  | .missingHeader => .foreign .missingHeader ""
  | .badLine => .foreign .parsing ""

variable (line : List Char)

/-- Where a remark starts in a line: at a semicolon that stands first or behind white space. -/
def remarkStart : Option Nat :=
  go none 0 line
where
  go (before : Option Char) (n : Nat) : List Char → Option Nat
    | [] => none
    | c :: cs =>
      if c = ';' && before.all Text.isBlank then some n else go (some c) (n + 1) cs

def isRemark : Bool :=
  match Text.strip line with
  | '#' :: _ => true
  | ';' :: _ => true
  | _ => false

/-- The name in a section header: what stands between the first bracket and the last one. -/
def header? (cs : List Char) : Option String :=
  match cs with
  | '[' :: rest =>
    match Text.cutLast? ']' rest with
    | some (name, _) => if name.isEmpty then none else some (String.ofList name)
    | none => none
  | _ => none

def assignment? (cs : List Char) : Option (String × String) :=
  let name := cs.takeWhile fun c => c ≠ '=' && c ≠ ':'
  match cs.drop name.length with
  | _ :: value => some (String.ofList (Text.stripEnd name), String.ofList (Text.strip value))
  | [] => none

def Reader.continue (r : Reader) (text : String) : Reader :=
  match r.current, r.option with
  | some name, some option =>
    { r with settings := r.settings.modifySection name fun t =>
        t.put option ((t.get? option).getD "" ++ "\n" ++ text) }
  | _, _ => r

/-- Where the remark of a line starts. -/
def remark? : Option Nat := if isRemark line then some 0 else remarkStart line

/-- What counts in a line. -/
def body : List Char :=
  Text.strip (match remark? line with | some n => line.take n | none => line)

namespace Reader

def isFilling (r : Reader) : Bool :=
  match r.option with
  | some o => !o.isEmpty
  | none => false

/-- Takes up a header or an option. -/
def begin (r : Reader) (indent : Nat) (value : List Char) : Except ReadError Reader :=
  match header? value with
  | some name =>
    .ok { r with
      settings := if name == defaultSection then r.settings else r.settings.addSection name
      current := some name
      option := none
      indent := indent }
  | none =>
    match r.current with
    | none => .error .missingHeader
    | some name =>
      match assignment? value with
      | none => .ok { r with indent := indent, faulty := true }
      | some (option, text) =>
        .ok { r with
          settings := r.settings.modifySection name (·.put (optionName option) text)
          option := some (optionName option)
          indent := indent
          faulty := r.faulty || (optionName option).isEmpty }

def step (r : Reader) (line : List Char) : Except ReadError Reader :=
  if (body line).isEmpty then
    if (remark? line).isNone && r.isFilling then .ok (r.continue "") else .ok r
  else if r.current.isSome && r.isFilling && (line.takeWhile Text.isBlank).length > r.indent then
    .ok (r.continue (String.ofList (body line)))
  else r.begin (line.takeWhile Text.isBlank).length (body line)

end Reader

def trimValues (s : Settings) : Settings :=
  let trim (t : TextTable) : TextTable :=
    t.map fun (k, v) => (k, String.ofList (Text.stripEnd v.toList))
  { defaults := trim s.defaults, sections := s.sections.map fun (n, t) => (n, trim t) }

def readText (s : Settings) (text : String) : Except ReadError Settings := do
  let r ← (Text.lines text.toList).foldlM Reader.step { settings := s }
  if r.faulty then throw .badLine
  return r.settings.trimValues

/-! ### Writing -/

def sectionText (name : String) (t : TextTable) : String :=
  let line : String × String → String := fun (k, v) => k ++ " = " ++ replaceText v "\n" "\n\t" ++ "\n"
  "[" ++ name ++ "]\n" ++ String.join (t.map line) ++ "\n"

def toText (s : Settings) : String :=
  (if s.defaults.isEmpty then "" else sectionText defaultSection s.defaults) ++
    String.join (s.sections.map fun (n, t) => sectionText n t)

end Settings

end SetTop
