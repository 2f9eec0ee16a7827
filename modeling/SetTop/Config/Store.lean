import SetTop.Config.Builtin
import SetTop.Session

/-!
The configuration of a session.

The configuration is merged from the built-in file, the file of the user, and the
files that `STBT_CONFIG_FILE` lists, of which the first one wins. It is read once and
kept. `set` changes both the kept settings and the file with the highest precedence,
which is replaced as a whole.
-/

namespace SetTop.Config

def userDirectory : Act String := do
  let home ← requiredVariable "HOME"
  return (← lookupVariable "XDG_CONFIG_HOME").getD (home ++ "/.config")

def customFiles : Act (List String) := do
  return splitAtCharacter ':' ((← lookupVariable "STBT_CONFIG_FILE").getD "")

def userFile : Act String := return (← userDirectory) ++ "/stbt/stbt.conf"

/-- Adds the contents of a file; one that cannot be opened adds nothing. -/
def readInto (s : Settings) (file : String) : Act Settings := do
  match ← Act.attempt (fileText file) with
  | .ok text => Act.ofExcept ((s.readText text).mapError Settings.ReadError.fault)
  | .error (.system ..) => return s
  | .error e => throw e

def load : Act Settings := do
  let base ← Act.ofExcept ((Settings.readText {} builtinText).mapError Settings.ReadError.fault)
  let files := (← userFile) :: (← customFiles).reverse
  files.foldlM readInto base

def reload : Act Settings := do
  let s ← load
  modify fun session => { session with settings := some s }
  return s

def current : Act Settings := do
  match (← get).settings with
  | some s => return s
  | none => reload

/-- How the value of an option is read: the name of its type, and the reader. -/
structure Reader (α : Type) where
  typeName : String
  read? : String → Option α

def asText : Reader String := ⟨"str", some⟩
def asInt : Reader Num := ⟨"int", fun s => (Number.readInt? s).map .int⟩
def asFloat : Reader Num := ⟨"float", Number.readFloat?⟩

def asBool : Reader Bool := ⟨"bool", fun s => some !s.isEmpty⟩

def getOr {α : Type} (reader : Reader α) (sectionName key : String) (default : Option α) : Act α := do
  let s ← current
  match s.get sectionName key with
  | .ok text =>
    match reader.read? text with
    | some v => return v
    | none =>
      fail .configuration
        s!"'{sectionName}.{key}' invalid type (must be {reader.typeName})"
  | .error e =>
    match default with
    | some d => return d
    | none => fail .configuration e.message

def get {α : Type} (reader : Reader α) (sectionName key : String) : Act α :=
  getOr reader sectionName key none

def text (sectionName key : String) : Act String := get asText sectionName key

def defaultOr {α : Type} (default : Option α) (e : Settings.LookupError) : Act α :=
  match default with
  | some d => return d
  | none => fail .configuration e.message

/-- The value of an option whose section and name may be any values. Names have to be texts. -/
def ask {α : Type} (reader : Reader α) (sectionName key : Json) (default : Option α) : Act α := do
  let s ← current
  match sectionName, key with
  | .text name, .text key => getOr reader name key default
  | .text name, _ =>
    match s.optionsOf name with
    | .ok _ => failBelow .attribute
    | .error e => defaultOr default e
  | .list _, _ | .object _, _ => failBelow .type
  | name, _ => defaultOr default (.strangeSection name.literal)

/-! ### Changing -/

def temporaryName (file : String) (number : Nat) : String :=
  Path.join "/tmp" (file ++ "." ++ Number.padded 8 number ++ "~")

def maxTemporaries : Nat := 238328

def createTemporary (file : String) : (tries : Nat) → Act String
  | 0 => throw FileTree.alreadyExists
  | tries + 1 => do
    let name := temporaryName file tries
    let way ← wayTo name
    match ← Act.attempt (changeFiles (·.create way)) with
    | .ok () => return name
    | .error e => if e == FileTree.alreadyExists then createTemporary file tries else throw e

/-- Replaces a file as a whole: the text goes to a temporary file, which then takes its name. After
a failure the old file stays. -/
def replaceFile (file : String) (write : (String → Act Unit) → Act Unit) : Act Unit := do
  let temporary ← createTemporary file maxTemporaries
  let way ← wayTo temporary
  let step : Act Unit := do
    write fun text => appendText temporary text
    let target ← wayTo file
    changeFiles (·.rename way target)
  match ← Act.attempt step with
  | .ok () => pure ()
  | .error e =>
    changeFiles (·.removeFile way)
    throw e

def targetFile : Act String := do
  let user ← userFile
  match (← customFiles).head? with
  | some f => return if f.isEmpty then user else f
  | none => return user

def changeFile (change : Settings → Except Fault Settings) : Act Unit := do
  let target ← targetFile
  let _ ← current
  let own ← Act.ofExcept (change (← readInto {} target))
  ensureDirectory (Path.directory target)
  replaceFile target fun write => write own.toText

/-- Sets or removes an option in the file with the highest precedence, and in the session. -/
def set (sectionName option : String) (value : Option String) : Act Unit := do
  match value with
  | none => changeFile fun own => .ok (own.removeOption sectionName option)
  | some v =>
    changeFile (·.set sectionName option v)
    let kept ← Act.ofExcept ((← current).set sectionName option v)
    modify fun session => { session with settings := some kept }

def withoutOption (own : Settings) (sectionName option : Json) : Except Fault Settings :=
  let remove (name : String) : Except Fault Settings :=
    match option with
    | .text option => .ok (own.removeOption name option)
    | _ => .error (.foreign .attribute "")
  match sectionName with
  | .text name =>
    if name.isEmpty || name == Settings.defaultSection || own.hasSection name then remove name else .ok own
  | name =>
    if !name.isTrue then remove ""
    else match name with
      | .list _ | .object _ => .error (.foreign .type "unhashable type")
      | _ => .ok own

/-- Sets an option, or removes it if the value is null. All three are looked at in order, and have
to be texts. -/
def change (sectionName option value : Json) : Act Unit := do
  match sectionName, option, value with
  | name, option, .null => changeFile (withoutOption · name option)
  | .text name, .text option, .text v => set name option (some v)
  | .text name, _, _ => changeFile fun own => do
    if name == Settings.defaultSection then let _ ← own.set name "" ""
    .error (.foreign .type "option values must be strings")
  | _, _, _ => changeFile fun _ => .error (.foreign .type "section names must be strings")

end SetTop.Config
