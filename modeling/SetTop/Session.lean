import SetTop.Bench.Basic
import SetTop.Calendar
import SetTop.Config.Settings
import SetTop.IrBox.Registry

/-!
A session: the state of a running program together with the bench it runs on.

`Act` is an action of the program. It can be stopped by a `Fault`, and what it has done
up to then stays done, as outside effects do.
-/

namespace SetTop

/-- The pictures saved of one operation under a directory of their own, facts about it, and what is
marked on them in the end: where each step of a search looked best, and what it found. -/
structure Album where
  directory : String
  images : List (String × Image) := []
  facts : List (String × Json) := []
  levels : List (Bool × Position × Nat) := []
  findings : List (Region × Bool) := []

/-- What a program remembers between actions, and the bench around it. -/
structure Session where
  bench : Bench := {}
  program : String := "stbt"
  /-- the configuration, once it has been read -/
  settings : Option Settings := none
  verbosity : Option Num := none
  /-- how many albums have been asked for -/
  albumCount : Nat := 0
  albums : List (Nat × Album) := []
  /-- the proxy that the program runs -/
  proxy : IrBox.Proxy := {}
  pictures : List (String × Image) := []
  display : Option Display := none
  lastPress : Option Int := none
  cache : Option CacheScope := none
  /-- what the program that reads text off pictures says about itself, once asked -/
  ocrProgram : Option String := none

abbrev Act := ExceptT Fault (StateM Session)

namespace Act

def run {α : Type} (a : Act α) (s : Session) : Except Fault α × Session :=
  StateT.run (ExceptT.run a) s

def ofExcept {α : Type} : Except Fault α → Act α
  | .ok a => pure a
  | .error e => throw e

/-- Runs `clean` after `a`, whether `a` was stopped or not. A fault of `clean` wins. -/
def ensuring {α : Type} (a : Act α) (clean : Act Unit) : Act α := do
  let r ← tryCatch (Except.ok <$> a) fun e => pure (.error e)
  clean
  ofExcept r

def attempt {α : Type} (a : Act α) : Act (Except Fault α) :=
  tryCatch (Except.ok <$> a) fun e => pure (.error e)

end Act

/-! ### Traces -/

def bench : Act Bench := return (← get).bench

def modifyBench (f : Bench → Bench) : Act Unit :=
  modify fun s => { s with bench := f s.bench }

def note (e : Event) : Act Unit := modifyBench fun b => { b with journal := b.journal ++ [e] }

def draw (d : Drawing) : Act Unit := modifyBench fun b => { b with drawn := b.drawn ++ [d] }

def say (text : String) : Act Unit := modifyBench fun b => { b with out := b.out ++ text }

def complain (text : String) : Act Unit := modifyBench fun b => { b with err := b.err ++ text }

/-! ### Clock -/

def clock : Act Num := do
  let b ← bench
  modifyBench fun b => { b with clock := b.clock + b.tick }
  return b.clock

def calendarClock : Act Int := do
  let t ← clock
  let _ ← Act.ofExcept t.whole
  let micro := Moment.microseconds t
  if Moment.inRange micro then return micro
  failBelow .overflow "date value out of range"

def now : Act Moment := Moment.ofMicroseconds <$> calendarClock

def pass (seconds : Num) : Act Unit := do
  let clock ← Act.ofExcept ((← bench).clock.plus seconds)
  modifyBench fun b => { b with clock := clock }

def sleepFor (seconds : Json) : Act Unit := do
  note (.sleep seconds)
  pass (← Act.ofExcept seconds.needNumber)

def sleep (seconds : Num) : Act Unit := sleepFor (.number seconds)

/-! ### Environment and files -/

def lookupVariable (name : String) : Act (Option String) := return (← bench).environment.lookup name

def requiredVariable (name : String) : Act String := do
  match ← lookupVariable name with
  | some v => return v
  | none => failBelow .key name

variable (p : String)

def fullPath : Act String := return Path.absolute (← bench).cwd p

def maxPathLength : Nat := 4095

/-- The way to a path depends on the working directory alone. -/
def way? (cwd p : String) : Except Fault String :=
  if p.toList.any (·.toNat = 0) then .error (.foreign .value "embedded null byte")
  else if p.isEmpty then .error FileTree.noSuchFile
  else if p.utf8ByteSize > maxPathLength then .error FileTree.nameTooLong
  else .ok (if Path.isAbsolute p then p else Path.join cwd p)

def wayTo : Act String := do Act.ofExcept (way? (← bench).cwd p)

def lookFiles {α : Type} (f : FileTree → α) : Act α := return f (← bench).files

def changeFiles (f : FileTree → Except Fault FileTree) : Act Unit := do
  let files ← Act.ofExcept (f (← bench).files)
  modifyBench fun b => { b with files := files }

/-- Asks about a path; what holds of no path does not hold of one that cannot be walked. -/
def askPath (question : FileTree → String → Bool) (p : String) : Act Bool := do
  match ← Act.attempt (wayTo p) with
  | .ok way => lookFiles (question · way)
  | .error _ => return false

def pathExists : Act Bool := askPath FileTree.exists? p

def isFile (p : String) : Act Bool := askPath FileTree.isFile p

def isDirectory (p : String) : Act Bool := askPath FileTree.isDirectory p

def fileContent : Act String := do
  let way ← wayTo p
  Act.ofExcept (← lookFiles (·.read way))

def fileText : Act String := do
  return String.ofList (Text.plainLineEnds (← fileContent p).toList)

def putText (p text : String) : Act Unit := do
  let way ← wayTo p
  changeFiles (·.write way text)

def appendText (p text : String) : Act Unit := do
  putText p ((← fileContent p) ++ text)

def directoryNames : Act (List String) := do
  let way ← wayTo p
  Act.ofExcept (← lookFiles (·.list way))

def makeDirectory (p : String) : Act Unit := do
  let way ← wayTo p
  changeFiles (·.makeDirectory way)

/-- Makes a directory and those above it that are missing. Fails if it is there already. -/
def makeDirectories : (fuel : Nat) → String → Act Unit
  | 0, p => makeDirectory p
  | fuel + 1, p => do
    let (front, last) := Path.split p
    let (above, name) := if last.isEmpty then Path.split front else (front, last)
    if !above.isEmpty && !name.isEmpty && !(← pathExists above) then
      match ← Act.attempt (makeDirectories fuel above) with
      | .ok () => pure ()
      | .error e => if e == FileTree.alreadyExists then pure () else throw e
      if name == "." then return
    makeDirectory p

def ensureDirectory : Act Unit := do
  match ← Act.attempt (makeDirectories p.length p) with
  | .ok () => pure ()
  | .error e =>
    if e == FileTree.alreadyExists && (← isDirectory p) then pure () else throw e

def temporaryDirectory (front : String) (parent : Option String := none) (back : String := "") :
    Act String := do
  let b ← bench
  let n := b.temporaries + 1
  modifyBench fun b => { b with temporaries := n }
  let p := Path.join (parent.getD b.cwd) (front ++ toString n ++ back)
  makeDirectory p
  return p

def removeTree (p : String) : Act Unit := do
  let way ← wayTo p
  modifyBench fun b => { b with files := b.files.removeTree way }

end SetTop
