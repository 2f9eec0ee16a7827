import SetTop.Cli.Arguments
import SetTop.Config.Store

/-!
Messages about the run.

Level one shows what the program does, level two also how, together with the pictures
it works on. The level comes from the configuration unless it was set before.
-/

namespace SetTop.Log

def level : Act Num := do
  match (← get).verbosity with
  | some v => return v
  | none =>
    let v ← Config.get Config.asInt "global" "verbose"
    modify fun s => { s with verbosity := some v }
    return v

variable (text : String)

def message : Act Unit := do
  let name := Path.baseName (← get).program
  complain (name ++ ": " ++ text ++ "\n")

def debug : Act Unit := do
  if (← level).gt 0 then message text

def detail : Act Unit := do
  if (← level).gt 1 then message text

def warn : Act Unit := message ("warning: " ++ text)

/-- Sets the level by how often a program was told to say more; without that it stays. -/
def setByArguments (items : List Cli.Item) : Act Num := do
  let own ← level
  match Cli.count "verbose" items with
  | 0 => return own
  | n =>
    modify fun s => { s with verbosity := some (.int n) }
    return .int n

def grammar (program : String) : Cli.Grammar :=
  { flags := [Cli.helpFlag, Cli.verboseFlag]
    operands := []
    help := "usage: " ++ program ++
" [-h] [-v]

options:
  -h, --help     show this help message and exit
  -v, --verbose  Enable debug output (specify twice to enable GStreamer
                 element dumps to ./stbt-debug directory)
" }

/-- Reads a command line. The level is set even if the rest of it is not understood. -/
def readArguments (g : Cli.Grammar) (arguments : List String) : Act (Num × List Cli.Item) := do
  let _ ← level
  let outcome := Cli.scan g arguments
  let n ← setByArguments outcome.items
  return (n, ← outcome.settle g)

def atLevel {α : Type} (n : Option Num) (a : Act α) : Act α := do
  let old := (← get).verbosity
  modify fun s => { s with verbosity := n }
  Act.ensuring a (modify fun s => { s with verbosity := old })

def nextAlbum : Act Nat := do
  let n := (← get).albumCount + 1
  modify fun s => { s with albumCount := n }
  return n

/-- Opens an album, if the level asks for it. One whose directory cannot be made is done without. -/
def openAlbum (name : String) (facts : List (String × Json) := []) : Act (Option Nat) := do
  if !(← level).gt 1 then return none
  let n ← nextAlbum
  let dir := Path.join (Path.join "stbt-debug" name) (Number.padded 5 n)
  match ← Act.attempt (ensureDirectory dir) with
  | .ok () =>
    modify fun s => { s with albums := s.albums ++ [(n, { directory := dir, facts := facts })] }
    return some n
  | .error (.system ..) =>
    warn s!"Failed to create directory '{dir}'; won't save debug images."
    return none
  | .error e => throw e

variable (n : Option Nat)

def album? : Act (Option Album) := do
  match n with
  | some n => return (← get).albums.lookup n
  | none => return none

def modifyAlbum (f : Album → Album) : Act Unit := do
  match n with
  | some n =>
    modify fun s =>
      { s with albums := s.albums.map fun (k, a) => if k = n then (k, f a) else (k, a) }
  | none => pure ()

def setFacts (facts : List (String × Json)) : Act Unit :=
  modifyAlbum n fun a =>
    { a with facts := facts.foldl (fun acc (k, v) => Json.putField acc k v) a.facts }

def appendFact (fact : String × Json) : Act Unit := do
  match ← album? n with
  | none => pure ()
  | some a =>
    match (a.facts.lookup fact.1).getD (.list []) with
    | .list items => setFacts n [(fact.1, .list (items ++ [fact.2]))]
    | _ => failBelow .attribute "append"

abbrev Colour := List Num

def save (name : String) (image : Image) (mark : Option (Region × Colour)) : Act Unit := do
  match ← album? n with
  | none => pure ()
  | some a =>
    if a.images.any (·.1 == name) then
      fail .value s!"Image for name '{name}' already logged"
    modifyAlbum n fun a => { a with images := a.images ++ [(name, image)] }
    match mark with
    | some (r, colour) => draw (.rectangle (r.x, r.y) (r.right, r.bottom) colour 1)
    | none => pure ()
    modifyBench fun b =>
      { b with written := b.written ++ [(Path.join a.directory (name ++ ".png"), image.shape)] }

def savePlain (name : String) (image : Image) : Act Unit := save n name image none

end SetTop.Log
