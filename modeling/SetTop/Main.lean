import SetTop.Commands.ShowSetting
import SetTop.Lint
import SetTop.Webm.Inspect

/-!
The command line.

The programs here need nothing but files and the environment. What they read is laid out
on a bench, they run on it, and what they print is printed in the end.
-/

namespace SetTop.Main

def variableNames : List String := ["HOME", "XDG_CONFIG_HOME", "STBT_CONFIG_FILE"]

def environment : IO (List (String × String)) := do
  let found ← variableNames.mapM fun name => return (name, ← IO.getEnv name)
  return found.filterMap fun (name, value) => value.map (name, ·)

def layOut (tree : FileTree) (path : String) : IO FileTree := do
  match ← (IO.FS.readFile path).toBaseIO with
  | .error _ => return tree
  | .ok text =>
    let full := Path.absolute "/" path
    let tree := tree.prepare full
    return (tree.write full text).toOption.getD tree

def configFiles (s : Session) : List String :=
  let files : Act (List String) := do return (← Config.userFile) :: (← Config.customFiles)
  ((files.run s).1.toOption).getD []

def start : IO Session := do
  let s : Session := { bench := { environment := ← environment } }
  let tree ← (configFiles s).foldlM layOut {}
  return { s with bench := { s.bench with files := tree } }

def status : Except Fault Unit → UInt32
  | .ok () => 0
  | .error (.exit .none) => 0
  | .error (.exit (.status n)) => UInt32.ofNat (n % 256).toNat
  | .error _ => 1

def perform (a : Act Unit) : IO UInt32 := do
  let (outcome, s) := a.run (← start)
  IO.print s.bench.out
  IO.eprint s.bench.err
  match outcome with
  | .ok () => pure ()
  | .error (.exit (.text message)) => IO.eprintln message
  | .error (.exit _) => pure ()
  | .error e => IO.eprintln e.text
  return status outcome

def usage : String := "usage: config SECTION.KEY | inspect FILE | lint"

def run : List String → IO UInt32
  | "config" :: arguments => perform (ShowSetting.run arguments)
  | ["inspect", file] => do
    let bytes ← IO.FS.readBinFile file
    perform (Webm.inspect bytes.toList)
  | ["lint"] => do
    IO.print (Lint.relevantLines (← (← IO.getStdin).readToEnd))
    return 0
  | _ => do
    IO.eprintln usage
    return 2

end SetTop.Main

def main (arguments : List String) : IO UInt32 := SetTop.Main.run arguments
