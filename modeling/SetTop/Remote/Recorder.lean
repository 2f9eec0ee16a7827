import SetTop.Console.Keyboard
import SetTop.Remote.Lirc
import SetTop.Remote.Uri

/-!
Recording key presses.

A recorder gives the keys that are pressed somewhere, one after the other: the lines of a
file, the keys that an infrared daemon receives, or those of the keyboard.
-/

namespace SetTop

/-- Where key presses are recorded from, and what is still to come. Nothing is opened before the
first key is asked for. -/
inductive Recorder
  | file (name : String)
  | lines (left : List String)
  | lirc (control : String) (left : List (List Char))
  | console (keymapFile : String)
  | keyboard (k : Keyboard)

namespace Recorder

def listen (socket control : String) : Act Recorder := do
  Log.debug s!"control-recorder connecting to lirc file socket '{socket}'..."
  let link ← Net.connect (.path socket)
  Log.debug "control-recorder connected to lirc file socket"
  return .lirc control (Text.lines (← Net.drain link))

def table : List (Pattern × (Spot → Act Recorder)) :=
  [(RecorderUri.file, fun s => return .file (s.group "filename")),
   (RemoteUri.lircHost, fun _ => failBelow .type),
   (RemoteUri.lircSocket, fun s =>
      listen ((s.group? "lircd_socket").getD Lirc.defaultSocket) (s.group "control_name")),
   (RecorderUri.console, fun s => do
      match s.group? "keymap_file" with
      | some path => return .console path
      | none => return .console (← Keyboard.defaultFile))]

def ofUri (uri : String) : Act Recorder :=
  match findUri table uri false with
  | some (make, settings) => make settings
  | none => fail .configuration ("Invalid remote control recorder URI: \"" ++ uri ++ "\"")

def nextReceived (control : String) : List (List Char) → Act (Option String × Recorder)
  | [] => return (none, .lirc control [])
  | line :: rest => do
    Log.debug ("lirc_key_reader received: " ++ String.ofList (Text.stripEnd line))
    match ← Act.ofExcept (Lirc.receivedKey control line) with
    | some key => return (some key, .lirc control rest)
    | none => nextReceived control rest

def nextLine : List String → Option String × Recorder
  | [] => (none, .lines [])
  | line :: rest => (some (String.ofList (Text.stripEnd line.toList)), .lines rest)

def nextTyped (k : Keyboard) : Act (Option String × Recorder) := do
  let (key, k) ← k.next
  return (key, .keyboard k)

def next : Recorder → Act (Option String × Recorder)
  | .file name => do
    let text ← fileText name
    if name == "/dev/stdin" then complain "Waiting for keypresses from standard input...\n"
    return nextLine (linesOf text)
  | .lines left => return nextLine left
  | .lirc control left => nextReceived control left
  | .console path => do nextTyped (← Keyboard.start "stbt record" path)
  | .keyboard k => nextTyped k

def keys : Nat → Recorder → Act (List String)
  | 0, _ => return []
  | limit + 1, r => do
    match ← r.next with
    | (none, _) => return []
    | (some key, r) => return key :: (← keys limit r)

end Recorder

end SetTop
