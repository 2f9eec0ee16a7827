import SetTop.Programs
import SetTop.Remote.Key

/-!
Key presses on a graphical display, through a helper program.

A mapping gives the display's own names of keys. Each line of a mapping file holds the
name of a key and its name on the display.
-/

namespace SetTop.X11

abbrev KeyMapping := List (String × String)

def KeyMapping.put (m : KeyMapping) (key name : String) : KeyMapping :=
  if m.any (·.1 == key) then m.map fun (k, v) => if k == key then (k, name) else (k, v)
  else m ++ [(key, name)]

def KeyMapping.ofText (text : String) : KeyMapping :=
  (linesOf text).foldl (fun m line =>
    match wordsOf line with
    | [key, name] => if startsWithText key "#" then m else m.put key name
    | _ => m) []

def KeyMapping.name (m : KeyMapping) (key : String) : String := (m.lookup key).getD key

/-- The mapping that is always there: letters, digits and the keys of a pointer pad. -/
def builtinMapping : KeyMapping :=
  ("ABCDEFGHIJKLMNOPQRSTUVWXYZ".toList.zip "abcdefghijklmnopqrstuvwxyz".toList).map
    (fun (a, b) => ("KEY_" ++ a.toString, b.toString)) ++
  "0123456789".toList.map (fun c => ("KEY_" ++ c.toString, c.toString)) ++
  [("KEY_SPACE", "space"), ("KEY_UP", "Up"), ("KEY_DOWN", "Down"), ("KEY_LEFT", "Left"),
   ("KEY_RIGHT", "Right"), ("KEY_OK", "Return")]

structure Control where
  display : Option String
  mapping : KeyMapping

def presser : String := "xdotool"

def Control.make (display mappingFile : Option String) : Act Control := do
  if ((← bench).executables.lookup presser).isNone then
    fail .plain "x11 control: xdotool not installed"
  match mappingFile with
  | none => return ⟨display, builtinMapping⟩
  | some file =>
    let own := KeyMapping.ofText (← fileText file)
    return ⟨display, own.foldl (fun m (k, v) => m.put k v) builtinMapping⟩

def Control.press (c : Control) (k : Key) : Act Unit := do
  let key := match ← k.lookup c.mapping with
    | some name => .text name
    | none => k.toJson
  Programs.call [.text presser, "key", key]
  k.reportPressed

end SetTop.X11
