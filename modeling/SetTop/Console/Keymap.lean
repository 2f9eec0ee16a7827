import SetTop.Fault
import SetTop.Number.Basic
import SetTop.Text.Basic

/-!
Keyboard keys for remote control keys.

Each line of a keymap holds a keyboard key, the remote control key it stands for, and
perhaps a name to show. Two slashes start a comment. A keyboard key is one character or
one of a few words.
-/

namespace SetTop

structure Binding where
  remoteKey : String
  label : String
deriving DecidableEq

abbrev Keymap := List (String × Binding)

namespace Keymap

def specialKeys : List (Int × String) :=
  [(32, "Space"), (10, "Enter"), (9, "Tab"), (27, "Escape"), (259, "Up"), (258, "Down"),
   (260, "Left"), (261, "Right"), (263, "Backspace"), (339, "PageUp"), (338, "PageDown"),
   (262, "Home"), (360, "End"), (331, "Insert"), (330, "Delete")]

def keyName? (code : Int) : Option String :=
  match specialKeys.lookup code with
  | some name => some name
  | none => if 0 ≤ code ∧ code < 256 then some (Char.ofNat code.toNat).toString else none

/-- The name of the keyboard key with a code. One that is no integer has a name only if it is equal
to one with a word for a name. -/
def nameOfCode (code : Num) : Except Fault (Option String) :=
  match code, specialKeys.find? fun (k, _) => code.eq (.int k) with
  | _, some (_, name) => .ok (some name)
  | .int n, none => .ok (keyName? n)
  | _, none => failBelow .type

def isKeyName (name : String) : Bool := specialKeys.any (·.2 == name) || name.length == 1

def validate (name : String) : Except Fault Unit :=
  if isKeyName name then .ok ()
  else .error (.failure .value ("Invalid keyboard key in the keymap file: " ++ name))

def addLine (m : Keymap) (line : String) : Except Fault Keymap :=
  match wordsOf ((splitOnText "//" line).headD "") with
  | key :: remoteKey :: label =>
    if m.any (·.1 == key) then
      .error (.failure .configuration
        s!"Multiple remote control keys assigned to keyboard key '{key}' in the keymap file")
    else do
      validate key
      let label := if label.isEmpty then remoteKey else joinText " " label
      return m ++ [(key, ⟨remoteKey, label⟩)]
  | _ => .ok m

def ofText (text : String) : Except Fault Keymap := (linesOf text).foldlM addLine []

def cell (key label : String) : String :=
  String.ofList (Text.padLeft 15 key.toList) ++ " - " ++ String.ofList (Text.padRight 15 label.toList)

def cells (m : Keymap) : List String :=
  cell "q" "<Quit>" :: m.map fun (key, b) => cell key b.label

def text (m : Keymap) : String :=
  let all := m.cells
  let middle := (all.length + 1) / 2
  let left := all.take middle
  let right := all.drop middle
  joinText "\n" (left.mapIdx fun i c => c ++ " " ++ right.getD i "")

end Keymap

end SetTop
