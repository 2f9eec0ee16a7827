import SetTop.Console.Keymap
import SetTop.Logging

/-!
Pressing remote control keys on a keyboard.

The terminal shows the keymap and then, for every key of the keyboard, the remote control
key it stands for. The keys come one at a time, so that each can be pressed before the
next one is read.
-/

namespace SetTop

structure Keyboard where
  keymap : Keymap
  pending : Option String := none
  /-- whether a key is shown -/
  shown : Bool := false

namespace Keyboard

def defaultFile : Act String := do
  let dir ← Config.userDirectory
  let own ← Config.getOr Config.asText "control" "keymap" (some "")
  return if own.isEmpty then Path.join (Path.join dir "stbt") "control.conf" else own

def quitCode : Int := 113

def readCode : Act Int := do
  let code := (← bench).keys.headD quitCode
  modifyBench fun b => { b with keys := b.keys.tail }
  return code

/-- The text without some characters at its end, where a negative length counts from the end. -/
def cutTo (length : Int) (s : String) : String :=
  let keep := if length < 0 then length + s.length else length
  String.ofList (s.toList.take keep.toNat)

def page (file control : String) (keymap : Keymap) (width : Int) : String :=
  let shortControl := cutTo 77 control ++ (if control.length > 77 then "..." else "")
  "Keymap: " ++ cutTo (width - 9) file ++ "\nControl: " ++ shortControl ++ "\n\n" ++
    keymap.text ++ "\n\n"

def fits (page : String) (rows columns : Int) : Bool :=
  let lines := splitAtCharacter '\n' page
  decide ((lines.length : Int) < rows) && lines.all fun l => decide ((l.length : Int) < columns)

def start (control file : String) : Act Keyboard := do
  let text ← match ← Act.attempt (fileText file) with
    | .ok text => pure text
    | .error (.system ..) =>
      let name := Path.baseName (← get).program
      complain (name ++ ": error: Failed to load keymap file '" ++ file ++
        "'\n(see 'stbt control --help' for details of the keymap file).\n")
      throw (.exit (.status 1))
    | .error e => throw e
  let keymap ← Act.ofExcept (Keymap.ofText text)
  let (rows, columns) := (← bench).terminal
  let shown := page file control keymap columns
  if !fits shown rows columns then
    fail .environment ("Unable to print keymap because the terminal is too small. " ++
      "Please resize the terminal window.")
  note (.addText shown)
  return { keymap := keymap }

def display (text : String) : Act Unit := do
  note (.addText text)
  sleep (.real 0.2)

def read (keymap : Keymap) : Nat → Bool → Act (Option (String × Bool))
  | 0, _ => return none
  | fuel + 1, shown => do
    let code ← readCode
    if code = quitCode then return none
    if shown then note .clear
    match (Keymap.keyName? code).bind fun name => keymap.lookup name with
    | some b => return some (b.remoteKey, shown)
    | none =>
      display "None"
      read keymap fuel true

def next (k : Keyboard) : Act (Option String × Keyboard) := do
  let shown ← match k.pending with
    | some key => do display key; pure true
    | none => pure k.shown
  match ← read k.keymap ((← bench).keys.length + 1) shown with
  | some (key, shown) => return (some key, { k with pending := some key, shown := shown })
  | none => return (none, { k with pending := none, shown := shown })

end Keyboard

end SetTop
