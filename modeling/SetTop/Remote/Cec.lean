import SetTop.Remote.Key

/-!
Remote control over the wire that display cables carry for it.

An adapter joins the bus as a device of its own. A key press is a command with the code
of the key, followed by one that says that the key was released.
-/

namespace SetTop.Cec

def keyCodes : List (String × Nat) :=
  [("KEY_OK", 0), ("KEY_UP", 1), ("KEY_DOWN", 2), ("KEY_LEFT", 3), ("KEY_RIGHT", 4),
   ("KEY_RIGHT_UP", 5), ("KEY_RIGHT_DOWN", 6), ("KEY_LEFT_UP", 7), ("KEY_LEFT_DOWN", 8),
   ("KEY_ROOT_MENU", 9), ("KEY_SETUP", 10), ("KEY_CONTENTS_MENU", 11), ("KEY_FAVORITE_MENU", 12),
   ("KEY_BACK", 13), ("KEY_0", 32), ("KEY_1", 33), ("KEY_2", 34), ("KEY_3", 35), ("KEY_4", 36),
   ("KEY_5", 37), ("KEY_6", 38), ("KEY_7", 39), ("KEY_8", 40), ("KEY_9", 41), ("KEY_DOT", 42),
   ("KEY_ENTER", 43), ("KEY_CLEAR", 44), ("KEY_NEXT_FAVORITE", 47), ("KEY_CHANNELUP", 48),
   ("KEY_CHANNELDOWN", 49), ("KEY_PREVIOUS", 50), ("KEY_SOUND_SELECT", 51),
   ("KEY_INPUT_SELECT", 52), ("KEY_INFO", 53), ("KEY_HELP", 54), ("KEY_PAGEUP", 55),
   ("KEY_PAGEDOWN", 56), ("KEY_POWER", 64), ("KEY_VOLUMEUP", 65), ("KEY_VOLUMEDOWN", 66),
   ("KEY_MUTE", 67), ("KEY_PLAY", 68), ("KEY_STOP", 69), ("KEY_PAUSE", 70), ("KEY_RECORD", 71),
   ("KEY_REWIND", 72), ("KEY_FASTFORWARD", 73), ("KEY_EJECT", 74), ("KEY_FORWARD", 75),
   ("KEY_BACKWARD", 76), ("KEY_STOP_RECORD", 77), ("KEY_PAUSE_RECORD", 78), ("KEY_ANGLE", 80),
   ("KEY_SUB_PICTURE", 81), ("KEY_VOD", 82), ("KEY_EPG", 83), ("KEY_TIMER_PROGRAMMING", 84),
   ("KEY_CONFIG", 85), ("KEY_PLAY_FUNCTION", 96), ("KEY_PAUSE_PLAY_FUNCTION", 97),
   ("KEY_RECORD_FUNCTION", 98), ("KEY_PAUSE_RECORD_FUNCTION", 99), ("KEY_STOP_FUNCTION", 100),
   ("KEY_MUTE_FUNCTION", 101), ("KEY_RESTORE_VOLUME_FUNCTION", 102), ("KEY_TUNE_FUNCTION", 103),
   ("KEY_SELECT_MEDIA_FUNCTION", 104), ("KEY_SELECT_AV_INPUT_FUNCTION", 105),
   ("KEY_SELECT_AUDIO_INPUT_FUNCTION", 106), ("KEY_POWER_TOGGLE_FUNCTION", 107),
   ("KEY_POWER_OFF_FUNCTION", 108), ("KEY_POWER_ON_FUNCTION", 109), ("KEY_F1", 113),
   ("KEY_BLUE", 113), ("KEY_F2", 114), ("KEY_RED", 114), ("KEY_F3", 115), ("KEY_GREEN", 115),
   ("KEY_F4", 116), ("KEY_YELLOW", 116), ("KEY_F5", 117), ("KEY_DATA", 118)]

/-- Who talks to whom on the bus. -/
structure Control where
  source : Int
  destination : Int

def hexText (n : Int) : String :=
  let digits := String.ofList ((Nat.toDigits 16 n.natAbs).map Char.toUpper)
  if n < 0 then "-" ++ digits else digits

def hexByteText (n : Nat) : String := if n < 16 then "0" ++ hexText n else hexText n

def detectAdapter : Act (Option String) := do
  let found := (← bench).cec.adapters
  found.forM fun name =>
    Log.debug ("Found a CEC adapter:\"\nPort:     " ++ name ++ "\nVendor:   1\nProduct:  2")
  return found.getLast?

def activeDevices : Act (List Nat) := do
  note .cecRescan
  let bus := (← bench).cec
  return (List.range 16).filter fun n => (n : Int) ≠ bus.primary && bus.active.contains (n : Int)

def readAddress : Option String → Except Fault (Option Int)
  | none => .ok none
  | some s =>
    match Number.readHex? s with
    | some n => .ok (some n)
    | none => failBelow .value

def openAdapter (device : Option String) : Act Unit := do
  let device ← match device with
    | some d => pure (some d)
    | none => detectAdapter
  match device with
  | none => fail .hdmiCec "No adapter found"
  | some d =>
    note (.cecOpen d)
    if !(← bench).cec.opens then
      fail .hdmiCec "Failed to open a connection to the CEC adapter"
  Log.debug "Connection to CEC adapter opened"

/-- The device to talk to: the last one found, because the first is likely to be a display. -/
def chooseDestination : Act Int := do
  let found ← activeDevices
  Log.debug ("HDMI-CEC scan complete.  Found [" ++ joinText ", " (found.map toString) ++ "]")
  match found.getLast? with
  | none => fail .hdmiCec "Failed to find a device on the CEC bus to talk to."
  | some n =>
    Log.debug s!"HDMI-CEC: Chose to talk to device {n} 'Test'"
    return n

def connect (device source destination : Option String) : Act Control := do
  let source := (← Act.ofExcept (readAddress source)).getD 1
  let destination ← Act.ofExcept (readAddress destination)
  Log.debug "libCEC version 1.0 loaded: fake"
  openAdapter device
  let destination ← match destination with
    | some d => pure d
    | none => chooseDestination
  return ⟨source, destination⟩

def transmit (command : String) : Act Bool := do
  note (.cecTransmit command)
  return !(← bench).cec.failing.contains command

def Control.press (c : Control) (k : Key) : Act Unit := do
  match ← k.lookup keyCodes with
  | none => fail .unknownKey ("HdmiCecControl: Unknown key " ++ k.quoted)
  | some code =>
    let ends := hexText c.source ++ hexText c.destination
    let command := ends ++ ":44:" ++ hexByteText code
    Log.debug ("cec: Transmit " ++ k.text ++ " as " ++ command)
    if !(← transmit command) then fail .hdmiCec ("Failed to send key down command " ++ command)
    if !(← transmit (ends ++ ":45")) then
      fail .hdmiCec ("Failed to send key up command " ++ command)

end SetTop.Cec
