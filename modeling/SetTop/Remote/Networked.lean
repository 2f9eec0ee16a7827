import SetTop.Remote.Key
import SetTop.Wire.Link

/-!
Remote controls over the network.

Some media players take key presses as web requests. Some televisions take frames: a frame names
its sender and carries a payload, both behind their lengths. Texts inside a payload are written with
sixty-four letters, again behind their length.
-/

namespace SetTop.Roku

def keyNames : List (String × String) :=
  [("KEY_HOME", "Home"), ("KEY_REWIND", "Rev"), ("KEY_FASTFORWARD", "Fwd"), ("KEY_PLAY", "Play"),
   ("KEY_PAUSE", "Play"), ("KEY_PLAYPAUSE", "Play"), ("KEY_OK", "Select"), ("KEY_LEFT", "Left"),
   ("KEY_RIGHT", "Right"), ("KEY_DOWN", "Down"), ("KEY_UP", "Up"), ("KEY_BACK", "Back"),
   ("KEY_AGAIN", "InstantReplay"), ("KEY_INFO", "Info"), ("KEY_BACKSPACE", "Backspace"),
   ("KEY_SEARCH", "Search"), ("KEY_ENTER", "Enter"), ("KEY_VOLUMEDOWN", "VolumeDown"),
   ("KEY_MUTE", "VolumeMute"), ("KEY_VOLUMEUP", "VolumeUp")]

def keyName (k : Key) : Act String := return (← k.lookup keyNames).getD k.text

def post (url : String) : Act Unit := do
  note (.post url)
  let status := (← bench).statuses.headD 200
  modifyBench fun b => { b with statuses := b.statuses.tail }
  if status ≥ 400 then failBelow .http s!"HTTP {status}"

def press (host : String) (k : Key) : Act Unit := do
  post ("http://" ++ host ++ ":8060/keypress/" ++ (← keyName k))
  k.reportPressed

end SetTop.Roku

namespace SetTop.Samsung

/-- The bytes of a text, which must all be below 256. -/
def bytesOf (s : String) : Except Fault Bytes :=
  if s.toList.all (·.toNat < 256) then .ok (Bytes.ofText s) else .error (.foreign .encoding "")

def withLength (data : Bytes) : Except Fault Bytes := do
  return (← fitting (Bytes.littleEndian? data.length)) ++ data

def encodeText (s : String) : Except Fault Bytes := do
  withLength (Bytes.ofChars (Base64.encode (← bytesOf s)))

def sender : Bytes := Bytes.ofText "iphone.iapp.samsung"

def frame (payload : Bytes) : Except Fault Bytes := do
  return 0 :: (← withLength sender) ++ (← withLength payload)

def greeting (ownName : String) : Except Fault Bytes := do
  frame ([0x64, 0x00] ++ (← encodeText ownName) ++ (← encodeText "my_id") ++
    (← encodeText "stb-tester"))

def keyFrame (key : String) : Except Fault Bytes := do
  frame ([0x00, 0x00, 0x00] ++ (← encodeText key))

def receiveReply (link : Nat) : Act Unit := do
  let reply ← Net.receive link 4096
  Log.debug ("SamsungTCPRemote reply: " ++ String.ofList reply ++ "\n")

def connect (host : String) (port : Int) : Act Nat := do
  let link ← Net.connectOr (.host host (.ofInt port)) (some 3)
    s!"Failed to connect to remote control at {host}:{port}: "
  let own := (← Net.link link).peer.ownName.1
  Net.send link (Bytes.toText (← Act.ofExcept (greeting own)))
  receiveReply link
  return link

def press (link : Nat) (k : Key) : Act Unit := do
  let key ← k.asName
  Net.send link (Bytes.toText (← Act.ofExcept (keyFrame key)))
  k.reportPressed
  receiveReply link

end SetTop.Samsung
