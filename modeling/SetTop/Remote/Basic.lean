import SetTop.IrBox.Client
import SetTop.IrBox.Signals
import SetTop.Remote.Cec
import SetTop.Remote.Lirc
import SetTop.Remote.Networked
import SetTop.Remote.Uri
import SetTop.Remote.X11

/-!
Remote controls.

`Remote.ofUri` makes the control that an address stands for and, where there is
something to connect to, connects once, so that a missing device is found at once and not
at the first key. `Remote.press` presses a key.
-/

namespace SetTop

/-- A networked emitter, with the output to use and the signals of the keys. -/
structure IrRemote where
  host : String
  port : Int
  output : Int
  signals : IrBox.Signals

inductive Remote
  | null
  | error (message : String)
  | file (name : Option String)
  /-- sets the pattern of the test picture, if there is a display with one -/
  | test (attached : Bool)
  | lirc (c : Lirc.Control)
  | irBox (c : IrRemote)
  | roku (host : String)
  | samsung (link : Nat)
  | x11 (c : X11.Control)
  | cec (c : Cec.Control)
  | rehearsed (failing : List String)

namespace IrRemote

def connect (r : IrRemote) : Act IrBox.Box := do
  match ← Act.attempt (IrBox.connect r.host (.ofInt r.port)) with
  | .ok box => return box
  | .error (.system number text) =>
    throw (.refused number
      (s!"Failed to connect to IRNetBox {r.host}: " ++ (Fault.system number text).text))
  | .error e => throw e

def whileOpen (r : IrRemote) (a : IrBox.Box → Act Unit) : Act Unit := do
  let box ← r.connect
  Act.ensuring (a box) box.close

def make (host : String) (port : Option String) (output config : String) : Act IrRemote := do
  let port ← settingNumberOr 10001 port
  let output ← settingNumber output
  let signals ← Act.ofExcept (IrBox.Signals.ofText (← fileText config))
  let r : IrRemote := ⟨host, port, output, signals⟩
  Log.debug s!"IRNetBoxRemote: Connecting to {host}"
  r.whileOpen IrBox.Box.turnOn
  sleep (.real 0.5)
  Log.debug s!"IRNetBoxRemote: Connected to {host}"
  return r

def press (r : IrRemote) (k : Key) : Act Unit := do
  r.whileOpen fun box => do
    match ← k.lookup r.signals with
    | some data => box.emit (.ofInt r.output) (.ofInt 100) (.text (String.ofList data))
    | none => failBelow .key k.text
  k.reportPressed

end IrRemote

namespace Remote

def patterns : List String :=
  ["smpte", "snow", "black", "white", "red", "green", "blue", "checkers-1", "checkers-2",
   "checkers-4", "checkers-8", "circular", "blink", "smpte75", "zone-plate", "gamut",
   "chroma-zone-plate", "solid-color", "ball", "smpte100", "bar"]

def isPattern : Key → Bool
  | .name s => patterns.contains s
  | .other (.bool _) => true
  | .other (.number n) => (List.range patterns.length).any fun i => n.eq (.int i)
  | .other _ => false

def pressTest (attached : Bool) (k : Key) : Act Unit := do
  if !isPattern k then
    fail .runtime ("Key \"" ++ k.text ++ "\" not valid for the \"test\" control")
  if !attached then
    failBelow .attribute "'NoneType' object has no attribute 'source_pipeline'"
  modifyBench fun b => { b with pattern := some k.toJson }
  Log.debug ("Pressed " ++ k.text)

def makeFile (name : Option String) : Act Remote := do
  match name with
  | some f => putText f ""
  | none => pure ()
  return .file name

def table (attached : Bool) : List (Pattern × (Spot → Act Remote)) :=
  [(RemoteUri.error, fun s =>
      return .error ((s.group? "message").getD "No remote control configured")),
   (RemoteUri.file, fun s => makeFile (s.group? "filename")),
   (RemoteUri.irBox, fun s =>
      .irBox <$> IrRemote.make (s.group "hostname") (s.group? "port") (s.group "output")
        (s.group "config")),
   (RemoteUri.lircHost, fun s => do
      let port ← settingNumber (s.group "port")
      .lirc <$> Lirc.Control.make (s.group "control_name")
        (.host ((s.group? "hostname").getD "localhost") (.ofInt port))),
   (RemoteUri.lircSocket, fun s =>
      .lirc <$> Lirc.Control.make (s.group "control_name")
        (.path ((s.group? "lircd_socket").getD Lirc.defaultSocket))),
   (RemoteUri.none, fun _ => return .null),
   (RemoteUri.roku, fun s => return .roku (s.group "hostname")),
   (RemoteUri.samsung, fun s => do
      let port ← settingNumberOr 55000 (s.group? "port")
      .samsung <$> Samsung.connect (s.group "hostname") port),
   (RemoteUri.test, fun _ => return .test attached),
   (RemoteUri.x11, fun s => .x11 <$> X11.Control.make (s.group? "display") (s.group? "mapping")),
   (RemoteUri.cec, fun s =>
      .cec <$> Cec.connect (s.group? "device") (s.group? "source") (s.group? "destination"))]

def ofUri (uri : String) (attached : Bool := false) : Act Remote :=
  match findUri (table attached) uri true with
  | some (make, settings) => make settings
  | none => fail .configuration ("Invalid remote control URI: \"" ++ uri ++ "\"")

def pressFile (name : Option String) (k : Key) : Act Unit := do
  let line := (← k.asName) ++ "\n"
  match name with
  | some f => appendText f line
  | none => say line

def pressRehearsed (failing : List String) (k : Key) : Act Unit := do
  note (.press k.toJson)
  if failing.contains k.text then failBelow .runtime

def press (r : Remote) (k : Key) : Act Unit :=
  match r with
  | .null => Log.debug ("NullRemote: Ignoring request to press \"" ++ k.text ++ "\"")
  | .error message => fail .runtime message
  | .file name => pressFile name k
  | .test attached => pressTest attached k
  | .lirc c => c.press k
  | .irBox c => c.press k
  | .roku host => Roku.press host k
  | .samsung link => Samsung.press link k
  | .x11 c => c.press k
  | .cec c => c.press k
  | .rehearsed failing => pressRehearsed failing k

end Remote

end SetTop
