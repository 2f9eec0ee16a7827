import SetTop.Logging
import SetTop.Programs
import SetTop.Remote.Uri

/-!
Power outlets.

An outlet is turned on and off and asked for its state: by a file, a helper program, a
managed strip on the network, or a switch on a serial line.
-/

namespace SetTop

inductive Outlet
  | none
  | file (name : String)
  | helper (address : String)
  | strip (place : Int)
  | serial
deriving DecidableEq

namespace OutletUri

open Pattern

def none : Pattern := text "none"

def file : Pattern := sequence [text "file", setting "filename" (upTo ":")]

def strip : Pattern :=
  sequence [text "aten", setting "hostname" (upTo ": "), setting "outlet" (upTo ": ")]

def helper : Pattern :=
  sequence [group "model" (.either (text "pdu") (.either (text "ipp") (text "testfallback"))),
    setting "hostname" (upTo ": "), setting "outlet" (upTo ": ")]

def serial : Pattern := sequence [text "aviosys-8800-pro", optional (setting "filename" (upTo ":"))]

end OutletUri

namespace Outlet

def makeStrip (outlet : String) : Act Outlet := do return .strip (← settingNumber outlet)

def openSerial (file : Option String) : Act Outlet := do
  note (.serial file)
  return .serial

/-- The kinds of addresses, in the order in which they are tried. -/
def table : List (Pattern × (Spot → Act Outlet)) :=
  [(OutletUri.none, fun _ => return .none),
   (OutletUri.file, fun s => return .file (s.group "filename")),
   (OutletUri.strip, fun s => makeStrip (s.group "outlet")),
   (OutletUri.helper, fun s =>
      return .helper (s.group "model" ++ ":" ++ s.group "hostname" ++ ":" ++ s.group "outlet")),
   (OutletUri.serial, fun s => openSerial (s.group? "filename"))]

def ofUri (uri : String) : Act Outlet :=
  match findUri table uri true with
  | some (make, settings) => make settings
  | Option.none => fail .configuration ("Invalid power outlet URI: \"" ++ uri ++ "\"")

/-! ### Files -/

def getFile (name : String) : Act Bool := do
  match ← Act.attempt (fileText name) with
  | .ok text =>
    let n ← settingNumber (String.ofList (text.toList.take 1))
    return n ≠ 0
  | .error e => if e = FileTree.noSuchFile then return true else throw e

/-! ### Helper programs -/

def helperCall (address command : String) : Act (List String) := do
  return ["bash", (← bench).home ++ "/_stbt/stbt-power.sh", "--power-outlet=" ++ address, command]

def getHelper (address : String) : Act Bool := do
  let out := stripText (← Programs.output ((← helperCall address "status").map .text))
  if out == "ON" then return true
  else if out == "OFF" then return false
  else failBelow .key out

/-! ### Managed strips -/

def objectId (place : Int) : String := s!"1.3.6.1.4.1.21317.1.3.2.2.2.2.{place + 1}.0"

/-- Asks a strip for the state of a place, or changes it first: 1 is off, 2 is on, 3 is between. -/
def askStrip (place : Int) (change : Option Bool) : Act Int := do
  let oid := objectId place
  match change with
  | Option.none => note (.snmpGet oid)
  | some on => note (.snmpSet oid (if on then 2 else 1))
  let reply := (← bench).snmp.headD (.value (.number 3) Option.none)
  modifyBench fun b => { b with snmp := b.snmp.tail }
  let check (found : Option String) : Act Unit := do
    if found.getD oid ≠ oid then fail .assertion ""
  match reply with
  | .failed reason => fail .runtime ("SNMP Error (" ++ reason ++ ")")
  | .missing found =>
    check found
    fail .runtime s!"Invalid outlet {place}"
  | .value v found =>
    check found
    match v with
    | .number (.int n) => return n
    | .bool b => return if b then 1 else 0
    | v => fail .runtime ("Unexpected result (" ++ v.display ++ ")")

/-- Waits until a strip reports a state; `tries` is the number of seconds to wait. -/
def awaitStrip (place state : Int) (on : Bool) : Nat → Act Unit
  | 0 => fail .runtime ("Timeout waiting for outlet to power " ++ (if on then "ON" else "OFF"))
  | tries + 1 => do
    sleep 1
    if (← askStrip place Option.none) = state then pure () else awaitStrip place state on tries

def getStrip (place : Int) : Act Bool := do
  match ← askStrip place Option.none with
  | 1 => return false
  | 2 => return true
  | 3 => return false
  | n => failBelow .key (toString n)

/-! ### All kinds -/

def onSerial {α : Type} (f : Port → Except Fault α × Port) : Act α := do
  let (r, p) := f (← bench).serial
  modifyBench fun b => { b with serial := p }
  Act.ofExcept r

def set (o : Outlet) (on : Bool) : Act Unit := do
  match o with
  | .none =>
    if !on then fail .runtime "Cannot disable power: no power outlet configured"
  | .file name => putText name (if on then "1" else "0")
  | .helper address => do
    Programs.call ((← helperCall address (if on then "on" else "off")).map .text)
  | .strip place =>
    let state ← askStrip place (some on)
    awaitStrip place state on 12
  | .serial => onSerial (·.setPower on)

def get (o : Outlet) : Act Bool :=
  match o with
  | .none => return true
  | .file name => getFile name
  | .helper address => getHelper address
  | .strip place => getStrip place
  | .serial => onSerial Port.getPower

/-! ### The program -/

def help : String :=
"usage: stbt [-h] [--power-outlet URI] command

Control and query a computer controllable power outlet

positional arguments:
  command             on|off:  Turn power on or off
                      status:  Prints ON if the outlet is powered, otherwise prints OFF

options:
  -h, --help          show this help message and exit
  --power-outlet URI  Address of the power device and the outlet on the device.
                      The format of <uri> is either:
                        aten:<hostname>:<outlet> - For ATEN network controlled PDU
                        ipp:<hostname>:<outlet> - For IP Power 9258 network controlled PDU
                        pdu:<hostname>:<outlet> - For PDUeX KWX network controlled PDU
                        aviosys-8800-pro[:<serial device>] - For Aviosys 8800 Pro USB
                            controlled outlets
                      where
                        <hostname>       The device's network address.
                        <outlet>         Address of the individual power outlet on
                                         the device. Allowed values depend on the
                                         specific device model.
                        <serial device>  The device name of the serial device that the
                                         8800 Pro exposes.  Defaults to /dev/ttyACM0
                      This URI defaults to from stbt.conf's \"global.power_outlet\" if not
                      specified on the command line.
"

def grammar : Cli.Grammar :=
  { flags := [Cli.helpFlag, ⟨"outlet", ["--power-outlet"], some .text⟩]
    operands := [⟨"command", .one, .oneOf ["on", "off", "status"]⟩]
    help := help }

def run (arguments : List String) : Act Unit := do
  let default ← Config.getOr Config.asText "global" "power_outlet" (some "")
  let items ← Cli.read grammar arguments
  let command := (Cli.operands "command" items).headD ""
  let outlet ← ofUri ((Cli.value? "outlet" items).getD default)
  if command == "status" then say (if ← outlet.get then "ON\n" else "OFF\n")
  else outlet.set (command == "on")

end Outlet

end SetTop
