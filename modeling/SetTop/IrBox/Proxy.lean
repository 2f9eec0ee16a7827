import SetTop.Cli.Arguments
import SetTop.IrBox.Message
import SetTop.Wire.Link

/-!
A proxy in front of an emitter that serves only one connection.

Clients talk to the proxy as they would to the emitter, and the proxy passes their commands on one
at a time. Commands that turn the emitter on or off are answered but not passed on. While a client
waits for its response, reports of completion for others are routed first.
-/

namespace SetTop.IrBox.Proxy

def state : Act Proxy := return (← get).proxy

def modifyState (f : Proxy → Proxy) : Act Unit := modify fun s => { s with proxy := f s.proxy }

def setRegistry (r : Registry) : Act Unit := modifyState fun p => { p with registry := r }

/-! ### Messages -/

def info (text : String) : Act Unit := do
  if (← state).verbosity > 1 then say (text ++ "\n")

def warn (text : String) : Act Unit := do
  if (← state).verbosity > 0 then complain ("Warning: " ++ text ++ "\n")

def report (text : String) : Act Unit := do
  if (← state).verbosity > 0 then complain "<traceback>\n"
  complain (text ++ "\n")

def giveUp {α : Type} (text : String) : Act α := do
  report text
  throw (.exit (.status 1))

/-! ### From the emitter -/

def handleCompletion (header data : Data) : Act Unit := do
  let (what, registry) := (← state).registry.complete header data
  let failed : Act Unit := report "Error sending async complete command"
  match what with
  | .unknown n => warn s!"Sequence ID not recognised: {n}"
  | .malformed =>
    failed
    failBelow .unboundLocal
  | .undeliverable =>
    failed
    setRegistry registry
  | .deliver client message =>
    match ← Act.attempt (Net.send client (String.ofList message)) with
    | .ok () => pure ()
    | .error e => if e.isOrdinary then failed else throw e
    setRegistry registry

structure Incoming where
  type : Nat
  header : Data
  data : Data

def readHeader (header : Data) : Except Fault (Nat × Nat) := do
  match ← header.bytes with
  | [high, low, type] => return (high.toNat * 256 + low.toNat, type.toNat)
  | _ => throw unpackable

def receiveIncoming : Act Incoming := do
  let box := (← state).box
  let header ← Net.receiveExactly box 3
  let (length, type) ← Act.ofExcept (readHeader header)
  return ⟨type, header, ← Net.receiveExactly box length⟩

def forClient (m : Incoming) : Act Incoming := do
  if m.type = outputAsync then
    return { m with data := ← Act.ofExcept ((← state).registry.ackForClient m.data) }
  return m

def awaitResponse : Nat → Act Incoming
  | 0 => do fail .socketClosed (← Net.describe (← state).box)
  | fuel + 1 => do
    let m ← receiveIncoming
    if m.type = asyncComplete then
      handleCompletion m.header m.data
      awaitResponse fuel
    else forClient m

def incomingBound : Act Nat := return Stream.size (← Net.link (← state).box).peer.chunks + 1

def readEmitter : Act Unit := do
  let m ← receiveIncoming
  if m.type = asyncComplete then handleCompletion m.header m.data
  else
    let _ ← forClient m

/-- Reads a message that is asked for: a response, or with `sync = false` just the next message. -/
def readMessage (sync : Bool) : Act (Option Incoming) := do
  if sync then
    return some (← awaitResponse (← incomingBound))
  else
    let m ← receiveIncoming
    if m.type = asyncComplete then
      handleCompletion m.header m.data
      return none
    return some (← forClient m)

/-! ### From clients -/

variable (client : Nat)

def readCommand : Act Incoming := do
  let header ← Net.receiveExactly client 4
  let _ ← Act.ofExcept (Data.bytes header)
  let (length, type) ← Act.ofExcept (readHeader (header.drop 1))
  if header.head? = some 'q' then fail .stopRunning ""
  if header.head? ≠ some marker then fail .value "Invalid message from client"
  return ⟨type, header, ← Net.receiveExactly client length⟩

/-- Registers a command that will be reported on. It is passed on under a number of ours. -/
def enroll (m : Incoming) : Act Incoming := do
  if m.type = outputAsync then
    let (data, registry) ← Act.ofExcept ((← state).registry.register client m.data)
    setRegistry registry
    return { m with data := data }
  return m

def receiveCommand : Act Incoming := do
  enroll client (← readCommand client)

/-- Answers a command: those that turn the emitter on or off at once, others by passing them on. -/
def answer (m : Incoming) : Act Unit := do
  if m.type = powerOn || m.type = powerOff then
    Net.send client (String.ofList (Bytes.toChars [0, 0, UInt8.ofNat m.type]))
  else
    Net.send (← state).box (String.ofList (m.header ++ m.data))
    let r ← awaitResponse (← incomingBound)
    Net.send client (String.ofList (r.header ++ r.data))

def dropClient : Act Unit := do
  let fd := (← Net.link client).peer.descriptor
  if !(← state).readers.any (·.1 == fd) then failBelow .key (toString fd)
  modifyState fun p => { p with readers := p.readers.filter (·.1 != fd) }
  Net.close client

def serve : Act Unit := do
  match ← Act.attempt (receiveCommand client) with
  | .error e =>
    if !e.isOrdinary then throw e
    dropClient client
    match e with
    | .failure .socketClosed _ => info "Client connection closed"
    | _ => report "Error reading from client. Connection closed"
  | .ok m =>
    match ← Act.attempt (answer client m) with
    | .ok () => pure ()
    | .error e =>
      if !e.isOrdinary then throw e
      dropClient client
      report "Error reading from client. Connection closed"

/-! ### Running -/

def manage (type : Int) : Act Unit := do
  Net.send (← state).box (String.ofList (← Act.ofExcept (request type [])))
  let r ← awaitResponse (← incomingBound)
  if (r.type : Int) ≠ type then fail .assertion ""

def watch (link : Nat) : Act Unit := do
  let fd := (← Net.link link).peer.descriptor
  modifyState fun p => { p with
    readers :=
      if p.readers.any (·.1 == fd) then
        p.readers.map fun (k, v) => if k == fd then (k, link) else (k, v)
      else p.readers ++ [(fd, link)] }

structure Place where
  boxHost : String
  boxPort : Int := 10001
  listenHost : String := "0.0.0.0"
  listenPort : Int := 10001

def openConnections (place : Place) : Act Nat := do
  note (.bind (.host place.listenHost (.ofInt place.listenPort)))
  note (.listen 5)
  let listener ← Net.adopt {}
  match ← Act.attempt (Net.connect (.host place.boxHost (.ofInt place.boxPort))) with
  | .error e => if e.isOrdinary then giveUp "Could not connect to irNetBox." else throw e
  | .ok box =>
    modifyState fun p => { p with box := box, readers := [] }
    watch listener
    watch box
    return listener

def welcome : Act Unit := do
  let (client, address) ← Net.accept
  info s!"Accepted connection from {address}"
  watch client

def serveReady (listener : Nat) (fd : Int) : Act Unit := do
  let p ← state
  match p.readers.lookup fd with
  | none => failBelow .key (toString fd)
  | some link =>
    if link = listener then welcome
    else if link = p.box then readEmitter
    else serve link

def serveAll (listener : Nat) : Nat → Act Unit
  | 0 => throw (.exhausted "select")
  | fuel + 1 => do
    let ready ← Net.select
    ready.forM (serveReady listener)
    serveAll listener fuel

def shutDown : Act Unit := do
  match ← Act.attempt (manage powerOff) with
  | .ok () => pure ()
  | .error e => if e.isOrdinary then report "Could not turn irNetBox off" else throw e
  (← state).readers.forM fun (_, link) => Net.close link

def run (place : Place) : Act Unit := do
  let listener ← openConnections place
  match ← Act.attempt (manage powerOn) with
  | .ok () => pure ()
  | .error e =>
    if e.isOrdinary then giveUp "Connected to irNetBox, but could not send power on command"
    else throw e
  info s!"Listening for connections on {place.listenHost}:{place.listenPort}"
  Act.ensuring (do serveAll listener ((← bench).ready.length + 1)) shutDown

/-! ### Command line -/

def help : String :=
"usage: stbt [-h] [-v] [-l LISTEN_ADDRESS] [-p LISTEN_PORT]
            irnetbox_address [irnetbox_port]

Network proxy for the RedRat irNetBox MK-III infra-red emitter. Unlike the
real irNetBox hardware, this proxy accepts multiple simultaneous TCP
connections from different clients (and forwards the client requests on to the
irNetBox over a single connection).

positional arguments:
  irnetbox_address      IRNetBox address
  irnetbox_port         IRNetBox port [10001]

options:
  -h, --help            show this help message and exit
  -v, --verbose         Specify once to enable warnings, twice
                        forinformational messages
  -l LISTEN_ADDRESS, --listen-address LISTEN_ADDRESS
                        IP address to listen on [0.0.0.0]
  -p LISTEN_PORT, --listen-port LISTEN_PORT
                        Port to listen on [10001]
"

def grammar : Cli.Grammar :=
  { flags := [Cli.helpFlag, Cli.verboseFlag, ⟨"listen-address", ["-l", "--listen-address"], some .text⟩,
      ⟨"listen-port", ["-p", "--listen-port"], some .whole⟩]
    operands := [⟨"address", .one, .text⟩, ⟨"port", .optional, .whole⟩]
    help := help }

def portNumber (s : Option String) : Int := (s.bind Number.readInt?).getD 10001

def readArguments (arguments : List String) : Except Fault (Nat × Place) := do
  let items ← Cli.parse grammar arguments
  return (Cli.count "verbose" items,
    { boxHost := (Cli.operands "address" items).headD ""
      boxPort := portNumber (Cli.operands "port" items).head?
      listenHost := (Cli.value? "listen-address" items).getD "0.0.0.0"
      listenPort := portNumber (Cli.value? "listen-port" items) })

end SetTop.IrBox.Proxy
