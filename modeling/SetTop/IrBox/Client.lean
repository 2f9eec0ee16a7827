import SetTop.Dice
import SetTop.IrBox.Message
import SetTop.Wire.Link

/-!
Using a networked infrared emitter.

A request is followed by its response. A signal sent with a number of its own is
acknowledged with that number and reported again when it has been emitted.
-/

namespace SetTop.IrBox

structure Box where
  link : Nat
  model : Nat

def markOne : Nat := 2
def markTwo : Nat := 7

def receiveResponse (link : Nat) : Act Response := do
  let l ← Net.link link
  if l.ended then failBelow .stopIteration
  let (outcome, buffer, chunks) := nextResponse l.buffer l.peer.chunks
  Net.modifyLink link fun l => { l with
    buffer := buffer, peer := { l.peer with chunks := chunks }, ended := !outcome.isOk }
  match outcome with
  | .ok r => return r
  | .error reason => throw reason.fault

/-- What an acknowledgement says: the number of the command, an error code, and whether it was
accepted. -/
def readAck (data : Data) : Except Fault (Nat × Nat × Nat) := do
  match ← data.bytes with
  | [low, high, code, ack] => return (high.toNat * 256 + low.toNat, code.toNat, ack.toNat)
  | _ => throw (wrongSize 4)

def readCompletion (data : Data) : Except Fault Nat := do
  let (high, low) ← Data.pair (data.take 2)
  return high * 256 + low

def awaitCompletion (link number : Nat) : Act Unit := do
  let r ← receiveResponse link
  if r.type ≠ asyncComplete then
    fail .plain s!"IRNetBox returned unexpected message {r.type}"
  let found ← Act.ofExcept (readCompletion r.data)
  if found ≠ number then
    fail .plain ("IRNetBox returned message IR_ASYNC_COMPLETE " ++
      s!"with unexpected sequence number {found} (expected {number})")

/-- Reads what follows a request: the response, and then the report if there is to be one. -/
def readAnswer (link type : Nat) : Act Data := do
  let r ← receiveResponse link
  if r.type = errorType then fail .plain "IRNetBox returned ERROR"
  if r.type ≠ type then
    fail .plain s!"IRNetBox returned unexpected response type {r.type} to request {type}"
  if r.type = outputAsync then
    let (number, code, ack) ← Act.ofExcept (readAck r.data)
    if ack = 1 then awaitCompletion link number
    else fail .plain s!"IRNetBox returned NACK (error code: {code})"
  return r.data

def exchange (link type : Nat) (data : Data := []) : Act Data := do
  Net.send link (String.ofList (← Act.ofExcept (request type data)))
  readAnswer link type

def readModel (data : Data) : Except Fault Nat := do
  let (low, high) ← Data.pair ((data.drop 10).take 2)
  return high * 256 + low

/-- Connects; a refused connection is tried again, with pauses that get longer. -/
def connectPatiently (host : String) (port : Json) : Nat → Num → Act Nat
  | 0, _ => Net.connect (.host host port) (some 10)
  | tries + 1, pause => do
    match ← Act.attempt (Net.connect (.host host port) (some 10)) with
    | .ok n => return n
    | .error e =>
      match e with
      | .system 111 _ =>
        let shownPort ← Act.ofExcept (do (← port.needNumber).whole)
        complain (s!"Connection to irNetBox '{host}:{shownPort}' refused; retrying in " ++
          Number.fixed 2 pause.toFloat ++ "s.\n")
        sleep pause
        connectPatiently host port tries (pause * 2)
      | _ => throw e

def connect (host : String) (port : Json) : Act Box := do
  let link ← connectPatiently host port 5 (.real 0.1)
  let data ← exchange link deviceVersion
  return ⟨link, ← Act.ofExcept (readModel data)⟩

namespace Box

def close (b : Box) : Act Unit := Net.close b.link

variable (b : Box)

def send (type : Nat) (data : Data := []) : Act Unit := do
  let _ ← exchange b.link type data

def wholeByte (j : Json) : Except Fault UInt8 :=
  match j.number? with
  | some (.int n) => fitting (Bytes.byte? n) "ubyte format requires 0 <= number <= 255"
  | _ => .error unpackable

def instruct (code : Json) : Act Unit := do
  let code ← Act.ofExcept (wholeByte code)
  b.send instruction (Bytes.toChars [code])

def turnOn : Act Unit := b.send powerOn

def turnOff : Act Unit := b.send powerOff

def reset : Act Unit := b.instruct (.ofInt 0x00)

def indicatorsOn : Act Unit := b.instruct (.ofInt 0x17)

def indicatorsOff : Act Unit := b.instruct (.ofInt 0x18)

/-- The powers of the sixteen outputs: the given one at one output, counted from the last for
numbers below one, and zero elsewhere. -/
def powers (port power : Json) : Except Fault (List Json) :=
  match port.number? with
  | some (.int port) =>
    let index := port - 1
    let index := if index < 0 then index + 16 else index
    if 0 ≤ index ∧ index < 16 then .ok ((List.replicate 16 (Json.ofInt 0)).set index.toNat power)
    else .error (.foreign .index "list assignment index out of range")
  | _ => .error (.foreign .type "list indices must be integers")

def checkLength : Json → Except Fault Unit
  | .text _ | .list _ | .object _ => .ok ()
  | _ => .error (.foreign .type "")

def signalData : Json → Except Fault Data
  | .text s => .ok s.toList
  | j => do checkLength j; throw unpackable

def asyncData (number : Int) (ports : List Json) (data : Json) : Except Fault Data := do
  checkLength data
  let ports ← ports.mapM wholeByte
  let data ← (← signalData data).bytes
  let number ← fitting (Bytes.bigEndian? number)
  return Bytes.toChars (number ++ [0, 0] ++ ports ++ data)

def isBelow (limit : Int) : Json → Except Fault Bool
  | .null => .ok true
  | power => do return (← power.needNumber).lt (.int limit)

def instructFor (port : Json) (offset : Int) : Act Unit := do
  b.instruct (.number (← Act.ofExcept (do (← port.needNumber).plus (.int offset))))

def emitFromMemory (port power data : Json) : Act Unit := do
  b.reset
  b.indicatorsOn
  b.send setMemory
  b.instruct (.ofInt 0x00)
  if ← Act.ofExcept (isBelow 33 power) then b.instructFor port 1
  else if ← Act.ofExcept (isBelow 66 power) then b.instructFor port 31
  else
    b.instructFor port 1
    b.instructFor port 31
  b.send downloadSignal (← Act.ofExcept (signalData data))
  b.send outputSignal
  b.reset

/-- Emits a signal on one output. Output and power should be numbers and the signal a text. -/
def emit (port power data : Json) : Act Unit := do
  if b.model = markOne then fail .plain "IRNetBox MK1 not supported"
  else if b.model = markTwo then b.emitFromMemory port power data
  else
    let ports ← Act.ofExcept (powers port power)
    let number ← Dice.integer 0 65535
    b.send outputAsync (← Act.ofExcept (asyncData number ports data))

end Box

end SetTop.IrBox
