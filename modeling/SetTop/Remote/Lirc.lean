import SetTop.Remote.Key
import SetTop.Text.PatternSyntax
import SetTop.Wire.Link

/-!
Infrared remote controls behind a daemon.

The daemon is told to emit a key by one line, and answers with a packet of lines between
`BEGIN` and `END`. It also tells about the keys that it receives, one line each.
-/

namespace SetTop.Lirc

structure Control where
  name : String
  daemon : Address

def defaultSocket : String := "/var/run/lirc/lircd"

abbrev Line := List Char

def beginLine : Line := "BEGIN".toList
def endLine : Line := "END".toList

/-- Gathers the lines of a packet, starting anew at each `BEGIN`; the flag says whether it has
ended. -/
def gather : List Line → List Line → Except Fault (List Line × Bool)
  | reply, [] => .ok (reply, false)
  | reply, line :: rest =>
    let reply := (if line = beginLine then [] else reply) ++ [line]
    if line = endLine then
      match reply[1]? with
      | none => .error (.foreign .index "list index out of range")
      | some request =>
        if Text.hasPart "SEND_ONCE".toList request then .ok (reply, true) else gather reply rest
    else gather reply rest

def dataLines (reply : List Line) (count : Int) : List Line :=
  let stop := 5 + count
  let stop := if stop < 0 then stop + reply.length else stop
  (reply.take stop.toNat).drop 5

def judge (reply : List Line) : Except Fault Unit :=
  if reply.contains "SUCCESS".toList then .ok ()
  else if reply.contains "ERROR".toList && 6 ≤ reply.length && reply[3]? == some "DATA".toList then
    let announced := String.ofList ((reply[4]?).getD [])
    match Number.readInt announced with
    | .error e => .error (.foreign .value (e.message announced))
    | .ok count =>
      .error (.failure .runtime ("LIRC remote control returned error: " ++
        String.ofList (Text.join [' '] (dataLines reply count))))
  else .error (.failure .runtime "LIRC remote control returned unknown error")

def noReply (timeout : Json) : Fault :=
  match (do (← timeout.needNumber).whole : Except Fault Int) with
  | .ok seconds => .failure .runtime
      ("Timed out: No reply from LIRC remote control within " ++ toString seconds ++ " seconds")
  | .error e => e

def readReply (timeout : Json) (chunks : List Chunk) : Except Fault Unit := do
  let (lines, reason) := Stream.records ['\n'] chunks
  let (reply, complete) ← gather [] lines
  if !complete && reason = .paused then throw (noReply timeout)
  judge reply

def patience : Num := 3

def connect : Address → Act Nat
  | .path p => Net.connectOr (.path p) (some patience) s!"Failed to connect to Lirc socket {p}: "
  | .host name port =>
    Net.connectOr (.host name port) (some patience)
      ("Failed to connect to remote control at " ++ name ++ ":" ++ port.display ++ ": ")

def addressText : Address → String
  | .path p => p
  | .host name port => name ++ ":" ++ port.display

def kindText : Address → String
  | .path _ => "LircRemote"
  | .host .. => "TCPLircRemote"

def Control.make (name : String) (daemon : Address) : Act Control := do
  let kind := kindText daemon
  let place := addressText daemon
  Log.debug s!"{kind}: Connecting to {place}"
  let _ ← connect daemon
  Log.debug s!"{kind}: Connected to {place}"
  return ⟨name, daemon⟩

def request (control key : String) : String := s!"SEND_ONCE {control} {key}\n"

def Control.press (c : Control) (k : Key) : Act Unit := do
  let link ← connect c.daemon
  Net.send link (request c.name k.text)
  let chunks ← Net.reading link fun chunks => (chunks, [])
  Act.ofExcept (readReply (.number patience) chunks)
  k.reportPressed

variable (control : String)

/-- The pattern of a line about a received key, in which the name of the control is itself a
pattern. -/
def receivedPattern : Except Fault Pattern :=
  match Pattern.ofText ("\\w+ (?P<repeat_count>\\d+) (?P<key>\\w+) " ++ control) with
  | .ok p => .ok p
  | .error .malformed => .error (.foreign .pattern "")
  | .error .countTooLarge => .error (.foreign .overflow "")
  | .error .countTooLong => .error (.foreign .value "")
  | .error .classesClash => .error (.foreign .value "")

def receivedKey (line : List Char) : Except Fault (Option String) := do
  let some spot := (← receivedPattern control).matchStart line | return none
  let some count := spot.group? "repeat_count" | throw (.foreign .type "")
  match Number.readInt count with
  | .ok n => return if n = 0 then spot.group? "key" else none
  | .error _ => throw (.foreign .value "")

/-- The keys that lines tell about, where any values may stand in place of the lines. -/
def receivedKeysOf (lines : List Json) : Except Fault (List String) := do
  let found ← lines.mapM fun
    | .text line => receivedKey control line.toList
    | _ => .error (.foreign .attribute "")
  return found.filterMap id

end SetTop.Lirc
