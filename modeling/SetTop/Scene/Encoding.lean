import SetTop.Matching.Result
import SetTop.Scene.Fields
import SetTop.Session

/-!
The values of the library as structured values.

Whole numbers stand for themselves; every other number is marked, so that the two kinds
stay apart.
-/

namespace SetTop.Scene

def encodeNum : Num → Json
  | .int n => .number (.int n)
  | n => .object [("float", .text n.text)]

def encodeJson (j : Json) : Json := j.mapLeaves encodeNum id

def encodeOption {α : Type} (f : α → Json) : Option α → Json
  | some a => f a
  | none => .null

def encodeRegion (r : Region) : Json :=
  .object [("region", .list [encodeNum r.x, encodeNum r.y, encodeNum r.right, encodeNum r.bottom])]

def encodeRegion? : Option Region → Json := encodeOption encodeRegion

def encodePosition (p : Position) : Json :=
  .object [("position", .list [.ofInt p.x, .ofInt p.y])]

def encodeShape (shape : List Nat) : Json := .list (shape.map .ofNat)

def encodeImage (i : Image) : Json :=
  .object [("shape", encodeShape i.shape), ("sum", .ofNat i.sum)]

def encodeTime (t : Option Num) : Except Fault (List (String × Json)) := do
  return [("time", encodeOption encodeNum t), ("timestamp", encodeOption .ofInt (← nanoseconds t))]

def encodeMatch (r : MatchResult) : Except Fault Json :=
  return .object ([("match", .bool r.matched), ("region", encodeRegion r.region),
    ("position", .object [("position", .list [encodeNum r.corner.1, encodeNum r.corner.2])]),
    ("first_pass_result", encodeNum r.certainty), ("repr", .text r.text)] ++ (← encodeTime r.time))

def encodeMotion (r : MotionResult) : Except Fault Json :=
  return .object ([("motion", .bool r.motion), ("region", encodeRegion? r.region), ("repr", .text r.text)] ++
    (← encodeTime r.time))

def encodeTextMatch (r : TextMatchResult) : Except Fault Json :=
  return .object ([("match", .bool r.matched), ("region", encodeRegion? r.region), ("text", .text r.phrase),
    ("repr", .text r.text)] ++ (← encodeTime r.time))

def encodeExit : ExitCode → Json
  | .none => .null
  | .status n => .ofInt n
  | .text s => .text s

def encodeFault : Fault → Json
  | .failure kind message => .object [("error", .text kind.name), ("message", .text message)]
  | .foreign kind _ => .object [("error", .text kind.name)]
  | .system number text | .refused number text =>
    .object [("error", "OSError"), ("errno", .ofNat number), ("strerror", .text text)]
  | .timedOut => .object [("error", "socket.timeout")]
  | .exit code => .object [("error", "SystemExit"), ("code", encodeExit code)]
  | .exhausted source => .object [("error", "EndOfScript"), ("message", .text source)]

def attemptOf {α : Type} (encode : α → Json) : Except Fault α → Json
  | .ok a => encode a
  | .error e => encodeFault e

def regionFault : Region.Error → Fault
  | .tooLarge => .foreign .overflow Region.Error.tooLarge.message
  | e => .failure .value e.message

def encodeAddress : Address → Json
  | .path p => .text p
  | .host name port => .list [.text name, encodeJson port]

def encodeStrings (ss : List String) : Json := .list (ss.map .text)

def encodePairs (ps : List (String × String)) : Json := .object (ps.map fun (k, v) => (k, .text v))

def encodeEvent : Event → Json
  | .sleep s => .list ["sleep", encodeJson s]
  | .connect a => .list ["connect", encodeAddress a]
  | .bind a => .list ["bind", encodeAddress a]
  | .listen n => .list ["listen", .ofNat n]
  | .send label data => .list ["send", .text label, .text data]
  | .shutdown label => .list ["shutdown", .text label]
  | .close label => .list ["close", .text label]
  | .checkCall args => .list ["check_call", encodeJson (.list args)]
  | .checkOutput args => .list ["check_output", .list (args.map encodeJson)]
  | .spawn args => .list ["popen", encodeStrings args]
  | .environment vs => .list ["env", encodePairs vs]
  | .tessdata path text => .list ["tessdata", .text path, .text text]
  | .randint a b => .list ["randint", encodeNum a, encodeNum b]
  | .uniform a b => .list ["uniform", encodeNum a, encodeNum b]
  | .shuffle n => .list ["shuffle", .ofNat n]
  | .warning t => .list ["warning", .text t]
  | .post url => .list ["POST", .text url]
  | .snmpGet oid => .list ["snmp.get", .text oid, .null]
  | .snmpSet oid n => .list ["snmp.set", .text oid, .ofInt n]
  | .cecOpen d => .list ["cec.Open", .text d]
  | .cecRescan => .list ["cec.RescanActiveDevices"]
  | .cecTransmit c => .list ["cec.Transmit", .text c]
  | .addText t => .list ["addstr", .text t]
  | .clear => .list ["clear"]
  | .serial f => .list ["serial", encodeOption .text f]
  | .press k => .list ["press", encodeJson k]
  | .parseLaunch t => .list ["parse_launch", .text t]
  | .setState s => .list ["set_state", .text s]
  | .timeoutAdd ms h => .list ["timeout_add", encodeNum ms, .text h]
  | .sourceRemove n => .list ["source_remove", .ofNat n]
  | .setProperty e k v => .list ["set_property", .text e, .text k, encodeJson v]
  | .emit e s => .list ["emit", .text e, .text s]
  | .sendEvent e v => .list ["send_event", .text e, .text v]
  | .dot n => .list ["dot", .text n]
  | .mainloop p => .list ["mainloop", .text p]

def encodePoint (p : Num × Num) : Json := .list [encodeNum p.1, encodeNum p.2]

def encodeDrawing : Drawing → Json
  | .rectangle a b colour thickness =>
    .list ["rectangle", encodePoint a, encodePoint b, .list (colour.map encodeNum), .ofInt thickness]
  | .text t origin colour scale =>
    .list ["text", .text t, encodePoint origin, .list (colour.map encodeNum), encodeNum scale]

def workingDirectory : String := "/<cwd>"

def installDirectory : String := "/<repo>"

def hidePaths (s : String) : String :=
  replaceText (replaceText s workingDirectory "<cwd>") installDirectory "<repo>"

def hideAll (j : Json) : Json := j.mapLeaves .number hidePaths

end SetTop.Scene

/-!
What a run did.

A report tells how an action ended and what it left in the journal, on the screen and on
the two output channels since the report before.
-/

namespace SetTop.Scene

def traces (b : Bench) (dropErrors : Bool) : List (String × Json) :=
  (if b.journal.isEmpty then [] else [("log", .list (b.journal.map encodeEvent))]) ++
  (if b.drawn.isEmpty then [] else [("drawn", .list (b.drawn.map encodeDrawing))]) ++
  (if b.written.isEmpty then []
    else [("written", .list (b.written.map fun (p, s) => .list [.text p, encodeShape s]))]) ++
  (if b.out.isEmpty then [] else [("stdout", .text b.out)]) ++
  (if b.err.isEmpty || dropErrors then [] else [("stderr", .text b.err)])

def clearTraces (s : Session) : Session :=
  { s with bench := { s.bench with journal := [], drawn := [], written := [], out := "", err := "" } }

def reportOutcome (o : Except Fault Json) (s : Session) : Json × Session :=
  let main := match o with
    | .ok j => [("result", j)]
    | .error e => fields (encodeFault e)
  let dropErrors := match o with
    | .error (.exit (.status 2)) => true
    | _ => false
  (.object (main ++ traces s.bench dropErrors), clearTraces s)

def report (a : Act Json) (s : Session) : Json × Session :=
  let (o, s) := a.run s
  reportOutcome o s

def reportAll (steps : List (Act Json)) (s : Session) : List Json × Session :=
  steps.foldl (fun (acc, s) a => let (j, s) := report a s; (acc ++ [j], s)) ([], s)

def addFields (j : Json) (more : List (String × Json)) : Json := .object (fields j ++ more)

def attempt (a : Act Json) (s : Session) : Json := attemptOf id (a.run s).1

end SetTop.Scene
