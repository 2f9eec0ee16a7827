import SetTop.Fault

/-!
The source of video, and how it recovers from losing it.

When the pipeline of a source runs dry, a timer is set; if the video does not come back, the timer
restarts the source: the pipeline is stopped, and after a pause a new one is started. The end of the
stream restarts the source at once.

Handlers change the state of the source, and note what they do to the world in order. A handler that
fails leaves what it did until then.
-/

namespace SetTop

structure Rig where
  missing : List String := []
  live : Bool := false
  /-- what a walk over the elements that produce data meets: a name, or a result code -/
  sources : List (String ⊕ Int) := []
  /-- whether timers that were cancelled go off all the same; a timer is then numbered by how many
  are running, and otherwise by how many there were -/
  keepsTimers : Bool := false

namespace Rig

/-- The elements that a walk delivers, each with its name, and how it ends. -/
def walk : List (String ⊕ Int) → List (Option String) × Except Fault Unit
  | [] => ([], .ok ())
  | .inl name :: rest =>
    let (names, e) := walk rest
    (some name :: names, e)
  | .inr 1 :: rest =>
    let (names, e) := walk rest
    (none :: names, e)
  | .inr 2 :: _ => ([], .error (.failure .runtime "Iteration Resync"))
  | .inr 3 :: _ => ([], .error (.failure .runtime "Iteration Error"))
  | .inr _ :: _ => ([], .ok ())

end Rig

inductive PipelineState
  | null | paused | playing
deriving DecidableEq

def PipelineState.name : PipelineState → String
  | .null => "NULL"
  | .paused => "PAUSED"
  | .playing => "PLAYING"

inductive Timer
  | restart | start
deriving DecidableEq

namespace Timer

def name : Timer → String
  | .restart => "restart_source"
  | .start => "start_source"

def milliseconds : Timer → Nat
  | .restart => 2000
  | .start => 5000

end Timer

inductive SourceAction
  | launch (description : String)
  | setState (state : PipelineState)
  | setText (element key value : String)
  | setFlag (element key : String) (value : Bool)
  | addTimer (timer : Timer)
  | removeTimer (id : Nat)
  | sendEnd (element : String)
  | warn (text : String)
  | detail (text : String)
deriving DecidableEq

structure Source where
  description : String
  restarts : Bool
  rig : Rig := {}
  pipelines : List PipelineState := []
  current : Option Nat := none
  /-- the guard against running dry: whether there is one, and the timer it last set -/
  guard : Option (Option Nat) := none
  timers : List (Nat × Timer) := []
  timersSet : Nat := 0
  closing : Bool := false

namespace Source

/-- A handler: it can fail, and what it did until then stays done. -/
abbrev Handler := ExceptT Fault (StateM (Source × List SourceAction))

def Handler.run {α : Type} (h : Handler α) (s : Source) :
    Except Fault α × Source × List SourceAction :=
  Id.run (StateT.run (ExceptT.run h) (s, []))

namespace Handler

def source : Handler Source := return (← get).1

def change (f : Source → Source) : Handler Unit := modify fun (s, done) => (f s, done)

def act (a : SourceAction) : Handler Unit := modify fun (s, done) => (s, done ++ [a])

def absent {α : Type} : Handler α := failBelow .attribute

def needElement (name : String) : Handler Unit := do
  if (← source).rig.missing.contains name then absent

end Handler

open Handler

def pipeline : Handler Nat := do
  match (← source).current with
  | some n => return n
  | none => absent

def bring (n : Nat) (state : PipelineState) : Handler Unit := do
  act (.setState state)
  change fun s => { s with pipelines := s.pipelines.set n state }

def create : Handler Unit := do
  act (.launch (← source).description)
  change fun s =>
    { s with pipelines := s.pipelines ++ [.null], current := some s.pipelines.length }
  needElement "appsink"
  if (← source).restarts then needElement "_stbt_user_data_queue"

def play : Handler Unit := do
  let n ← pipeline
  bring n .paused
  if (← source).rig.live then
    needElement "_stbt_raw_frames_queue"
    act (.setText "_stbt_raw_frames_queue" "leaky" "downstream")
    needElement "appsink"
    act (.setFlag "appsink" "sync" false)
  bring n .playing

def nextTimer (s : Source) : Nat := (if s.rig.keepsTimers then s.timers.length else s.timersSet) + 1

def addTimer (t : Timer) : Handler Nat := do
  act (.addTimer t)
  let id := (← source).nextTimer
  change fun s => { s with timers := s.timers ++ [(id, t)], timersSet := s.timersSet + 1 }
  return id

def cancelTimer (id : Nat) : Handler Unit := do
  act (.removeTimer id)
  change fun s =>
    if s.rig.keepsTimers then s else { s with timers := s.timers.filter (·.1 != id) }

def armGuard : Handler Unit := do
  match (← source).guard with
  | none => absent
  | some _ =>
    let id ← addTimer .restart
    change fun s => { s with guard := some (some id) }

def restart : Handler Unit := do
  act (.warn "Attempting to recover from video loss: Stopping source pipeline and waiting 5s...")
  let n ← pipeline
  bring n .null
  change fun s => { s with current := none }
  let _ ← addTimer .start

def start : Handler Unit := do
  if (← source).closing then return
  act (.warn "Restarting source pipeline...")
  create
  play
  act (.warn "Restarted source pipeline")
  if (← source).restarts then armGuard

def underrun : Handler Unit := do
  match (← source).guard with
  | some _ => act (.detail "underrun: I already saw a recent underrun; ignoring")
  | none =>
    act (.detail "underrun: scheduling 'restart_source' in 2s")
    change fun s => { s with guard := some none }
    armGuard

def running : Handler Unit := do
  match (← source).guard with
  | none => act (.detail "running: no outstanding underrun timers; ignoring")
  | some timer =>
    act (.detail "running: cancelling underrun timer")
    match timer with
    | some id => cancelTimer id
    | none => pure ()
    change fun s => { s with guard := none }

def streamEnded : Handler Unit := do
  if !(← source).closing then
    act (.warn "Got EOS from source pipeline")
    restart

/-- A timer goes off: it is gone, and does what it was set for. It must be there. -/
def fire (index : Nat) : Handler Unit := do
  match (← source).timers[index]? with
  | none => failBelow .index
  | some (_, t) =>
    change fun s => { s with timers := s.timers.eraseIdx index }
    match t with
    | .restart => restart
    | .start => start

def close : Handler Unit := do
  let s ← source
  change fun s => { s with closing := true, current := none }
  match s.current with
  | none => pure ()
  | some n =>
    let (names, e) := Rig.walk s.rig.sources
    names.forM fun
      | some name => act (.sendEnd name)
      | none => absent
    match e with
    | .error f => throw f
    | .ok () => pure ()
    needElement "appsink"
    bring n .null

end Source

end SetTop
