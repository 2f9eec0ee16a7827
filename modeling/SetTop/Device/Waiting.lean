import SetTop.Logging

/-!
Waiting for conditions, and conditions that a test depends on.
-/

namespace SetTop

/-- Tries a condition until it holds or the time is up. The condition may change as it is tried. -/
def tryUntil {α σ : Type} (name : String) (holds : α → Bool) (condition : σ → Act (α × σ))
    (expiry : Num) (interval : Json) : Nat → σ → Act (α × σ)
  | 0, state => condition state
  | fuel + 1, state => do
    let (value, state) ← condition state
    if holds value then return (value, state)
    if (← clock).gt expiry then
      Log.debug ("wait_until timed out: " ++ name)
      return (value, state)
    sleepFor interval
    tryUntil name holds condition expiry interval fuel state

def waitUntil {α σ : Type} (name : String) (holds : α → Bool) (condition : σ → Act (α × σ))
    (timeout interval : Json) (fuel : Nat) (state : σ) : Act (α × σ) := do
  let start ← clock
  let expiry ← Act.ofExcept (do start.plus (← timeout.needNumber))
  tryUntil name holds condition expiry interval fuel state

namespace Fault

def isTestFailure : Fault → Bool
  | .failure k _ | .foreign k _ =>
    [FaultKind.uiTestFailure, .matchTimeout, .motionTimeout, .noVideo, .assertion].contains k
  | _ => false

def hasScreenshot : Fault → Bool
  | .failure k _ => k == .matchTimeout || k == .motionTimeout
  | _ => false

def className : Fault → String
  | .failure k _ | .foreign k _ => k.name
  | .system .. | .refused .. => "OSError"
  | .timedOut => "socket.timeout"
  | .exit _ => "SystemExit"
  | .exhausted _ => "EndOfScript"

end Fault

structure Unmet where
  message : String
  cause : Fault

namespace Unmet

def text (u : Unmet) : String :=
  "Didn't meet precondition '" ++ u.message ++ "' (original exception was: " ++ u.cause.text ++ ")"

def fault (u : Unmet) : Fault := .failure .precondition u.text

end Unmet

def tryPrecondition {α : Type} (message : String) (a : Act α) : Act (Except Unmet α) := do
  match ← Act.attempt a with
  | .ok v => return .ok v
  | .error e =>
    if !e.isTestFailure then throw e
    Log.debug ("stbt.as_precondition caught a " ++ e.className ++
      " exception and will re-raise it as PreconditionError.\nOriginal exception was:\n<traceback>")
    return .error ⟨message, e⟩

end SetTop
