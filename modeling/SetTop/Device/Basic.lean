import SetTop.Remote.Basic
import SetTop.Video.Display

/-!
The device under test: a remote control to press keys with, and a display to see what
they do.
-/

namespace SetTop

structure Device where
  control : Remote

namespace Device

/-- The microseconds still to wait after a key press, given the delay that is asked for. -/
def pause (last now : Int) (delay : Num) : Except Fault Int := do
  return last - now + (← Span.ofSeconds delay)

/-- Waits until the delay since the last key press is over. Sleeping may end early, so it is
repeated. -/
def waitAfter (last : Int) (delay : Json) : Nat → Act Unit
  | 0 => pure ()
  | fuel + 1 => do
    let now ← calendarClock
    let rest ← Act.ofExcept (do Span.check (← pause last now (← delay.needNumber)))
    if rest > 0 then
      sleep (Span.seconds rest)
      waitAfter last delay fuel

def drawText (text : String) (duration : Json) : Act Unit := Display.addCaption text duration

def press (d : Device) (key : Key) (delay : Json := .null) : Act Unit := do
  let delay ← match delay with
    | .null => Json.number <$> Config.get Config.asFloat "press" "interpress_delay_secs"
    | s => pure s
  match (← get).lastPress with
  | some last => waitAfter last delay 1000
  | none => pure ()
  d.control.press key
  let now ← calendarClock
  modify fun s => { s with lastPress := some now }
  match key with
  | .name s => drawText s (.ofInt 3)
  | .other v => fail .type ("Can't draw object of type '" ++ v.kindName ++ "'")

def frame : Act Frame := Display.pullFrame

def frames (timeout : Json) (limit : Nat) : Act (List (Frame × Int) × Option Fault) :=
  Display.collect timeout limit () fun _ f => do
    match ← Act.ofExcept (nanoseconds f.time) with
    | some t => return ((), some (f, t))
    | none => failBelow .type

end Device

end SetTop
