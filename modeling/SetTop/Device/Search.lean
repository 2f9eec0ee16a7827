import SetTop.Device.Basic
import SetTop.Matching.Run

/-!
Looking for a template in the video.

`waitForMatch` waits for a number of frames in a row with the template at one and the same
place. The count of such frames is a `Streak`; the rule for it is in `Streak.next`.
-/

namespace SetTop

structure Streak where
  count : Nat := 0
  place : Num × Num := (0, 0)

namespace Streak

def samePlace (a b : Num × Num) : Bool := a.1.eq b.1 && a.2.eq b.2

/-- The streak after one more frame. A match elsewhere ends it without starting a new one. -/
def next (s : Streak) (matched : Bool) (place : Num × Num) : Streak :=
  ⟨if matched && (s.count == 0 || samePlace place s.place) then s.count + 1 else 0, place⟩

def isLong (s : Streak) (wanted : Json) : Bool := Json.same (.ofNat s.count) wanted

end Streak

def matchTimeout (name : String) (timeout : Num) : Fault :=
  match timeout.double with
  | .ok t => .failure .matchTimeout
      ("Didn't find match for '" ++ name ++ "' within " ++ Number.compact t ++ " seconds.")
  | .error e => e

namespace Device

def parametersOr : Option MatchParameters → Act MatchParameters
  | some p => return p
  | none => MatchParameters.configured

variable (t : Template)

def announceLive (live : Bool) (r : MatchResult) : Act Unit := do
  if live then Display.markMatch r t.label

def frameOr : Option Frame → Act Frame
  | some f => return f
  | none => Display.pullFrame

variable (source : TemplateSource)

def search (frame : Option Frame) (params : Option MatchParameters)
    (region : Option Region) : Act MatchResult := do
  let p ← parametersOr params
  let t ← loadTemplate source
  let f ← frameOr frame
  matchFrame t f p region (announceLive t frame.isNone)

def searchAll (frame : Option Frame) (params : Option MatchParameters)
    (region : Option Region) (limit : Nat) : Act (List MatchResult × Option Fault) := do
  if limit = 0 then return ([], none)
  let outcome ← Act.attempt do
    let p ← parametersOr params
    let t ← loadTemplate source
    let f ← frameOr frame
    matchFrameAll t f p region limit (announceLive t frame.isNone)
  match outcome with
  | .ok r => return r
  | .error e => return ([], some e)

def searchIn (params : Option MatchParameters) (region : Option Region) (f : Frame) :
    Act MatchResult := do
  let r ← search (.loaded t) (some f) params region
  Display.markMatch r t.label
  return r

/-- Loads a template and tells of it. -/
def announceSearch : Act Template := do
  let t ← loadTemplate source
  Log.debug ("Searching for " ++ t.friendlyName)
  return t

def detectMatch (timeout : Json) (params : Option MatchParameters)
    (region : Option Region) (limit : Nat) : Act (List MatchResult × Option Fault) := do
  if limit = 0 then return ([], none)
  match ← Act.attempt (announceSearch source) with
  | .error e => return ([], some e)
  | .ok t =>
    Display.collect timeout limit () fun _ f => return ((), some (← searchIn t params region f))

/-- Looks at one frame, given the streak before it and the last result. -/
def waitStep (p : MatchParameters) (region : Option Region) (wanted : Json)
    (state : Streak × Option MatchResult) (f : Frame) :
    Act ((Streak × Option MatchResult) ⊕ MatchResult) := do
  let r ← searchIn t (some p) region f
  let streak := state.1.next r.matched r.corner
  if streak.isLong wanted then
    Log.debug ("Matched " ++ t.friendlyName)
    return .inr r
  return .inl (streak, some r)

def concludeWait (timeout : Json) :
    Display.Watched (Streak × Option MatchResult) MatchResult → Act MatchResult
  | .done r => return r
  | .failed _ e => throw e
  | .timedOut (_, none) => failBelow .unboundLocal
  | .timedOut (_, some _) => throw (matchTimeout t.friendlyName (timeout.number?.getD 0))

def waitForMatch (timeout wanted : Json) (params : Option MatchParameters)
    (region : Option Region) : Act MatchResult := do
  let p ← parametersOr params
  let t ← loadTemplate source
  Log.debug ("Searching for " ++ t.friendlyName)
  let outcome ← Display.watch timeout ({}, none) (waitStep t p region wanted)
  concludeWait t timeout outcome

def isMatchTimeout : Fault → Bool
  | .failure .matchTimeout _ => true
  | _ => false

/-- Presses a key until the template is seen, again after each search in vain but at most `most`
times. -/
def pressUntil (d : Device) (key : Key) (source : TemplateSource) (interval most : Json)
    (params : MatchParameters) (pressed : Nat) : Nat → Act MatchResult
  | 0 => waitForMatch source interval (.ofInt 1) (some params) (some Region.all)
  | fuel + 1 => do
    match ← Act.attempt (waitForMatch source interval (.ofInt 1) (some params) (some Region.all)) with
    | .ok r => return r
    | .error e =>
      if !isMatchTimeout e then throw e
      if !(Num.int pressed).lt (← Act.ofExcept most.needNumber) then throw e
      d.press key
      d.pressUntil key source interval most params (pressed + 1) fuel

/-- Presses a key until the template is seen. Every search in vain takes frames, so there are never
more presses than frames to come. -/
def pressUntilMatch (d : Device) (key : Key) (source : TemplateSource) (interval most : Json)
    (params : Option MatchParameters) : Act MatchResult := do
  let configured (given : Json) (option : String) : Act Json :=
    match given with
    | .null => Json.number <$> Config.get Config.asInt "press_until_match" option
    | j => pure j
  let interval ← configured interval "interval_secs"
  let most ← configured most "max_presses"
  let p ← parametersOr params
  d.pressUntil key source interval most p 0 ((← bench).feed.length + 1)

end Device

end SetTop
