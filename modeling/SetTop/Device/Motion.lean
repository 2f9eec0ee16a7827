import SetTop.Device.Basic
import SetTop.Pictures

/-!
Looking for motion in the video.

Two frames are compared place by place. Where they differ by more than the noise allows,
and so do the neighbours, something moved; the result is the box around all such places.

`waitForMotion` waits until some number out of the last so many results have motion. Those
results are a `Window`, whose rule is in `Window.next`.
-/

namespace SetTop

/-- The pictures on the way from two frames to the places where something moved. -/
structure MotionTrace where
  difference : Image
  masked : Option (Image × Image)
  coarse : Image
  fine : Image

namespace Motion

def noiseLimit (threshold : Json) : Except Fault Int := do
  Image.byteShare (← Num.minus 1 (← threshold.needNumber))

def compare (threshold : Json) (mask : Option Image) (previous now : Image) :
    Except Fault MotionTrace := do
  let difference ← now.absoluteDifference previous
  let masked ← match mask with
    | none => pure none
    | some m => do pure (some (m, ← difference.both m))
  let limit ← noiseLimit threshold
  let coarse := Image.threshold limit ((masked.map (·.2)).getD difference)
  return ⟨difference, masked, coarse, coarse.erodeOnce⟩

def regionOf (t : MotionTrace) : Except Fault (Option Region) := do
  match ← pixelBoundingBox t.fine with
  | none => return none
  | some r => some <$> (r.extend (-1 : Int) (-1 : Int) 0 0).mapError fun e => .failure .value e.message

end Motion

structure Window where
  size : Nat
  recent : List MotionResult := []
  moving : Int := 0

namespace Window

def largest : Nat := Nat.pow 2 63 - 1

def weight (r : MotionResult) : Int := if r.motion then 1 else 0

/-- The window after one more result. A full window loses its oldest one. -/
def next (w : Window) (r : MotionResult) : Except Fault Window :=
  if w.recent.length = w.size then
    match w.recent with
    | [] => .error (.foreign .index "pop from an empty deque")
    | oldest :: rest =>
      .ok { w with recent := rest ++ [r], moving := w.moving + weight r - weight oldest }
  else .ok { w with recent := w.recent ++ [r], moving := w.moving + weight r }

def first (w : Window) : Option MotionResult := w.recent.find? (·.motion)

end Window

def motionTimeout (mask : Json) (timeout : Num) : Fault :=
  match timeout.double with
  | .ok t => .failure .motionTimeout
      ("Didn't find motion" ++ (if mask.isTrue then " (with mask '" ++ mask.display ++ "')" else "") ++
        " within " ++ Number.compact t ++ " seconds.")
  | .error e => e

namespace Device

def loadMask (name : String) : Act Image := do
  let path ← findPicture name
  Log.debug ("Using mask " ++ path.getD "None")
  match path with
  | none => fail .uiTest s!"No such mask file: {name}"
  | some p =>
    if !(← isFile p) then fail .uiTest s!"No such mask file: {name}"
    match ← loadGrey p with
    | none => fail .uiTest s!"Failed to load mask file: {p}"
    | some i => return i

def maskOf (name : Json) : Act (Option Image) := do
  if !name.isTrue then return none
  match name with
  | .text s => return some (← loadMask s)
  | _ => failBelow .type

def saveTrace (now : Image) (t : MotionTrace) : Act Unit := do
  let album ← Log.openAlbum "detect_motion"
  Log.savePlain album "source" now
  Log.savePlain album "absdiff" t.difference
  match t.masked with
  | some (mask, masked) =>
    Log.savePlain album "mask" mask
    Log.savePlain album "absdiff_masked" masked
  | none => pure ()
  Log.savePlain album "absdiff_threshold" t.coarse
  Log.savePlain album "absdiff_threshold_erode" t.fine

def saveAttempt (mask : Option Image) (previous now : Image) : Act Unit := do
  let album ← Log.openAlbum "detect_motion"
  Log.savePlain album "source" now
  match now.absoluteDifference previous with
  | .error _ => pure ()
  | .ok difference =>
    Log.savePlain album "absdiff" difference
    match mask.map fun m => (m, difference.both m) with
    | some (m, .ok masked) =>
      Log.savePlain album "mask" m
      Log.savePlain album "absdiff_masked" masked
    | _ => pure ()

structure MotionTask where
  threshold : Json
  maskName : Json
  mask : Option Image

def startMotion (threshold : Json) (maskName : Json) : Act MotionTask := do
  let threshold ← match threshold with
    | .null => Json.number <$> Config.get Config.asFloat "motion" "noise_threshold"
    | t => pure t
  Log.debug "Searching for motion"
  return ⟨threshold, maskName, ← maskOf maskName⟩

/-- Looks at one frame, given the one before in grey. The first frame only has to fit the mask. -/
def motionStep (task : MotionTask) (previous : Option Image) (f : Frame) :
    Act (Option Image × Option MotionResult) := do
  let now ← Act.ofExcept f.image.grey
  match previous with
  | none =>
    match task.mask with
    | some m =>
      if m.size ≠ now.size then
        fail .uiTest ("The dimensions of the mask '" ++ task.maskName.display ++ "' " ++
          Image.shapeText m.shape ++ " don't match the video frame " ++ Image.shapeText now.shape)
    | none => pure ()
    return (some now, none)
  | some before =>
    match Motion.compare task.threshold task.mask before now with
    | .error e =>
      saveAttempt task.mask before now
      throw e
    | .ok t =>
      saveTrace now t
      let region ← Act.ofExcept (Motion.regionOf t)
      let r : MotionResult := ⟨f.time, region.isSome, region⟩
      Display.markMotion r
      Log.debug ((if r.motion then "Motion" else "No motion") ++ " found: " ++ r.text)
      return (some now, some r)

def detectMotion (timeout threshold : Json) (maskName : Json) (limit : Nat) :
    Act (List MotionResult × Option Fault) := do
  if limit = 0 then return ([], none)
  match ← Act.attempt (startMotion threshold maskName) with
  | .error e => return ([], some e)
  | .ok task => Display.collect timeout limit none (motionStep task)

def readQuota (text : String) : Except Fault (Int × Int) :=
  let number (s : String) : Except Fault Int :=
    match Number.readInt? s with
    | some n => .ok n
    | none => .error (.foreign .value "")
  match splitAtCharacter '/' text with
  | a :: b :: _ => do return (← number a, ← number b)
  | _ => do
    let n ← number text
    return (n, n)

def quotaOr : Option String → Act String
  | some q => return q
  | none => Config.text "motion" "consecutive_frames"

/-- Looks at one frame, given the one before and the window of results. -/
def motionWaitStep (task : MotionTask) (needed : Int) (state : Option Image × Window) (f : Frame) :
    Act ((Option Image × Window) ⊕ MotionResult) := do
  let (previous, result) ← motionStep task state.1 f
  match result with
  | none => return .inl (previous, state.2)
  | some r =>
    let window ← Act.ofExcept (state.2.next r)
    if window.moving < needed then return .inl (previous, window)
    Log.debug "Motion detected."
    match window.first with
    | some first => return .inr first
    | none =>
      fail .assertion "Logic error in wait_for_motion: This code should never be reached"

def concludeMotion (timeout maskName : Json) :
    Display.Watched (Option Image × Window) MotionResult → Act MotionResult
  | .done r => return r
  | .failed _ e => throw e
  | .timedOut _ => do
    let _ ← frame
    throw (motionTimeout maskName (timeout.number?.getD 0))

/-- Waits until `needed` of the last `considered` results have motion. -/
def waitFor (timeout threshold maskName : Json) (needed considered : Int) : Act MotionResult := do
  let task ← startMotion threshold maskName
  let outcome ← Display.watch timeout (none, { size := considered.toNat })
    (motionWaitStep task needed)
  concludeMotion timeout maskName outcome

def waitForMotion (timeout : Json) (quota : Option String) (threshold : Json) (maskName : Json) :
    Act MotionResult := do
  let (needed, considered) ← Act.ofExcept (readQuota (← quotaOr quota))
  if needed > considered then fail .configuration "`motion_frames` exceeds `considered_frames`"
  Log.debug s!"Waiting for {needed} out of {considered} frames with motion"
  if considered.natAbs > Window.largest then failBelow .overflow
  if considered < 0 then failBelow .value
  waitFor timeout threshold maskName needed considered

/-! ### Darkness -/

def isBlack (frame : Option Frame) (maskName : Json) (threshold : Json) : Act Bool := do
  let threshold ← match threshold with
    | .null => Json.number <$> Config.get Config.asInt "is_screen_black" "threshold"
    | t => pure t
  let mask ← maskOf maskName
  let f ← match frame with
    | some f => pure f
    | none => Display.pullFrame
  let grey ← Act.ofExcept f.image.grey
  let limit ← Act.ofExcept threshold.needNumber
  let bright := grey.map fun v => if (Num.int v).gt limit then 255 else 0
  let masked ← Act.ofExcept (match mask with
    | some m => bright.both m
    | none => .ok bright)
  if (← Log.level).gt 1 then
    let album ← Log.openAlbum "is_screen_black"
    Log.savePlain album "source" f.image
    match mask with
    | some m => Log.savePlain album "mask" m
    | none => pure ()
    Log.savePlain album "non-black-regions-after-masking" masked
  return bright.maximum mask == 0

end Device

end SetTop
