import SetTop.Logging
import SetTop.Matching.Result

/-!
The display: the way of the video from the capture to the script and on to the output.

A sample that arrives goes into the mailbox. The script takes it, works on the frame, and lets it go
on to the output with everything drawn over it that was asked for. `watch` does so frame by frame
until the script has what it wants or the time is up, by the times of the frames themselves.
-/

namespace SetTop.Display

def current : Act Display := do
  match (← get).display with
  | some d => return d
  | none => failBelow .attribute

def change (f : Display → Display) : Act Unit :=
  modify fun s => { s with display := s.display.map f }

/-! ### Construction -/

structure Options where
  source : String := "videotestsrc"
  sink : String := "fakesink"
  saveVideo : String := ""
  restarts : Bool := false
  transform : Option String := some "identity"

/-- The pipeline from the source to the script. There is none without a transformation. -/
def sourceDescription? (o : Options) : Option String :=
  o.transform.map fun transform =>
    joinText " ! " [
      o.source,
      "queue name=_stbt_user_data_queue max-size-buffers=0 " ++
        "    max-size-bytes=0 max-size-time=10000000000",
      "decodebin",
      "queue name=_stbt_raw_frames_queue max-size-buffers=2",
      "videoconvert",
      "video/x-raw,format=BGR",
      transform,
      "appsink name=appsink max-buffers=1 drop=false sync=true emit-signals=true " ++
        "caps=video/x-raw,format=BGR"]

def videoFile (name : String) : String := if endsWithText name ".webm" then name else name ++ ".webm"

def sinkDescription (o : Options) : String :=
  let saving :=
    if o.saveVideo.isEmpty then ""
    else "t. ! queue leaky=downstream ! videoconvert ! " ++
      "vp8enc cpu-used=6 min_quantizer=32 max_quantizer=32 ! " ++
      "webmmux ! filesink location=" ++ videoFile o.saveVideo
  joinText " " ["appsrc name=appsrc format=time caps=video/x-raw,format=(string)BGR !", "tee name=t",
    saving, "t. ! queue leaky=downstream ! videoconvert !", o.sink]

/-! ### The source -/

def carryOut : SourceAction → Act Unit
  | .launch d => note (.parseLaunch d)
  | .setState s => note (.setState s.name)
  | .setText element key value => note (.setProperty element key (.text value))
  | .setFlag element key value => note (.setProperty element key (.bool value))
  | .addTimer t => note (.timeoutAdd t.milliseconds t.name)
  | .removeTimer id => note (.sourceRemove id)
  | .sendEnd element => note (.sendEvent element "eos")
  | .warn text => Log.warn text
  | .detail text => Log.detail text

def handle {α : Type} (h : Source.Handler α) : Act α := do
  let (outcome, source, done) := h.run (← current).source
  change fun d => { d with source := source }
  done.forM carryOut
  Act.ofExcept outcome

def make (o : Options) : Act Unit := do
  let now ← clock
  match sourceDescription? o with
  | none => failBelow .type
  | some description =>
    let rig := (← bench).rig
    let source : Source := { description := description, restarts := o.restarts, rig := rig }
    modify fun s => { s with display := some { source := source, made := now } }
    handle Source.create
    if !o.saveVideo.isEmpty then Log.debug ("Saving video to '" ++ videoFile o.saveVideo ++ "'")
    note (.parseLaunch (sinkDescription o))
    Log.debug ("source pipeline: " ++ description)
    Log.debug ("sink pipeline: " ++ sinkDescription o)

def startUp : Act Unit := do
  handle Source.play
  note (.setState PipelineState.playing.name)
  change fun d => { d with ended := false }
  note (.mainloop "enter")

def tearDown : Act Unit := do
  handle Source.close
  Log.debug "teardown: Sending eos"
  let d ← current
  if d.source.rig.missing.contains "appsrc" then failBelow .attribute
  note (.emit "appsrc" "end-of-stream")
  if !d.ended then Log.debug "Timeout waiting for sink EOS"
  note (.setState PipelineState.null.name)
  note (.mainloop "exit")

/-! ### Drawing -/

def drawText (text : String) (x y : Num) (colour : List Num) (scale : Num) : Act Unit := do
  if text.isEmpty then return
  let width : Num := 10 * text.length
  draw (.rectangle (x - 2, y + 2) (x + width + 2, y - 20 - 2) [0, 0, 0] (-1))
  draw (.text text (x, y) colour scale)

def drawMark (m : Mark) : Act Unit := do
  match m.region with
  | none => pure ()
  | some r =>
    draw (.rectangle (r.x, r.y) (r.right, r.bottom) m.colour 3)
    drawText m.label r.x (r.y - 10) [255, 255, 255] (.real 0.5)

def brightness (now start : Num) : Except Fault Num := do
  let age := (← (← now.minus start).double) / 3.0
  let share := if 0.5 > 1.0 - age then 0.5 else 1.0 - age
  return .int (← (Num.ofFloat (255.0 * share)).whole)

/-- Draws a caption; `row` counts from the top. How bright it is depends on the time of the frame. -/
def drawCaption (now : Option Num) (row : Nat) (c : Caption) : Act Unit := do
  let shade ← match now with
    | some t => Act.ofExcept (brightness t (c.start.getD t))
    | none => failBelow .type
  drawText c.text 10 ((row + 2) * 30 : Nat) [shade, shade, shade] (.real 1.0)

def timeOfDay : Act String := return (← now).stamp

def addCaption (text : String) (duration : Json) : Act Unit := do
  let stamped := (← timeOfDay) ++ " " ++ text
  change fun d => { d with overlay := d.overlay.addCaption stamped duration }

/-- Asks for a result to be marked. Its time must be one that can be told in nanoseconds. -/
def addMark (time : Option Num) (region : Option Region) (ok : Bool) (label : String) : Act Unit := do
  let _ ← Act.ofExcept (nanoseconds time)
  change fun d => { d with overlay := d.overlay.addMark time region label ok }

def markMatch (r : MatchResult) (label : String) : Act Unit :=
  addMark r.time (some r.region) r.matched label

def markMotion (r : MotionResult) : Act Unit := addMark r.time r.region r.motion "detect_motion()"

variable (s : Sample)

/-- Draws the time of day, the captions, newest first, and the marks on the frame of a sample. -/
def paint (captions : List Caption) (marks : List Mark) : Act Unit := do
  let _ ← Act.ofExcept (s.makeWritable.frame true)
  drawText (← timeOfDay) 10 30 [255, 255, 255] (.real 1.0)
  captions.reverse.zipIdx.forM fun (c, row) => drawCaption s.time row c
  marks.forM drawMark

def pushSample : Act Unit := do
  let d ← current
  let (shown, overlay) := d.overlay.push s.time
  change fun d => { d with overlay := overlay }
  let (captions, marks) ← Act.ofExcept shown
  paint s captions marks
  if d.source.rig.missing.contains "appsrc" then failBelow .attribute

/-! ### Arrival -/

def deliver (item : Delivery) : Act Unit := do
  match item with
  | .trouble text => Log.detail ("glib thread: reporting exception to user thread: " ++ text)
  | .sample s =>
    Log.detail ("glib thread: new sample (time=" ++ optionText s.time ++ "). Queue.qsize: " ++
      toString (← current).mailbox.size)
  change fun d => { d with mailbox := d.mailbox.deliver item }

/-- Half of the range of times that are believed, in seconds: one year. -/
def believedYear : Num := 31536000

def arrive (nanoseconds : Num) : Act Sample := do
  let time := Num.ofFloat ((← Act.ofExcept nanoseconds.double) / 1000000000.0)
  let s := { s with time := some time }
  let made := (← current).made
  if time.gt (made + believedYear) || time.lt (made - believedYear) then
    Log.warn ("Received frame with suspicious timestamp: " ++ Number.fixed 6 time.toFloat ++
      ". Check your source-pipeline configuration.")
  deliver (.sample s)
  pushSample s
  return s

variable (text details : String)

def messageText : String := text ++ ": " ++ text ++ "\n" ++ details ++ "\n"

def reportError (known : Bool) : Act Unit := do
  if known then note (.dot "ERROR")
  deliver (.trouble (messageText text details))

def reportWarning : Act Unit := do
  note (.dot "WARNING")
  Log.warn ("Warning: " ++ messageText text details)

def outputEnded : Act Unit := do
  Log.debug "Got EOS"
  change fun d => { d with ended := true }

/-! ### Taking frames -/

def await : Act (Option Delivery) := do
  let item := (← bench).feed.head?.join
  modifyBench fun b => { b with feed := b.feed.tail }
  return item

def takeItem : Act (Option Delivery) := do
  let (item, rest) := (← current).mailbox.take
  match item with
  | some i =>
    change fun d => { d with mailbox := rest }
    return some i
  | none => await

def getSample : Act Sample := do
  match ← takeItem with
  | none =>
    change fun d => { d with noVideo := true }
    if (← current).source.current.isSome then note (.dot "NoVideo")
    fail .noVideo "No video"
  | some (.trouble text) =>
    change fun d => { d with noVideo := false }
    fail .uiTest text
  | some (.sample s) =>
    change fun d => { d with noVideo := false }
    let f ← Act.ofExcept s.frame
    change fun d => { d with lastUsed := some f }
    return s

def pullFrame : Act Frame := do
  let s ← getSample
  Act.ofExcept s.frame

/-- How watching the video ended: the time was up, the script had what it wanted, or something
failed. -/
inductive Watched (σ β : Type)
  | timedOut (state : σ)
  | done (result : β)
  | failed (state : σ) (fault : Fault)

def timeLimit : Json → Except Fault (Option Num)
  | .null => .ok none
  | j => some <$> j.needNumber

def nextSample (timeout : Json) (start : Option Num) : Act (Option (Sample × Option Num)) := do
  Log.detail ("user thread: Getting sample at " ++ (← clock).text)
  let timeout ← Act.ofExcept (timeLimit timeout)
  let s ← getSample
  Log.detail ("user thread: Got sample at " ++ (← clock).text)
  match timeout, s.time with
  | none, _ => return some (s, start)
  | some _, none => failBelow .type
  | some limit, some t =>
    let begun := match start with
      | some b => if b.isTrue then b else t
      | none => t
    if (← Act.ofExcept (t.minus begun)).gt limit then
      let shown (n : Num) : Act String := return Number.fixed 3 (← Act.ofExcept n.double)
      Log.debug ("timed out: " ++ (← shown t) ++ " - " ++ (← shown begun) ++ " > " ++ (← shown limit))
      return none
    return some (s, some begun)

def letGo : Act Unit := do
  match ← Act.attempt (pushSample s) with
  | .ok () => pure ()
  | .error e => if e.isOrdinary then pure () else throw e

def watchFrom {σ β : Type} (timeout : Json) (step : σ → Frame → Act (σ ⊕ β)) :
    Nat → Option Num → σ → Act (Watched σ β)
  | 0, _, state => return .failed state (.failure .noVideo "No video")
  | fuel + 1, start, state => do
    match ← Act.attempt (nextSample timeout start) with
    | .error e => return .failed state e
    | .ok none => return .timedOut state
    | .ok (some (s, start)) =>
      match ← Act.attempt (do step state (← Act.ofExcept s.frame)) with
      | .error e =>
        letGo s
        return .failed state e
      | .ok (.inr result) =>
        letGo s
        return .done result
      | .ok (.inl state) =>
        match ← Act.attempt (pushSample s) with
        | .error e => return .failed state e
        | .ok () => watchFrom timeout step fuel start state

def watch {σ β : Type} (timeout : Json) (start : σ) (step : σ → Frame → Act (σ ⊕ β)) :
    Act (Watched σ β) := do
  watchFrom timeout step ((← bench).feed.length + 2) none start

/-- Collects what `step` makes of the frames, at most `limit` results. A failure ends the list. -/
def collect {σ β : Type} (timeout : Json) (limit : Nat) (start : σ)
    (step : σ → Frame → Act (σ × Option β)) : Act (List β × Option Fault) := do
  if limit = 0 then return ([], none)
  let outcome ← watch timeout (start, ([] : List β)) fun (state, found) frame => do
    let (state, result) ← step state frame
    match result with
    | none => return .inl (state, found)
    | some r =>
      if found.length + 1 = limit then return .inr (found ++ [r])
      return .inl (state, found ++ [r])
  match outcome with
  | .timedOut (_, found) => return (found, none)
  | .done found => return (found, none)
  | .failed (_, found) e => return (found, some e)

end SetTop.Display
