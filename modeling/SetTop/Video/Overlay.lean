import SetTop.Json.Order
import SetTop.Screen.Region

/-!
What is drawn over the video.

Captions are texts that stay for some time, counted from the first frame that is shown after they
were added. A mark is shown on the frame of exactly its time, and forgotten once the video has come
that far. `push` tells what to draw on a frame and what to keep.
-/

namespace SetTop

structure Caption where
  text : String
  duration : Json
  /-- the time of the first frame on which it was shown -/
  start : Option Num := none
  isLost : Bool := false

namespace Caption

def started (now : Option Num) (c : Caption) : Caption :=
  if c.isLost then c
  else match c.start, now with
    | some _, _ => c
    | none, some t => { c with start := some t }
    | none, none => { c with isLost := true }

def isShown (now : Option Num) (c : Caption) : Except Fault Bool := do
  match c.start with
  | none => throw (.foreign .type "")
  | some s =>
    let limit ← s.plus (← c.duration.needNumber)
    return (now.map (·.lt limit)).getD true

end Caption

structure Mark where
  time : Num
  region : Option Region
  label : String
  colour : List Num

namespace Mark

def found : List Num := [32, 0, 255]

def closest : List Num := [32, 255, 255]

def colourFor (ok : Bool) : List Num := if ok then found else closest

end Mark

structure Overlay where
  captions : List Caption := []
  marks : List Mark := []

namespace Overlay

def addCaption (o : Overlay) (text : String) (duration : Json) : Overlay :=
  { o with captions := o.captions ++ [{ text := text, duration := duration }] }

/-- Adds a mark, unless its time is missing or zero. -/
def addMark (o : Overlay) (time : Option Num) (region : Option Region) (label : String)
    (ok : Bool) : Overlay :=
  match time with
  | some t =>
    if t.isTrue then { o with marks := o.marks ++ [⟨t, region, label, Mark.colourFor ok⟩] } else o
  | none => o

def startCaptions (now : Option Num) : List Caption → List Caption
  | [] => []
  | c :: cs =>
    c.started now :: (match (c.started now).isShown now with
      | .ok _ => startCaptions now cs
      | .error _ => cs)

def shownCaptions (now : Option Num) : List Caption → Except Fault (List Caption)
  | [] => .ok []
  | c :: cs => do
    let shown ← (c.started now).isShown now
    let rest ← shownCaptions now cs
    return if shown then c.started now :: rest else rest

def shownMarks (now : Num) (marks : List Mark) : List Mark := marks.filter fun m => m.time.eq now

def laterMarks (now : Num) (marks : List Mark) : List Mark := marks.filter fun m => !now.ge m.time

def push (o : Overlay) (now : Option Num) : Except Fault (List Caption × List Mark) × Overlay :=
  match shownCaptions now o.captions with
  | .error e => (.error e, { o with captions := startCaptions now o.captions })
  | .ok shown =>
    match now with
    | none => (.ok (shown, []), ⟨shown, o.marks⟩)
    | some t => (.ok (shown, shownMarks t o.marks), ⟨shown, laterMarks t o.marks⟩)

end Overlay

end SetTop
