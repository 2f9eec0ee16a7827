import SetTop.Image.Basic
import SetTop.Number.Checked

/-!
What a search of a frame reports.
-/

namespace SetTop

def boolText (b : Bool) : String := if b then "True" else "False"

def optionText (n : Option Num) : String := (n.map Num.text).getD "None"

def regionText (r : Option Region) : String := (r.map Region.text).getD "None"

def nanoseconds : Option Num → Except Fault (Option Int)
  | none => .ok none
  | some t => do return some (← (← t.times (.real 1000000000.0)).whole)

structure MatchResult where
  time : Option Num
  matched : Bool
  region : Region
  certainty : Num
  frame : Image
  name : Option String
  /-- whether the candidate was good enough before it was confirmed -/
  likely : Bool

namespace MatchResult

def text (r : MatchResult) : String :=
  "MatchResult(time=" ++ optionText r.time ++ ", match=" ++ boolText r.matched ++ ", region=" ++
    r.region.text ++ ", first_pass_result=" ++ r.certainty.text ++ ", frame=<" ++
    r.frame.dimensions ++ ">, image=" ++ ((r.name.map quote).getD "<Custom Image>") ++ ")"

def corner (r : MatchResult) : Num × Num := (r.region.x, r.region.y)

end MatchResult

structure MotionResult where
  time : Option Num
  motion : Bool
  region : Option Region

def MotionResult.text (r : MotionResult) : String :=
  "MotionResult(time=" ++ optionText r.time ++ ", motion=" ++ boolText r.motion ++ ", region=" ++
    regionText r.region ++ ")"

structure TextMatchResult where
  time : Option Num
  matched : Bool
  region : Option Region
  frame : Image
  phrase : String

def TextMatchResult.text (r : TextMatchResult) : String :=
  "TextMatchResult(time=" ++ optionText r.time ++ ", match=" ++ boolText r.matched ++ ", region=" ++
    regionText r.region ++ ", frame=<" ++ r.frame.dimensions ++ ">, text=" ++ quote r.phrase ++ ")"

end SetTop
