import SetTop.Config.Store
import SetTop.Image.Filter

/-!
How hard a template is looked for.

Each parameter that is not given comes from the `match` section of the configuration.
-/

namespace SetTop

/-- The parameters of a search for a template. They must be numbers only where they are used. -/
structure MatchParameters where
  matchMethod : String
  matchThreshold : Json
  confirmMethod : String
  confirmThreshold : Json
  erodePasses : Json

namespace MatchParameters

variable (p : MatchParameters)

def text : String :=
  "MatchParameters(match_method=" ++ quote p.matchMethod ++ ", match_threshold=" ++
    p.matchThreshold.literal ++ ", confirm_method=" ++ quote p.confirmMethod ++
    ", confirm_threshold=" ++ p.confirmThreshold.literal ++ ", erode_passes=" ++
    p.erodePasses.literal ++ ")"

def matchMethods : List String := ["sqdiff-normed", "ccorr-normed", "ccoeff-normed"]

def confirmMethods : List String := ["none", "absdiff", "normed-absdiff"]

def methodNamed (known : List String) (what : String) (given : Json) : Act String := do
  match given with
  | .text name =>
    if known.contains name then return name
    fail .value s!"Invalid {what} '{name}'"
  | other => fail .value ("Invalid " ++ what ++ " '" ++ other.display ++ "'")

def givenOr (configured : Act Json) : Json → Act Json
  | .null => configured
  | given => return given

def make (matchMethod matchThreshold confirmMethod confirmThreshold erodePasses : Json) :
    Act MatchParameters := do
  let matchMethod ← givenOr (.text <$> Config.text "match" "match_method") matchMethod
  let matchThreshold ←
    givenOr (.number <$> Config.get Config.asFloat "match" "match_threshold") matchThreshold
  let confirmMethod ← givenOr (.text <$> Config.text "match" "confirm_method") confirmMethod
  let confirmThreshold ←
    givenOr (.number <$> Config.get Config.asFloat "match" "confirm_threshold") confirmThreshold
  let erodePasses ← givenOr (.number <$> Config.get Config.asInt "match" "erode_passes") erodePasses
  let matchMethod ← methodNamed matchMethods "match_method" matchMethod
  let confirmMethod ← methodNamed confirmMethods "confirm_method" confirmMethod
  return ⟨matchMethod, matchThreshold, confirmMethod, confirmThreshold, erodePasses⟩

def configured : Act MatchParameters := make .null .null .null .null .null

/-- The threshold at a level of the pyramid. Scaled down pictures get a discount. -/
def thresholdAt (level : Nat) : Except Fault Num :=
  do return Num.max 0 (← (← p.matchThreshold.needNumber).minus (if level > 0 then .real 0.2 else 0))

/-- The largest difference that confirmation allows. A text is repeated and then read as an integer.
-/
def confirmLimit : Except Fault Int :=
  match p.confirmThreshold with
  | .text s =>
    let repeated := String.ofList (List.replicate 255 s.toList).flatten
    (Number.readInt repeated).mapError fun e => .foreign .value (e.message repeated)
  | given =>
    match given.number? with
    | some share => Image.byteShare share
    | none => .error (.foreign .type "")

def passCount : Except Fault Nat :=
  match p.erodePasses.number? with
  | some (.int n) => .ok n.toNat
  | _ => .error (.foreign .type "erode passes must be an integer")

end MatchParameters

end SetTop
