import SetTop.Matching.Run
import SetTop.Remote.Key
import SetTop.Scene.Picture
import SetTop.Scene.Encoding

/-!
Parts of a request that several kinds of steps share.
-/

namespace SetTop.Scene

def checkFields (step : Json) (needed known : List String) : Act Unit := do
  if needed.any fun k => !has step k then failBelow .type
  if (fields step).any fun (k, _) => !needed.contains k && !known.contains k then failBelow .type

def parameters (j : Json) : Act MatchParameters := do
  checkFields j []
    ["match_method", "match_threshold", "confirm_method", "confirm_threshold", "erode_passes"]
  MatchParameters.make (get j "match_method") (get j "match_threshold") (get j "confirm_method")
    (get j "confirm_threshold") (get j "erode_passes")

def parameters? (j : Json) : Act (Option MatchParameters) :=
  match j.field? "params" with
  | none | some .null => return none
  | some p => some <$> parameters p

def parametersOr (j : Json) : Act MatchParameters := do
  match ← parameters? j with
  | some p => return p
  | none => MatchParameters.configured

variable (names : List (String × Json))

def templateSource (j : Json) : TemplateSource :=
  match j, j.field? "file" with
  | _, some (.text name) => .file name
  | _, some _ => .other
  | .object _, none | .text _, none => .picture (image names j)
  | _, none => .other

def frame (j : Json) : Frame := ⟨image names j, num? (get j "t")⟩

def frame? (j : Json) : Option Frame :=
  match j.field? "frame" with
  | none | some .null => none
  | some f => some (frame names f)

def needText : Json → Act String
  | .text s => return s
  | _ => failBelow .type

def arguments (j : Json) : Act (List String) :=
  match texts? j with
  | some words => return words
  | none => failBelow .type

def needItems (j : Json) : Act (List Json) :=
  match sequence? j with
  | some js => return js
  | none => failBelow .type

def key : Json → Key
  | .text s => .name s
  | j => .other j

end SetTop.Scene
