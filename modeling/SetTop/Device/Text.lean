import SetTop.Device.Basic
import SetTop.Ocr.Reader

/-!
Text on the screen.

Pictures are enlarged three times before they are read, so the boxes of words are three
times too large.
-/

namespace SetTop.Device

open Ocr

def pictureOr : Option Frame → Act Frame
  | some f => return f
  | none => Display.pullFrame

def givenSettings : Json → Ocr.Settings
  | .null => .object []
  | j => j

/-- A copy of settings. A list of pairs will do, too; what is empty stands for none. -/
def copiedSettings (j : Json) : Except Fault (List (String × Json)) :=
  if !j.isTrue then .ok []
  else match j with
    | .object fs => .ok fs
    | .list items => items.foldlM (fun fs item => (pairOf item).map (add fs)) []
    | .text _ => .error (.foreign .value "")
    | _ => .error (.foreign .type "")
where
  add (fs : List (String × Json)) : Option (String × Json) → List (String × Json)
    | some (k, v) => Json.putField fs k v
    | none => fs
  pairOf : Json → Except Fault (Option (String × Json))
    | .list [.text k, v] => .ok (some (k, v))
    | .list [.list _, _] | .list [.object _, _] => .error (.foreign .type "")
    | .list [_, _] => .ok none
    | .list _ => .error (.foreign .value "")
    | .text s => match s.toList with
      | [a, b] => .ok (some (String.ofList [a], .text (String.ofList [b])))
      | _ => .error (.foreign .value "")
    | .object [(k, _), (v, _)] => .ok (some (k, .text v))
    | .object _ => .error (.foreign .value "")
    | _ => .error (.foreign .type "")

/-- Reads the text of a region of a frame: how that ended, and the settings afterwards. -/
def ocr (frame : Option Frame) (region : Option Region) (r : Request) (settings : Ocr.Settings) :
    Act (Except Fault String × Ocr.Settings) := do
  let f ← pictureOr frame
  let region ← match region with
    | some region => pure region
    | none =>
      note (.warning ("Passing region=None to ocr is deprecated since 0.21 and the " ++
        "meaning will change in a future version.  To OCR an entire " ++
        "video frame pass region=Region.ALL instead"))
      pure Region.all
  let (outcome, settings) ← readRegion f.image (some region) r settings
  match outcome with
  | .error e => return (.error e, settings)
  | .ok (text, part) =>
    let text := String.ofList (plain (Text.strip text.toList))
    Log.debug ("OCR in region " ++ regionText part ++ " read '" ++ text ++ "'.")
    return (.ok text, settings)

def third : Num → Num
  | .int n => .int (n.fdiv 3)
  | n => n

def placeOnScreen (part box : Region) : Except Region.Error Region :=
  Region.ofEdges (part.x + third box.x) (part.y + third box.y) (part.x + third box.right)
    (part.y + third box.bottom)

def phraseRegion (document : String) (part : Region) (phrase : List String) (caseMatters : Bool) :
    Except Fault (Option Region) := do
  match findPhrase phrase caseMatters (← words (← Markup.read document)) with
  | none => return none
  | some [] => return none
  | some found =>
    match ← boxOf found with
    | none => throw (.foreign .attribute "'NoneType' object has no attribute 'x'")
    | some box => some <$> (placeOnScreen part box).mapError fun e => .failure .value e.message

/-- Reports where a phrase is in a document that was read off a region. -/
def reportPhrase (text : String) (caseMatters : Bool) (f : Frame) (document : String)
    (part : Option Region) : Act TextMatchResult := do
  let found ← match part with
    | none => pure none
    | some part =>
      if document.isEmpty then pure none
      else Act.ofExcept (phraseRegion document part (wordsOf text) caseMatters)
  let result : TextMatchResult := ⟨f.time, found.isSome, found, f.image, text⟩
  Log.debug ((if result.matched then "match_text: Match found: "
    else "match_text: No match found: ") ++ result.text)
  return result

def matchText (wanted : Json) (frame : Option Frame) (region : Option Region) (mode : Json)
    (language : Json) (settings : Json) (caseMatters : Bool) : Act TextMatchResult := do
  let f ← pictureOr frame
  let own ← Act.ofExcept (copiedSettings settings)
  let own := Json.putField own "tessedit_create_hocr" (.ofInt 1)
  let own := if ← isOlderThan "3.04" then own else Json.putField own "tessedit_create_txt" (.ofInt 0)
  let .text text := wanted | failBelow .attribute
  let request : Request :=
    { mode := mode, language := language, words := .list ((wordsOf text).map .text) }
  let (outcome, _) ← readRegion f.image region request (.object own)
  let (document, part) ← Act.ofExcept outcome
  reportPhrase text caseMatters f document part

end SetTop.Device
