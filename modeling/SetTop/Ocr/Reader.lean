import SetTop.Logging
import SetTop.Markup.Reading
import SetTop.Matching.Result
import SetTop.Ocr.Phrase
import SetTop.Ocr.Version
import SetTop.Programs

/-!
Reading text off pictures with a helper program.

The helper takes its settings, and words or patterns to look out for, from files beside its own
data, so it works on a copy of that data. The settings are the caller's own: entries that the reader
adds stay there, also when it fails.
-/

namespace SetTop.Ocr

abbrev Settings := Json

/-- An action that also works on settings. What it did to them stays when it fails. -/
abbrev SettingsAct := ExceptT Fault (StateT Settings (StateM Session))

namespace SettingsAct

def lift {α : Type} (a : Act α) : SettingsAct α :=
  ExceptT.mk fun settings session =>
    let (r, session) := a.run session
    ((r, settings), session)

def run {α : Type} (a : SettingsAct α) (settings : Settings) : Act (Except Fault α × Settings) :=
  ExceptT.mk fun session =>
    let ((r, settings), session) := Id.run (StateT.run (StateT.run (ExceptT.run a) settings) session)
    (.ok (r, settings), session)

end SettingsAct

/-! ### The helper -/

def versionOf (output : String) : Except Fault Version :=
  match (splitAtCharacter '\n' output).find? (startsWithText · "tesseract") with
  | none => .error (.foreign .index "")
  | some line =>
    match wordsOf line with
    | _ :: v :: _ => .ok (.ofText v)
    | _ => .error (.foreign .index "")

def version : Act (Option Version) := do
  match (← get).ocrProgram with
  | some output => some <$> Act.ofExcept (versionOf output)
  | none =>
    match ← Act.attempt (Programs.output [.text "tesseract", .text "--version"]) with
    | .ok output =>
      modify fun s => { s with ocrProgram := some output }
      some <$> Act.ofExcept (versionOf output)
    | .error (.system 2 _) => return none
    | .error e => throw e

/-- Whether the helper is older than a version. One that is missing counts as older. -/
def isOlderThan (limit : String) : Act Bool := do
  match ← version with
  | none => return true
  | some v => Act.ofExcept (v.isOlder (.ofText limit))

def installedData (program : String) : Act String := do
  let share := Path.normalize (program ++ "/../../share/")
  for back in ["/tessdata", "/tesseract-ocr/tessdata", "/tesseract/tessdata"] do
    if ← pathExists (share ++ back) then return share ++ back
  fail .runtime "Installation error: Cannot locate tessdata directory"

def dataDirectory : Act String := do
  match (← lookupVariable "TESSDATA_PREFIX").filter (!·.isEmpty) with
  | some front =>
    if ← pathExists (front ++ "/tessdata") then return front ++ "/tessdata"
    fail .runtime s!"Invalid TESSDATA_PREFIX: {front}"
  | none =>
    match (← bench).executables.lookup "tesseract" with
    | some program => installedData program
    | none => failBelow .type

def linkDirectory (source target : String) : Act Unit := do
  let full ← fullPath source
  let root := Path.join target (Path.baseName source)
  for (dir, dirs, files) in ← lookFiles (·.walk full) do
    for name in dirs do
      makeDirectory (Path.join root (Path.relative full (Path.join dir name) full))
    for name in files do
      let rel := Path.relative full (Path.join dir name) full
      let p ← fullPath (Path.join root rel)
      changeFiles (·.addLink p (Path.join source rel))

/-! ### Requests -/

structure Request where
  mode : Json := .ofInt 3
  language : Json := "eng"
  words : Json := .null
  patterns : Json := .null

/-- The number of a mode. It may be written out. -/
def modeNumber : Json → Except Fault Int
  | .text s => (Number.readInt s).mapError fun e => .foreign .value (e.message s)
  | j => do (← j.needNumber).whole

/-- The lines of a list, one for each item. A text is a list of characters, and an object one of
names. -/
def linesOf : Json → Except Fault (List String)
  | .text s => .ok (s.toList.map fun c => String.ofList [c])
  | .list js => .ok (js.map Json.display)
  | .object fs => .ok (fs.map (·.1))
  | _ => .error (.foreign .type "")

variable (key : String)

def hasEntry : Settings → Except Fault Bool
  | .object fs => .ok (fs.any (·.1 == key))
  | .list items => .ok (items.any (Json.same · key))
  | .text s => .ok (hasText s key)
  | _ => .error (.foreign .type "")

def withEntry (value : Json) : Settings → Except Fault Settings
  | .object fs => .ok (.object (Json.putField fs key value))
  | _ => .error (.foreign .type "")

def entryLines : Settings → Except Fault (List (String × Json))
  | .object fs => .ok fs
  | _ => .error (.foreign .attribute "")

def hasSetting : SettingsAct Bool := do
  SettingsAct.lift (Act.ofExcept (hasEntry key (← get)))

def putSetting (value : Json) : SettingsAct Unit := do
  set (← SettingsAct.lift (Act.ofExcept (withEntry key value (← get))))

def alreadySet (what : String) : Fault :=
  .failure .value ("You cannot specify 'user_" ++ what ++ "' and '_config[\"user_" ++ what ++
    "_suffix\"]' at the same time")

def addWords (data : String) (r : Request) : SettingsAct Unit := do
  if !r.words.isTrue then return
  if ← hasSetting "user_words_suffix" then throw (alreadySet "words")
  SettingsAct.lift do
    putText (data ++ "/" ++ r.language.display ++ ".user-words")
      (joinText "\n" (← Act.ofExcept (linesOf r.words)))
  putSetting "user_words_suffix" "user-words"

def addPatterns (data : String) (r : Request) : SettingsAct Unit := do
  if !r.patterns.isTrue then return
  if ← hasSetting "user_patterns_suffix" then throw (alreadySet "patterns")
  if ← SettingsAct.lift (isOlderThan "3.03") then
    let v ← SettingsAct.lift version
    throw (.failure .runtime ("tesseract version >=3.03 is required for user_patterns.  version " ++
      (v.map Version.text).getD "None" ++ " is currently installed"))
  SettingsAct.lift do
    putText (data ++ "/" ++ r.language.display ++ ".user-patterns")
      (joinText "\n" (← Act.ofExcept (linesOf r.patterns)))
  putSetting "user_patterns_suffix" "user-patterns"

def settingLine (value : Json) : String :=
  key ++ " " ++ (match value with
    | .bool b => if b then "T" else "F"
    | v => v.display) ++ "\n"

def readOutput (dir : String) : Act String := do
  match ← directoryNames dir with
  | [] => failBelow .index
  | name :: _ => fileText (Path.join dir name)

def readIn (dir : String) (picture : Image) (r : Request) : SettingsAct String := do
  let out := dir ++ "/output"
  SettingsAct.lift (do makeDirectory out)
  let mode ← SettingsAct.lift (Act.ofExcept (modeNumber r.mode))
  let data := dir ++ "/tessdata"
  let special := (← get).isTrue || r.words.isTrue || r.patterns.isTrue
  if special then
    SettingsAct.lift do
      makeDirectory data
      linkDirectory (← dataDirectory) dir
  addWords data r
  addPatterns data r
  let settings ← get
  if settings.isTrue then
    SettingsAct.lift do
      let file := data ++ "/configs/stbtester"
      putText file ""
      let entries ← Act.ofExcept (entryLines settings)
      putText file (String.join (entries.map fun (k, v) => settingLine k v))
  let input := dir ++ "/input.png"
  let arguments : List Json :=
    [.text "tesseract", .text "-l", r.language, .text input, .text (out ++ "/output"), .text "-psm",
      .text (toString mode)] ++ (if settings.isTrue then [.text "stbtester"] else [])
  SettingsAct.lift do
    modifyBench fun b =>
      { b with written := b.written ++ [(input, [picture.height * 3, picture.width * 3, 3])] }
    let _ ← Programs.output arguments
    readOutput out

/-- Has a picture read. The directory that this takes is removed in the end. -/
def readPicture (picture : Image) (r : Request) (settings : Settings) :
    Act (Except Fault String × Settings) := do
  let dir ← temporaryDirectory "stbt-ocr-" ((← lookupVariable "XDG_RUNTIME_DIR").filter (!·.isEmpty))
  let outcome ← (readIn dir picture r).run settings
  removeTree dir
  return outcome

def readRegion (frame : Image) (region : Option Region) (r : Request) (settings : Settings) :
    Act (Except Fault (String × Option Region) × Settings) := do
  let own ← Act.ofExcept (frame.region.mapError fun e => .failure .value e.message)
  match Region.intersect (some own) region with
  | none =>
    Log.warn ("Requested OCR in region " ++ regionText region ++
      " which doesn't overlap with the frame " ++ own.text)
    return (.ok ("", none), settings)
  | some part =>
    let picture ← Act.ofExcept (frame.crop (some part))
    let (outcome, settings) ← readPicture picture r settings
    return (outcome.map (·, some part), settings)

end SetTop.Ocr
