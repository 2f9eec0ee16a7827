import SetTop.Logging
import SetTop.Matching.Confirm
import SetTop.Matching.Result
import SetTop.Matching.Search
import SetTop.Pictures

/-!
Searching a frame for a template.

A `MatchRun` delivers results one at a time: those that match, and then one that does
not. Messages and saved pictures follow the search step by step; the search itself is
in `Search.firstPass`, `Hunt.next` and `confirmMatch`.
-/

namespace SetTop

/-- A template with the name it was asked for under and the file it came from. -/
structure Template where
  image : Image
  name : Option String := none
  file : Option String := none

namespace Template

def friendlyName (t : Template) : String := t.file.getD "<Custom Image>"

def label (t : Template) : String := "match(" ++ quote (Path.baseName t.friendlyName) ++ ")"

end Template

inductive TemplateSource
  | picture (i : Image)
  | file (name : String)
  | loaded (t : Template)
  | other

def loadTemplate (source : TemplateSource) : Act Template := do
  match source with
  | .loaded t => return t
  | .picture i => return { image := i }
  | .other => failBelow .type
  | .file name =>
    match ← findPicture name with
    | none => fail .uiTest s!"No such template file: {name}"
    | some path =>
      if !(← isFile path) then fail .uiTest s!"No such template file: {name}"
      match ← loadColour path with
      | none => fail .uiTest s!"Failed to load template file: {path}"
      | some image => return { image := image, name := some name, file := some path }

namespace MatchRun

def matchedColour : Log.Colour := [32, 0, 255]

def unmatchedColour : Log.Colour := [32, 255, 255]

/-- Marks regions of interest on a copy of the picture, each with room for the template. -/
def drawRegions (s : LevelStart) : Act Unit :=
  s.rois.forM fun r =>
    let right := min (s.image.width - 1 : Int) (r.x + r.w + s.template.width - 1)
    let bottom := min (s.image.height - 1 : Int) (r.y + r.h + s.template.height - 1)
    draw (.rectangle (.int (max 0 r.x), .int (max 0 r.y)) (.int right, .int bottom)
      [0, 255, 255] 1)

variable (album : Option Nat)

def logStart (s : LevelStart) (count : Nat) : Act Unit := do
  let save (name : String) (i : Image) : Act Unit :=
    Log.savePlain album s!"level{s.level}-{name}" i
  Log.detail (s!"Level {s.level}: image " ++ Image.shapeText s.image.shape ++ ", template " ++
    Image.shapeText s.template.shape)
  if (← Log.level).gt 1 then
    drawRegions s
    save "source_with_rois" s.image
  (s.rois.take count).forM fun roi => Log.detail (s!"Level {s.level}: Searching in " ++ roi.text)

def logBest (level : Nat) (b : Heatmap.Best) : Act Unit :=
  Log.detail (s!"Level {level}: " ++ (if b.matched then "Matched" else "Didn't match") ++ " at " ++
    b.position.text ++ " with certainty " ++ b.certainty.text)

def saveLevel (s : LevelStart) (m : Heatmap) : Act Unit := do
  Log.savePlain album s!"level{s.level}-source" s.image
  Log.savePlain album s!"level{s.level}-template" s.template
  Log.savePlain album s!"level{s.level}-source_matchtemplate" m.toGrey

def logReport (r : LevelReport) : Act Unit := do
  logStart album r.toLevelStart r.rois.length
  saveLevel album r.toLevelStart r.heatmap
  logBest r.level r.best
  Log.modifyAlbum album fun a =>
    { a with levels := a.levels ++ [(r.best.matched, r.best.position, r.level)] }
  if r.best.matched then
    Log.savePlain album s!"level{r.level}-source_matchtemplate_threshold" r.mask

def logFirstPass (p : Search.FirstPass) : Act Unit := do
  p.reports.forM (logReport album)
  match p.broken with
  | none => pure ()
  | some b =>
    logStart album b.start (b.done + 1)
    match b.heatmap with
    | some m => saveLevel album b.start m
    | none => pure ()
    throw b.fault

def checkSizes (image template : Image) : Except Fault Unit := do
  if image.height < template.height || image.width < template.width then
    throw (.failure .value "Source image must be larger than template image")
  if template.height < 1 || template.width < 1 then
    throw (.failure .value "Template image must contain some data")
  if template.channels ≠ some 3 then
    throw (.failure .value "Template image must be 3 channel BGR")
  if template.element ≠ .byte then
    throw (.failure .value "Template image must be 8-bits per channel")

def levelCount : Act Nat := do
  match ← Config.get Config.asInt "match" "pyramid_levels" with
  | .int n =>
    if n ≤ 0 then fail .configuration "'match.pyramid_levels' must be > 0"
    return n.toNat
  | _ => return 1

def openHunt (image template : Image) (p : MatchParameters) : Act Hunt := do
  Act.ofExcept (checkSizes image template)
  Log.savePlain album "source" image
  Log.savePlain album "template" template
  Log.detail ("Original image " ++ Image.shapeText image.shape ++ ", template " ++
    Image.shapeText template.shape)
  match MatchMethod.ofName? p.matchMethod with
  | none => failBelow .key p.matchMethod
  | some method =>
    let count ← levelCount
    let pass := Search.firstPass method p.thresholdAt count image template
    logFirstPass album pass
    match pass.reports.getLast? with
    | some report => return Hunt.ofReport method template report
    | none => failBelow .runtime

def confirm (n : Nat) (image : Image) (c : Candidate) (template : Image)
    (p : MatchParameters) : Act Bool := do
  let (pictures, outcome) := Confirm.trace image c.region template p
  pictures.forM fun (name, i) => Log.savePlain album s!"match{n}-{name}" i
  Act.ofExcept outcome

end MatchRun

structure MatchRun where
  album : Option Nat
  frame : Frame
  origin : Region
  image : Image
  template : Template
  params : MatchParameters
  hunt : Hunt
  index : Nat

namespace MatchRun

/-- Marks in the album where each level looked best and what was found. Without both, nothing is
marked. -/
def closeAlbum (album : Option Nat) : Act Unit := do
  match ← Log.album? album with
  | none => pure ()
  | some a =>
    if a.levels.isEmpty then return
    a.levels.forM fun (matched, position, level) => do
      match a.images.lookup s!"level{level}-template", a.images.lookup s!"level{level}-source" with
      | some template, some source =>
        let r : Region := ⟨position.x, position.y, .int (position.x + template.width),
          .int (position.y + template.height)⟩
        Log.save album s!"level{level}-source_with_match" source
          (some (r, if matched then matchedColour else unmatchedColour))
      | _, _ => pure ()
    if a.findings.isEmpty then return
    a.findings.zipIdx.forM fun ((region, likely), n) => do
      match a.images.lookup "source" with
      | some source =>
        Log.save album s!"match{n}-source_with_match" source
          (some (region, if likely then matchedColour else unmatchedColour))
      | none => pure ()
    Log.warn ("Not generating html view of the image-processing debug images," ++
      " because python 'jinja2' module is not installed.")

def finish (album : Option Nat) : Act Unit := do
  match ← Act.attempt (closeAlbum album) with
  | .ok () => pure ()
  | .error e => if e.isOrdinary then pure () else throw e

def guarded {α : Type} (album : Option Nat) (a : Act α) : Act α := do
  match ← Act.attempt a with
  | .ok v => return v
  | .error e =>
    finish album
    throw e

def start (template : Template) (frame : Frame) (params : MatchParameters) (region : Option Region) :
    Act MatchRun := do
  let album ← Log.openAlbum "match"
  let own ← Act.ofExcept (frame.image.region.mapError fun e => .failure .value e.message)
  let part := Region.intersect (some own) region
  guarded album do
    let image ← Act.ofExcept (frame.image.crop part)
    let h ← openHunt album image template.image params
    return ⟨album, frame, part.getD own, image, template, params, h, 0⟩

/-- The result that the candidate comes to, and the rest of the search unless this was the last
one. `announce` is told of it first. -/
def deliver (r : MatchRun) (announce : MatchResult → Act Unit) (confirmed : Bool) :
    Act (MatchResult × Option MatchRun) := do
  let c := r.hunt.candidate
  let region ← Act.ofExcept
    ((c.region.translate r.origin.x r.origin.y).mapError fun e => .failure .value e.message)
  let name := r.template.name.filter (!·.isEmpty)
  let result : MatchResult :=
    ⟨r.frame.time, confirmed, region, c.certainty, r.frame.image, name, c.matched⟩
  Log.modifyAlbum r.album fun a => { a with findings := a.findings ++ [(region, c.matched)] }
  announce result
  return (result, if confirmed then some r else none)

def step (r : MatchRun) (announce : MatchResult → Act Unit) : Act (MatchResult × Option MatchRun) :=
  guarded r.album do
    let c := r.hunt.candidate
    Log.savePlain r.album s!"match{r.index}-heatmap" r.hunt.heatmap.toGrey
    if c.matched then
      r.deliver announce (← confirm r.album r.index r.image c r.template.image r.params)
    else r.deliver announce false

def advance (r : MatchRun) : Act MatchRun := do
  let h := r.hunt.next
  logBest h.level h.best
  return { r with hunt := h, index := r.index + 1 }

end MatchRun

/-! ### Searching -/

def matchFrame (template : Template) (frame : Frame) (params : MatchParameters)
    (region : Option Region) (announce : MatchResult → Act Unit) : Act MatchResult := do
  let run ← MatchRun.start template frame params region
  let (result, _) ← run.step announce
  MatchRun.finish run.album
  if result.matched then Log.debug ("Match found: " ++ result.text)
  else Log.debug ("No match found. Closest match: " ++ result.text)
  return result

def nextMatch (announce : MatchResult → Act Unit) (first : Bool) (run : MatchRun) :
    Act (Option (MatchResult × Option MatchRun)) := do
  let (result, rest) ← run.step announce
  if result.matched then
    Log.debug ("Match found: " ++ result.text)
    return some (result, rest)
  if first then Log.debug ("No match found. Closest match: " ++ result.text)
  return none

/-- Collects results that match, at most `limit` of them. A failure ends the list. -/
def collectMatches (announce : MatchResult → Act Unit) :
    Nat → MatchRun → List MatchResult → Act (List MatchResult × Option Fault)
  | 0, _, found => return (found.reverse, none)
  | limit + 1, run, found => do
    match ← Act.attempt (nextMatch announce found.isEmpty run) with
    | .error e => return (found.reverse, some e)
    | .ok none => return (found.reverse, none)
    | .ok (some (result, none)) => return ((result :: found).reverse, none)
    | .ok (some (result, some run)) =>
      if limit = 0 then return ((result :: found).reverse, none)
      match ← Act.attempt (MatchRun.guarded run.album run.advance) with
      | .error e => return ((result :: found).reverse, some e)
      | .ok run => collectMatches announce limit run (result :: found)

/-- All matches of a template in a frame, at most `limit` of them. A failure ends the list. -/
def matchFrameAll (template : Template) (frame : Frame) (params : MatchParameters)
    (region : Option Region) (limit : Nat) (announce : MatchResult → Act Unit) :
    Act (List MatchResult × Option Fault) := do
  let run ← MatchRun.start template frame params region
  let (found, e) ← collectMatches announce limit run []
  if e.isNone then MatchRun.finish run.album
  return (found, e)

end SetTop
