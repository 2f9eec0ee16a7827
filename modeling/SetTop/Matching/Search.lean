import SetTop.Matching.Heatmap

/-!
The first pass of a search: candidates.

The search starts at the smallest picture of a pyramid. It goes on at the next larger level around
good places; the threshold is relaxed by a fifth on all levels but the largest. A level without a good place ends the search, and its best position,
scaled up, is the closest one.

On the largest level candidates come out one after the other. After each one every position that
would overlap it is hidden.
-/

namespace SetTop

open Number

structure LevelStart where
  level : Nat
  image : Image
  template : Image
  rois : List Rect

structure LevelReport extends LevelStart where
  heatmap : Heatmap
  threshold : Num
  best : Heatmap.Best
  /-- white where the next level has to look -/
  mask : Image

namespace Search

/-- Where to look: everywhere, or around the white places of a mask. -/
def regionsOfInterest (image template : Image) (mask : Option Image) : List Rect :=
  match mask with
  | none =>
    [⟨0, 0, (image.width - template.width + 1 : Nat), (image.height - template.height + 1 : Nat)⟩]
  | some m => m.contours.map fun r => (r.shift ⟨-1, -1⟩).expand ⟨2, 2⟩

/-- The mask of one level on the scale of the next. A very small one is of no use. -/
def enlargeMask (mask : Option Image) : Option Image :=
  match mask with
  | none => none
  | some m => if m.height < 3 || m.width < 3 then none else some m.double

structure Breakdown where
  start : LevelStart
  done : Nat
  heatmap : Option Heatmap
  fault : Fault

structure FirstPass where
  reports : List LevelReport
  broken : Option Breakdown := none

/-- Searches the regions of interest in turn; tells how many it did if one of them fails. -/
def searchRegions (method : MatchMethod) (image template : Image) :
    List Rect → Nat → Heatmap → Except (Nat × Fault) Heatmap
  | [], _, m => .ok m
  | roi :: rest, done, m =>
    match Heatmap.searchOne method image template m roi with
    | .ok m => searchRegions method image template rest (done + 1) m
    | .error e => .error (done, e)

def descend (method : MatchMethod) (threshold : Nat → Except Fault Num) :
    List (Nat × Image × Image) → Option Image → FirstPass
  | [], _ => ⟨[], none⟩
  | (level, image, template) :: rest, mask =>
    let rois := regionsOfInterest image template (enlargeMask mask)
    let start : LevelStart := ⟨level, image, template, rois⟩
    match searchRegions method image template rois 0 (Heatmap.blank method image template) with
    | .error (done, e) => ⟨[], some ⟨start, done, none, e⟩⟩
    | .ok heatmap =>
      match threshold level with
      | .error e => ⟨[], some ⟨start, rois.length, some heatmap, e⟩⟩
      | .ok t =>
        let best := heatmap.best method t
        let report : LevelReport := { start with
          heatmap := heatmap, threshold := t, best := best, mask := heatmap.goodPlaces method t }
        if best.matched then
          let below := descend method threshold rest (some report.mask)
          { below with reports := report :: below.reports }
        else ⟨[report], none⟩

def levels (count : Nat) (image template : Image) : List (Nat × Image × Image) :=
  let templates := template.pyramid count
  let images := image.pyramid templates.length
  let pairs := (images.zip templates).zipIdx.map fun ((i, t), n) => (n, i, t)
  pairs.reverse

def firstPass (method : MatchMethod) (threshold : Nat → Except Fault Num) (count : Nat) (image template : Image) :
    FirstPass :=
  descend method threshold (levels count image template) none

end Search

structure Candidate where
  matched : Bool
  region : Region
  certainty : Num

structure Hunt where
  method : MatchMethod
  threshold : Num
  level : Nat
  width : Nat
  height : Nat
  heatmap : Heatmap
  best : Heatmap.Best

namespace Hunt

def ofReport (method : MatchMethod) (template : Image) (r : LevelReport) : Hunt :=
  ⟨method, r.threshold, r.level, template.width, template.height, r.heatmap, r.best⟩

def regionAt (h : Hunt) (p : Position) : Region :=
  ⟨p.x, p.y, .int (p.x + h.width), .int (p.y + h.height)⟩

def candidate (h : Hunt) : Candidate :=
  ⟨h.best.matched, h.regionAt (h.best.position.upsample h.level), h.best.certainty⟩

/-- The hunt after the candidate at hand: no position that would overlap it is left. -/
def next (h : Hunt) : Hunt :=
  let p := h.best.position.upsample h.level
  let heatmap := h.heatmap.hide h.method (p.x - (h.width - 1)) (p.y - (h.height - 1))
    (p.x + h.width - 1) (p.y + h.height - 1)
  { h with heatmap := heatmap, best := heatmap.best h.method h.threshold }

def candidates : Nat → Hunt → List Candidate
  | 0, _ => []
  | fuel + 1, h =>
    if h.best.matched then h.candidate :: candidates fuel h.next else [h.candidate]

end Hunt

end SetTop
