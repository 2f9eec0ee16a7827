import SetTop.Image.Filter
import SetTop.Number.Single

/-!
How well a template fits at every position.

A heatmap has one value for each position at which the template lies inside the picture. For squared
differences small values are good, for the two correlations large ones. The value at a position
depends on the template and on the window of the picture there (`windowScore`); `searchOne` fills in
the positions that lie in a region of interest.
-/

namespace SetTop

open Number

inductive MatchMethod
  | squaredDifference
  | correlation
  | coefficient
deriving DecidableEq

namespace MatchMethod

def ofName? : String → Option MatchMethod
  | "sqdiff-normed" => some .squaredDifference
  | "ccorr-normed" => some .correlation
  | "ccoeff-normed" => some .coefficient
  | _ => none

def worst : MatchMethod → Float
  | .squaredDifference => 1.0
  | _ => 0.0

def hidden : MatchMethod → Float
  | .squaredDifference => 255.0
  | _ => 0.0

end MatchMethod

structure Heatmap where
  height : Nat
  width : Nat
  values : Array Float

namespace Heatmap

variable (m : Heatmap)

def value (y x : Nat) : Float := (m.values[y * m.width + x]?).getD 0.0

def generate (height width : Nat) (f : Nat → Nat → Float) : Heatmap :=
  ⟨height, width, (Array.range (height * width)).map fun n => f (n / width) (n % width)⟩

/-! ### Scores -/

structure WindowSums where
  cross : Nat
  squares : Nat
  channels : List Nat

def windowSums (image template : Image) (y x : Nat) : WindowSums :=
  let depth := template.depth
  let row := template.width * depth
  let start := (y * image.width + x) * depth
  let (cross, squares) := (List.range template.height).foldl (fun acc r =>
    (List.range row).foldl (fun (cross, squares) c =>
      let v := (image.values[start + r * image.width * depth + c]?).getD 0
      let t := (template.values[r * row + c]?).getD 0
      (cross + v * t, squares + v * v)) acc) (0, 0)
  let channels := (List.range depth).map fun k =>
    (List.range template.height).foldl (fun acc r =>
      (List.range template.width).foldl (fun acc c =>
        acc + (image.values[start + r * image.width * depth + c * depth + k]?).getD 0) acc) 0
  ⟨cross, squares, channels⟩

variable (method : MatchMethod)

/-- Divides by the norm; a quotient slightly beyond one counts as one. -/
def normed (num norm : Float) : Float :=
  if num.abs < norm then num / norm
  else if num.abs < norm * 1.125 then (if num > 0 then 1.0 else -1.0)
  else method.worst

def positivePart (x : Float) : Float := if x > 0.0 then x else 0.0

def score (area : Nat) (w t : WindowSums) : Float :=
  let cross := Float.ofNat w.cross
  let squares := Float.ofNat w.squares
  let own := Float.ofNat t.squares
  let n := Float.ofNat area
  let (num, squares, own) := match method with
    | .squaredDifference => (squares - 2.0 * cross + own, squares, own)
    | .correlation => (cross, squares, own)
    | .coefficient =>
      (w.channels.zip t.channels).foldl (fun (num, squares, own) (s, c) =>
        let s := Float.ofNat s
        let c := Float.ofNat c
        (num - s * c / n, squares - s * s / n, own - c * c / n)) (cross, squares, own)
  let norm := (positivePart squares).sqrt * (positivePart own).sqrt
  roundToSingle (normed method num norm)

def windowScore (image template : Image) (own : WindowSums) (y x : Nat) : Float :=
  score method (template.height * template.width) (windowSums image template y x) own

def ofImage (image template : Image) : Except Fault Heatmap :=
  if image.channels ≠ template.channels then .error Image.misfit
  else if image.height < template.height || image.width < template.width then .error Image.misfit
  else
    let own := windowSums template template 0 0
    .ok (generate (image.height - template.height + 1) (image.width - template.width + 1)
      (windowScore method image template own))

def paste (rows columns : Nat × Nat) (part : Heatmap) : Heatmap :=
  generate m.height m.width fun y x =>
    if rows.1 ≤ y && y < rows.1 + rows.2 && columns.1 ≤ x && x < columns.1 + columns.2
    then part.value (y - rows.1) (x - columns.1)
    else m.value y x

def searchOne (image template : Image) (m : Heatmap) (roi : Rect) : Except Fault Heatmap := do
  let area := (roi.expand template.size).shrink ⟨1, 1⟩
  let (imageRows, imageColumns) := area.slice
  let part ← ofImage method (image.slice imageRows imageColumns) template
  let (rows, columns) := roi.slice
  let rows := Image.interval m.height rows
  let columns := Image.interval m.width columns
  if part.height = rows.2 ∧ part.width = columns.2 then return m.paste rows columns part
  else throw Image.misfit

def blank (image template : Image) : Heatmap :=
  generate (image.height - template.height + 1) (image.width - template.width + 1)
    fun _ _ => method.worst

/-! ### Best positions -/

def extremum (precedes : Float → Float → Bool) (m : Heatmap) : Option (Nat × Float) :=
  m.values.toList.zipIdx.foldl (fun best (v, n) =>
    match best with
    | none => some (n, v)
    | some (k, b) =>
      if precedes v b || v.isNaN && !b.isNaN then some (n, v) else some (k, b)) none

def position (n : Nat) : Position := ⟨(n % m.width : Nat), (n / m.width : Nat)⟩

structure Best where
  matched : Bool
  position : Position
  certainty : Num

/-- How sure a value makes us: one for a perfect fit. -/
def certaintyOf (v : Float) : Float :=
  match method with
  | .squaredDifference => 1.0 - v
  | _ => v

def best (threshold : Num) (m : Heatmap) : Best :=
  let precedes : Float → Float → Bool := match method with
    | .squaredDifference => fun a b => a < b
    | _ => fun a b => b < a
  match m.extremum precedes with
  | none => ⟨(Num.ofFloat (certaintyOf method 0.0)).ge threshold, ⟨-1, -1⟩,
      Num.ofFloat (certaintyOf method 0.0)⟩
  | some (n, v) =>
    let certainty := Num.ofFloat (certaintyOf method v)
    ⟨certainty.ge threshold, m.position n, certainty⟩

def hide (m : Heatmap) (x0 y0 x1 y1 : Int) : Heatmap :=
  generate m.height m.width fun y x =>
    if x0 ≤ x && (x : Int) ≤ x1 && y0 ≤ y && (y : Int) ≤ y1 then method.hidden else m.value y x

/-- White where the heatmap is good enough to look closer. -/
def goodPlaces (threshold : Num) (m : Heatmap) : Image :=
  let limit : Float := roundToSingle (match method with
    | .squaredDifference => 1 - threshold
    | _ => threshold).toFloat
  let good (v : Float) : Bool := match method with
    | .squaredDifference => !(v > limit)
    | _ => v > limit
  Image.generateGrey m.height m.width fun y x => if good (m.value y x) then 255 else 0

def toGrey : Image :=
  Image.generateGrey m.height m.width fun y x =>
    Image.clampByte (Image.roundFloat (m.value y x * 255.0).abs)

end Heatmap

end SetTop
