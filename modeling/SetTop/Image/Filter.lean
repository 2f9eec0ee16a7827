import SetTop.Image.Basic
import SetTop.Number.Checked

/-!
Operations on grey pictures.

Grey is a weighted sum of blue, green and red. Erosion takes the smallest value of a
place and its four neighbours, where what lies outside is white; it is repeated for
as many passes as asked for. Normalising stretches the values over the whole range,
rounding halves to the even neighbour.
-/

namespace SetTop.Image

def misfit : Fault := .foreign .picture ""

def greyValue (blue green red : Nat) : Nat :=
  (blue * 1868 + green * 9617 + red * 4899 + 8192) / 16384

variable (i : Image)

def grey : Except Fault Image :=
  if i.channels = some 3 then
    .ok (generateGrey i.height i.width fun y x =>
      greyValue (i.value y x 0) (i.value y x 1) (i.value y x 2))
  else .error misfit

def inColour : Image :=
  match i.channels with
  | some _ => i
  | none => generate i.height i.width (some 3) fun y x _ => i.value y x 0

def distance (a b : Nat) : Nat := (a - b) + (b - a)

def combine (f : Nat → Nat → Nat) (a b : Image) : Except Fault Image :=
  if a.shape = b.shape then
    .ok { a with values := a.values.zipWith f b.values }
  else .error misfit

def absoluteDifference : Image → Image → Except Fault Image := combine distance

def both : Image → Image → Except Fault Image := combine Nat.land

def byteShare (share : Num) : Except Fault Int := do (← share.times (.int 255)).whole

def threshold (limit : Int) (i : Image) : Image :=
  i.map fun v => if (v : Int) > limit then 255 else 0

def valueOrWhite (y x : Int) : Nat :=
  if 0 ≤ y ∧ y < i.height ∧ 0 ≤ x ∧ x < i.width then i.value y.toNat x.toNat 0 else 255

def erodedValue (y x : Nat) : Nat :=
  let around := [i.valueOrWhite y x, i.valueOrWhite (y - 1 : Int) x, i.valueOrWhite (y + 1 : Int) x,
    i.valueOrWhite y (x - 1 : Int), i.valueOrWhite y (x + 1 : Int)]
  around.foldl Nat.min 255

def erodeOnce : Image :=
  generateGrey i.height i.width i.erodedValue

def erode : Nat → Image → Image
  | 0, i => i
  | n + 1, i => erode n i.erodeOnce

def hasInk : Bool := i.values.any (· != 0)

def extremes : Nat × Nat :=
  match i.values[0]? with
  | none => (0, 0)
  | some first => i.values.foldl (fun (lo, hi) v => (Nat.min lo v, Nat.max hi v)) (first, first)

def roundFloat (x : Float) : Int :=
  let down := x.floor
  let rest := x - down
  let n : Int := if down < 0 then -((-down).toUInt64.toNat : Int) else down.toUInt64.toNat
  if rest < 0.5 then n
  else if rest > 0.5 then n + 1
  else if n % 2 = 0 then n else n + 1

def clampByte (n : Int) : Nat := if n < 0 then 0 else if n > 255 then 255 else n.toNat

/-- Stretches the values over the whole range of a byte. There must be some. -/
def normalize : Except Fault Image :=
  if i.values.isEmpty then .error (.foreign .value "the picture is empty") else
  let (lo, hi) := i.extremes
  let low := Float.ofNat lo
  let scale := if lo = hi then 0.0 else 255.0 * (1.0 / (Float.ofNat hi - low))
  let shift := 0.0 - low * scale
  .ok (i.map fun v => clampByte (roundFloat (Float.ofNat v * scale + shift)))

def maximum (mask : Option Image) : Nat :=
  match mask with
  | none => i.values.foldl Nat.max 0
  | some m => (i.values.zip m.values).foldl (fun acc (v, on) => if on = 0 then acc else Nat.max acc v) 0

end SetTop.Image

/-!
Pyramids: a picture, the same at half the size, at a quarter, and so on.

Halving blurs with the kernel 1, 4, 6, 4, 1 in both directions and keeps every second
place; borders are reflected without repeating the edge. Doubling puts the halves in
between. Every extent `n` becomes `(n + 1) / 2` when halved.
-/

namespace SetTop.Image

/-- The index inside `0, …, n - 1` that stands for `k`, which may lie up to two places outside. -/
def reflect (n : Nat) (k : Int) : Nat :=
  if n ≤ 1 then 0
  else
    let k := if k < 0 then -k else k
    let k := if k ≥ n then 2 * ((n : Int) - 1) - k else k
    let k := if k < 0 then -k else k
    Nat.min k.toNat (n - 1)

def blurWeights : List (Int × Nat) := [(-2, 1), (-1, 4), (0, 6), (1, 4), (2, 1)]

variable (i : Image)

def halvedValue (y x k : Nat) : Nat :=
  let rows := blurWeights.map fun (d, w) => (reflect i.height (2 * y + d), w)
  let columns := blurWeights.map fun (d, w) => (reflect i.width (2 * x + d), w)
  let total := rows.foldl (fun acc (r, v) =>
    acc + v * columns.foldl (fun acc (c, w) => acc + w * i.value r c k) 0) 0
  (total + 128) / 256

def halve : Image :=
  generate ((i.height + 1) / 2) ((i.width + 1) / 2) i.channels i.halvedValue

/-- The weighted places of a row or column of extent `n` that make up place `k` of the doubled one. -/
def doubleWeights (n k : Nat) : List (Nat × Nat) :=
  let i := k / 2
  let next := if i + 1 < n then i + 1 else n - 1
  if k % 2 = 0 then
    let last := if i = 0 then (if n ≤ 1 then 0 else 1) else i - 1
    [(last, 1), (i, 6), (next, 1)]
  else [(i, 4), (next, 4)]

def double : Image :=
  generate (2 * i.height) (2 * i.width) i.channels fun y x k =>
    let total := (doubleWeights i.height y).foldl (fun acc (r, v) =>
      acc + v * (doubleWeights i.width x).foldl (fun acc (c, w) => acc + w * i.value r c k) 0) 0
    Nat.min ((total + 32) / 64) 255

def isHalvable : Bool := !(i.height < 20 || i.width < 20)

/-- The picture followed by ever smaller versions of it. One that is too small is not halved
further. -/
def pyramid : Nat → Image → List Image
  | 0, i => [i]
  | 1, i => [i]
  | levels + 2, i => if i.isHalvable then i :: pyramid (levels + 1) i.halve else [i]

/-!
### Connected areas

Two places are connected when they touch, corners included, and neither is zero. The
outermost rows and columns count as zero. Areas are listed in the order in which
their first places are met row by row, each by the smallest rectangle around it.
-/

def isInk (y x : Nat) : Bool :=
  0 < y && y + 1 < i.height && 0 < x && x + 1 < i.width && i.value y x 0 != 0

def neighbours (y x : Nat) : List (Nat × Nat) :=
  [(y - 1, x - 1), (y - 1, x), (y - 1, x + 1), (y, x - 1), (y, x + 1),
   (y + 1, x - 1), (y + 1, x), (y + 1, x + 1)]

def spread (i : Image) : Nat → List (Nat × Nat) → Array Bool → Nat × Nat × Nat × Nat →
    Array Bool × (Nat × Nat × Nat × Nat)
  | 0, _, seen, box => (seen, box)
  | _, [], seen, box => (seen, box)
  | fuel + 1, (y, x) :: rest, seen, (x0, y0, x1, y1) =>
    let new := (neighbours y x).filter fun (v, u) =>
      i.isInk v u && (seen[v * i.width + u]?) == some false
    let seen := new.foldl (fun seen (v, u) => seen.setIfInBounds (v * i.width + u) true) seen
    i.spread fuel (new ++ rest) seen (Nat.min x0 x, Nat.min y0 y, Nat.max x1 x, Nat.max y1 y)

def contours : List Rect :=
  let places := (List.range i.height).flatMap fun y => (List.range i.width).map fun x => (y, x)
  let start : Array Bool × List Rect := (Array.replicate (i.height * i.width) false, [])
  let (_, found) := places.foldl (fun (seen, found) (y, x) =>
    if i.isInk y x && (seen[y * i.width + x]?) == some false then
      let seen := seen.setIfInBounds (y * i.width + x) true
      let (seen, (x0, y0, x1, y1)) :=
        i.spread (i.height * i.width + 1) [(y, x)] seen (x, y, x, y)
      (seen, ⟨x0, y0, (x1 - x0 + 1 : Nat), (y1 - y0 + 1 : Nat)⟩ :: found)
    else (seen, found)) start
  found.reverse

end SetTop.Image
