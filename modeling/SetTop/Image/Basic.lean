import SetTop.Fault
import SetTop.Screen.Region
import SetTop.Text.Basic

/-!
Pictures.

A picture is a grid of rows and columns with one or more bytes per place. A grey picture has no
channel axis of its own (`channels = none`). Values are stored row by row, within a row place by
place, and within a place channel by channel.
-/

namespace SetTop

inductive PixelKind
  | byte
  | other (name : String)
deriving DecidableEq

structure Image where
  height : Nat
  width : Nat
  /-- the number of channels; `none` for a picture without a channel axis -/
  channels : Option Nat
  values : Array Nat
  element : PixelKind := .byte
deriving DecidableEq

namespace Image

variable (i : Image)

def depth : Nat := i.channels.getD 1

def shape : List Nat :=
  match i.channels with
  | some c => [i.height, i.width, c]
  | none => [i.height, i.width]

def size : Size := ⟨i.height, i.width⟩

def value (y x k : Nat) : Nat :=
  (i.values[(y * i.width + x) * i.depth + k]?).getD 0

def generate (height width : Nat) (channels : Option Nat) (f : Nat → Nat → Nat → Nat) : Image :=
  let depth := channels.getD 1
  let values := (Array.range (height * width * depth)).map fun n =>
    let place := n / depth
    f (place / width) (place % width) (n % depth)
  ⟨height, width, channels, values, .byte⟩

def generateGrey (height width : Nat) (f : Nat → Nat → Nat) : Image :=
  generate height width none fun y x _ => f y x

def map (i : Image) (f : Nat → Nat) : Image := { i with values := i.values.map f }

def sum : Nat := i.values.foldl (· + ·) 0

def shapeText (shape : List Nat) : String :=
  match shape with
  | [n] => s!"({n},)"
  | ns => "(" ++ joinText ", " (ns.map toString) ++ ")"

def dimensions : String :=
  match i.channels with
  | some c => s!"{i.width}x{i.height}x{c}"
  | none => s!"{i.width}x{i.height}"

/-- The rectangle that the picture covers. A picture without rows or columns covers none. -/
def region : Except Region.Error Region :=
  Region.make 0 0 (some i.width) (some i.height) none none

/-- The part of `0, …, n - 1` between two bounds. A negative bound counts from the end. -/
def interval (n : Nat) (bounds : Int × Int) : Nat × Nat :=
  let clip (b : Int) : Nat :=
    if b < 0 then (b + n).toNat else Nat.min b.toNat n
  let a := clip bounds.1
  let b := clip bounds.2
  (a, b - a)

def slice (rows columns : Int × Int) : Image :=
  let (y, h) := interval i.height rows
  let (x, w) := interval i.width columns
  { generate h w i.channels (fun r c k => i.value (y + r) (x + c) k) with element := i.element }

def edgeIndex (n : Num) : Except Fault Int :=
  match n with
  | .int n => .ok n
  | _ => .error (.foreign .type "slice indices must be integers")

def sliceRegion (r : Region) : Except Fault Image := do
  let y ← edgeIndex r.y
  let bottom ← edgeIndex r.bottom
  let x ← edgeIndex r.x
  let right ← edgeIndex r.right
  return i.slice (y, bottom) (x, right)

def crop (r : Option Region) : Except Fault Image := do
  let own ← i.region.mapError fun e => .failure .value e.message
  match r with
  | some r =>
    if own.contains r then i.sliceRegion r
    else throw (.failure .value "'frame' doesn't contain 'region'")
  | none => throw (.failure .value "'frame' doesn't contain 'region'")

def columnHasInk (x : Nat) : Bool :=
  (List.range i.height).any fun y => i.value y x 0 != 0

def rowHasInk (y : Nat) : Bool :=
  (List.range i.width).any fun x => i.value y x 0 != 0

/-- The first and the last number below `n` that satisfies `p`. -/
def firstAndLast (n : Nat) (p : Nat → Bool) : Option (Nat × Nat) :=
  let hits := (List.range n).filter p
  match hits.head?, hits.getLast? with
  | some a, some b => some (a, b)
  | _, _ => none

def inkBox : Option Region :=
  match firstAndLast i.width i.columnHasInk with
  | none => none
  | some (left, right) =>
    match firstAndLast i.height i.rowHasInk with
    | none => none
    | some (top, bottom) => some ⟨left, top, (right + 1 : Nat), (bottom + 1 : Nat)⟩

end Image

def notSingleChannel (shape : List Nat) : Fault :=
  .failure .value
    ("Single-channel image required.  Provided image has shape " ++ Image.shapeText shape)

/-- The smallest region that holds every place that is not zero, of a grey picture only. -/
def pixelBoundingBox (i : Image) : Except Fault (Option Region) :=
  match i.channels with
  | some _ => .error (notSingleChannel i.shape)
  | none => .ok i.inkBox

structure Frame where
  image : Image
  time : Option Num := none

end SetTop
