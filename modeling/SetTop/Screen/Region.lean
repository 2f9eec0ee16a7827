import SetTop.Number.Basic
import SetTop.Sorting

/-!
Rectangles on the screen.

A region includes its left and top edges and excludes its right and bottom edges. Any edge may be
infinite. `make` is the one place where a rectangle is checked to be non-empty; every operation that
moves an edge goes through it.

An edge may also fail to move since a large integer cannot be added to a double.

The empty intersection is `none`, and `none` is accepted wherever a region may be missing:
`intersect` treats it as the empty set, `boundingBox` as a region that adds nothing.
-/

namespace SetTop

structure Point (α : Type) where
  x : α
  y : α
deriving DecidableEq

abbrev Position := Point Int

def Point.text (p : Position) : String := s!"Position(x={p.x}, y={p.y})"

/-- A rectangle: the points with `x ≤ px < right` and `y ≤ py < bottom`. -/
structure Region where
  x : Num
  y : Num
  right : Num
  bottom : Num

namespace Region

inductive Error
  /-- both or neither of width and right edge were given -/
  | widthOrRight
  /-- both or neither of height and bottom edge were given -/
  | heightOrBottom
  | emptyWidth
  | emptyHeight
  /-- an edge is too large an integer to be moved by a double -/
  | tooLarge
  /-- left edge, width and right edge were all given as replacements -/
  | conflictX (x width right : Num)
  /-- top edge, height and bottom edge were all given as replacements -/
  | conflictY (y height bottom : Num)

def conflictText (start size stop : String) (a b c : Num) : String :=
  "Region.replace: Argument conflict: you may only specify two of " ++ start ++ ", " ++ size ++
    " and " ++ stop ++ ".  You specified " ++ start ++ "=" ++ a.text ++ ", " ++ size ++ "=" ++
    b.text ++ " and " ++ stop ++ "=" ++ c.text

def Error.message : Error → String
  | .widthOrRight => "You must specify either 'width' or 'right'"
  | .heightOrBottom => "You must specify either 'height' or 'bottom'"
  | .emptyWidth => "'right' must be greater than 'x'"
  | .emptyHeight => "'bottom' must be greater than 'y'"
  | .tooLarge => "int too large to convert to float"
  | .conflictX a b c => conflictText "x" "width" "right" a b c
  | .conflictY a b c => conflictText "y" "height" "bottom" a b c

def moved (edge amount : Num) : Except Error Num :=
  match edge.add? amount with
  | some n => .ok n
  | none => .error .tooLarge

def movedBack (edge amount : Num) : Except Error Num :=
  match edge.sub? amount with
  | some n => .ok n
  | none => .error .tooLarge

def ofEdges (x y right bottom : Num) : Except Error Region :=
  if right.le x then .error .emptyWidth
  else if bottom.le y then .error .emptyHeight
  else .ok ⟨x, y, right, bottom⟩

/-- The rectangle with the given corner, in which each opposite edge is given by itself or by the
extent. -/
def make (x y : Num) (width height right bottom : Option Num) : Except Error Region :=
  match width, right with
  | none, none => .error .widthOrRight
  | some _, some _ => .error .widthOrRight
  | _, _ =>
    match height, bottom with
    | none, none => .error .heightOrBottom
    | some _, some _ => .error .heightOrBottom
    | _, _ => do
      let r ← stop x width right
      let b ← stop y height bottom
      ofEdges x y r b
where
  stop (start : Num) (extent edge : Option Num) : Except Error Num :=
    match edge, extent with
    | some e, _ => .ok e
    | none, some n => moved start n
    | none, none => .ok start

def all : Region := ⟨.negInf, .negInf, .posInf, .posInf⟩

def ofSize (width height : Nat) : Region := ⟨0, 0, width, height⟩

variable (r : Region)

def width : Except Error Num := movedBack r.right r.x

def height : Except Error Num := movedBack r.bottom r.y

def eq (a b : Region) : Bool :=
  a.x.eq b.x && a.y.eq b.y && a.right.eq b.right && a.bottom.eq b.bottom

instance : BEq Region := ⟨eq⟩

def text (r : Region) : String :=
  if r.eq all then "Region.ALL"
  else "Region(x=" ++ r.x.text ++ ", y=" ++ r.y.text ++ ", right=" ++ r.right.text ++
    ", bottom=" ++ r.bottom.text ++ ")"

def intersect : Option Region → Option Region → Option Region
  | some a, some b =>
    let x := a.x.max b.x
    let y := a.y.max b.y
    let right := a.right.min b.right
    let bottom := a.bottom.min b.bottom
    if x.lt right && y.lt bottom then some ⟨x, y, right, bottom⟩ else none
  | _, _ => none

def contains (r other : Region) : Bool :=
  r.x.le other.x && r.y.le other.y && r.right.ge other.right && r.bottom.ge other.bottom

def boundingBox : Option Region → Option Region → Except Error (Option Region)
  | none, b => .ok b
  | a, none => .ok a
  | some a, some b =>
    (ofEdges (a.x.min b.x) (a.y.min b.y) (a.right.max b.right) (a.bottom.max b.bottom)).map some

def extend (x y right bottom : Num) : Except Error Region := do
  ofEdges (← moved r.x x) (← moved r.y y) (← moved r.right right) (← moved r.bottom bottom)

def translate (x y : Num) : Except Error Region := r.extend x y x y

def replaceAxis (conflict : Num → Num → Num → Error) (start size stop : Option Num)
    (oldStart oldStop : Num) : Except Error (Num × Num) := do
  let _ ← movedBack oldStop oldStart
  match start, size, stop with
  | some s, some w, some e => throw (conflict s w e)
  | none, some w, some e => return (← movedBack e w, e)
  | s, _, some e => return (s.getD oldStart, e)
  | s, some w, none => return (s.getD oldStart, ← moved (s.getD oldStart) w)
  | s, none, none => return (s.getD oldStart, oldStop)

structure Replacement where
  x : Option Num := none
  y : Option Num := none
  width : Option Num := none
  height : Option Num := none
  right : Option Num := none
  bottom : Option Num := none

/-- Sets some of the edges to absolute coordinates. The extent of the region has to be defined. -/
def replace (n : Replacement) : Except Error Region := do
  let (x, right) ← replaceAxis .conflictX n.x n.width n.right r.x r.right
  let (y, bottom) ← replaceAxis .conflictY n.y n.height n.bottom r.y r.bottom
  ofEdges x y right bottom

def above (height : Num) : Except Error Region := do
  r.replace { y := some (← movedBack r.y height), bottom := some r.y }

def below (height : Num) : Except Error Region := do
  r.replace { y := some r.bottom, bottom := some (← moved r.bottom height) }

def rightOf (width : Num) : Except Error Region := do
  r.replace { x := some r.right, right := some (← moved r.right width) }

def leftOf (width : Num) : Except Error Region := do
  r.replace { x := some (← movedBack r.x width), right := some r.x }

def lt (a b : Region) : Bool :=
  go [(a.x, b.x), (a.y, b.y), (a.right, b.right), (a.bottom, b.bottom)]
where
  go : List (Num × Num) → Bool
    | [] => false
    | (p, q) :: rest => if p.eq q then go rest else p.lt q

def sort (rs : List Region) : List Region := sortBy lt rs

end Region

end SetTop

/-!
Rectangles of picture elements given by corner and extent.

The positions at which a template of a given size can lie inside an area are the area shrunk by one
less than that size; expanding is the inverse. The same operations exist on boxes with any numbers
for coordinates.
-/

namespace SetTop

structure Extent (α : Type) where
  h : α
  w : α
deriving DecidableEq

structure Box (α : Type) where
  x : α
  y : α
  w : α
  h : α
deriving DecidableEq

abbrev Size := Extent Int

abbrev Rect := Box Int

namespace Box

variable {α : Type} [Add α] [Sub α] (r : Box α)

def expand (s : Extent α) : Box α := { r with w := r.w + s.w, h := r.h + s.h }

def shrink (s : Extent α) : Box α := { r with w := r.w - s.w, h := r.h - s.h }

def shift (p : Point α) : Box α := { r with x := r.x + p.x, y := r.y + p.y }

def slice : (α × α) × (α × α) :=
  ((r.y, r.y + r.h), (r.x, r.x + r.w))

end Box

def Box.text (r : Rect) : String :=
  s!"_Rect(x={r.x}, y={r.y}, w={r.w}, h={r.h})"

/-- The position at full scale of a position found after `levels` halvings. -/
def Point.upsample (p : Position) (levels : Nat) : Position :=
  ⟨p.x * Nat.pow 2 levels, p.y * Nat.pow 2 levels⟩

/-- The point with the coordinates of `p` times a number, unless they get too large. -/
def Point.scale? (p : Point Num) (factor : Num) : Option (Point Num) := do
  return ⟨← p.x.mul? factor, ← p.y.mul? factor⟩

end SetTop
