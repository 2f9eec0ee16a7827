import SetTop.Screen.Region

/-!
Regions whose left or top edge may be left open.

An open edge lies before every other edge. It can be compared, so regions with open edges can
be joined and intersected, but it cannot be moved: no extent is counted from it.
-/

namespace SetTop

structure OpenRegion where
  x : Option Num
  y : Option Num
  right : Num
  bottom : Num

namespace OpenRegion

def edgeLe : Option Num → Option Num → Bool
  | none, _ => true
  | some _, none => false
  | some a, some b => a.le b

def edgeEq : Option Num → Option Num → Bool
  | none, none => true
  | some a, some b => a.eq b
  | _, _ => false

def edgeMin : Option Num → Option Num → Option Num
  | some a, some b => some (a.min b)
  | _, _ => none

def edgeMax : Option Num → Option Num → Option Num
  | some a, some b => some (a.max b)
  | none, b => b
  | a, none => a

def isEmptyAxis (start : Option Num) (stop : Num) : Bool := edgeLe (some stop) start

def edgeText : Option Num → String
  | none => "None"
  | some n => n.text

def ofRegion (r : Region) : OpenRegion := ⟨some r.x, some r.y, r.right, r.bottom⟩

def closed? (r : OpenRegion) : Option Region :=
  match r.x, r.y with
  | some x, some y => some ⟨x, y, r.right, r.bottom⟩
  | _, _ => none

def ofEdges (x y : Option Num) (right bottom : Num) : Except Region.Error OpenRegion :=
  if isEmptyAxis x right then .error .emptyWidth
  else if isEmptyAxis y bottom then .error .emptyHeight
  else .ok ⟨x, y, right, bottom⟩

def text (r : OpenRegion) : String :=
  match r.closed? with
  | some r => r.text
  | none => "Region(x=" ++ edgeText r.x ++ ", y=" ++ edgeText r.y ++ ", right=" ++ r.right.text ++
      ", bottom=" ++ r.bottom.text ++ ")"

def eq (a b : OpenRegion) : Bool :=
  edgeEq a.x b.x && edgeEq a.y b.y && a.right.eq b.right && a.bottom.eq b.bottom

def contains (r other : OpenRegion) : Bool :=
  edgeLe r.x other.x && edgeLe r.y other.y && r.right.ge other.right && r.bottom.ge other.bottom

def intersect (a b : OpenRegion) : Option OpenRegion :=
  let x := edgeMax a.x b.x
  let y := edgeMax a.y b.y
  let right := a.right.min b.right
  let bottom := a.bottom.min b.bottom
  let isBefore (start : Option Num) (stop : Num) : Bool := (start.map (·.lt stop)).getD true
  if isBefore x right && isBefore y bottom then some ⟨x, y, right, bottom⟩ else none

def boundingBox (a b : OpenRegion) : Except Region.Error OpenRegion :=
  ofEdges (edgeMin a.x b.x) (edgeMin a.y b.y) (a.right.max b.right) (a.bottom.max b.bottom)

end OpenRegion

end SetTop
