import SetTop.Scene.Request
import SetTop.Screen.OpenRegion

/-!
Requests about regions and boxes.

The steps of a request can use the regions that earlier steps made. An argument is a number, a
region, or nothing; a step that is given the wrong kind fails as the operation would.
-/

namespace SetTop.Scene

inductive Operand
  | nothing
  | number (n : Num)
  | region (r : Region)
  | unbounded (r : OpenRegion)
  | other (j : Json)

namespace Operand

def isNothing : Operand → Bool
  | .nothing => true
  | _ => false

def ofOption : Option Region → Operand
  | some r => .region r
  | none => .nothing

def ofOpen (r : OpenRegion) : Operand :=
  match r.closed? with
  | some r => .region r
  | none => .unbounded r

def encode : Operand → Json
  | .nothing => .null
  | .number n => encodeNum n
  | .region r => encodeRegion r
  | .unbounded r =>
    .object [("region", .list [encodeOption encodeNum r.x, encodeOption encodeNum r.y, encodeNum r.right,
      encodeNum r.bottom])]
  | .other j => j

/-- The region that an operation on regions wants. -/
def openRegion : Operand → Except Fault OpenRegion
  | .region r => .ok (.ofRegion r)
  | .unbounded r => .ok r
  | _ => failBelow .attribute

def number? : Operand → Except Fault Num
  | .number n => .ok n
  | _ => failBelow .type

def optional : Operand → Except Fault (Option Num)
  | .nothing => .ok none
  | o => some <$> o.number?

def eq : Operand → Operand → Bool
  | .nothing, .nothing => true
  | .number a, .number b => a.eq b
  | .region a, .region b => a.eq b
  | .unbounded a, .unbounded b => a.eq b
  | .other a, .other b => Json.same a b
  | _, _ => false

end Operand

def operand (done : Array (Except Fault Operand)) (j : Json) : Operand :=
  match j with
  | .null => .nothing
  | .text "ALL" => .region Region.all
  | .object [("r", i)] => match done[nat i]? with
    | some (.ok (.region r)) => .region r
    | some (.ok (.unbounded r)) => .unbounded r
    | _ => .nothing
  | j => match extended? j with
    | some n => .number n
    | none => .other j

def sides : List String := ["x", "y", "width", "height", "right", "bottom"]

def bindArguments (parameters : List String) (positional : List Operand)
    (byName : List (String × Operand)) : Except Fault (String → Option Operand) :=
  let front := parameters.zip positional
  if positional.length > parameters.length ||
      byName.any (fun (k, _) => !parameters.contains k || front.any (·.1 == k)) then
    failBelow .type
  else .ok fun key => (front ++ byName).lookup key

def made (r : Except Region.Error Region) : Except Fault Operand := (r.mapError regionFault).map .region

def makeRegion (x y width height right bottom : Operand) : Except Fault Operand := do
  if width.isNothing == right.isNothing then throw (regionFault .widthOrRight)
  if height.isNothing == bottom.isNothing then throw (regionFault .heightOrBottom)
  let right ← stop x width right
  let bottom ← stop y height bottom
  return .ofOpen (← (OpenRegion.ofEdges (← x.optional) (← y.optional) right bottom).mapError regionFault)
where
  stop (start extent edge : Operand) : Except Fault Num := do
    if edge.isNothing then (Region.moved (← start.number?) (← extent.number?)).mapError regionFault
    else edge.number?

/-- Whether a region contains what is given. Nothing, and what counts as nothing, stands for itself. -/
def containment (r : OpenRegion) : Operand → Except Fault Operand
  | .nothing => return .nothing
  | .number n => if n.isTrue then failBelow .attribute else return .number n
  | .other j => if j.isTrue then failBelow .attribute else return .other j
  | o => return .other (.bool (r.contains (← o.openRegion)))

/-- Runs a step that names a region with an open edge. No extent can be counted from such an edge. -/
def openRegionMethod (r : OpenRegion) (f : String) (a : List Operand) (k : List (String × Operand)) :
    Except Fault Operand := do
  let extent (start : Option Num) (stop : Num) : Except Fault Operand :=
    match start with
    | some n => .number <$> (Region.movedBack stop n).mapError regionFault
    | none => failBelow .type
  match f with
  | "width" => extent r.x r.right
  | "height" => extent r.y r.bottom
  | "repr" | "str" => return .other (.text r.text)
  | "contains" =>
    match (← bindArguments ["other"] a k) "other" with
    | none => failBelow .type
    | some o => containment r o
  | "replace" =>
    let given ← bindArguments sides a k
    let n (key : String) : Except Fault (Option Num) := ((given key).getD .nothing).optional
    match r.x with
    | none => failBelow .type
    | some x =>
      let _ ← (Region.replaceAxis .conflictX (← n "x") (← n "width") (← n "right") x r.right).mapError
        regionFault
      failBelow .type
  | _ =>
    throw (.foreign (if ["extend", "translate", "above", "below", "right_of", "left_of"].contains f
      then .type else .attribute) "")

def regionMethod (r : Region) (f : String) (a : List Operand) (k : List (String × Operand)) :
    Except Fault Operand := do
  let numbers (parameters : List String) (default : Num) : Except Fault (String → Except Fault Num) := do
    let given ← bindArguments parameters a k
    return fun key => ((given key).getD (.number default)).number?
  let sized (g : Num → Except Region.Error Region) (parameter : String) : Except Fault Operand := do
    let n ← numbers [parameter] .posInf
    made (g (← n parameter))
  match f with
  | "width" => .number <$> r.width.mapError regionFault
  | "height" => .number <$> r.height.mapError regionFault
  | "repr" | "str" => return .other (.text r.text)
  | "contains" =>
    match (← bindArguments ["other"] a k) "other" with
    | none => failBelow .type
    | some (.region o) => return .other (.bool (r.contains o))
    | some o => containment (.ofRegion r) o
  | "extend" =>
    let n ← numbers ["x", "y", "right", "bottom"] 0
    made (r.extend (← n "x") (← n "y") (← n "right") (← n "bottom"))
  | "replace" =>
    let given ← bindArguments sides a k
    let n (key : String) : Except Fault (Option Num) := ((given key).getD .nothing).optional
    made (r.replace ⟨← n "x", ← n "y", ← n "width", ← n "height", ← n "right", ← n "bottom"⟩)
  | "translate" =>
    let n ← numbers ["x", "y"] 0
    made (r.translate (← n "x") (← n "y"))
  | "above" => sized r.above "height"
  | "below" => sized r.below "height"
  | "right_of" => sized r.rightOf "width"
  | "left_of" => sized r.leftOf "width"
  | _ => failBelow .attribute

def sortOperands (os : List Operand) : Except Fault (List Operand) :=
  let regions := os.filterMap fun o => match o with | .region r => some r | _ => none
  let numbers := os.filterMap fun o => match o with | .number n => some n | _ => none
  if os.length ≤ 1 then .ok os
  else if regions.length = os.length then .ok ((Region.sort regions).map .region)
  else if numbers.length = os.length then .ok ((sortBy Num.lt numbers).map .number)
  else failBelow .type

def regionStep (done : Array (Except Fault Operand)) (step : Json) : Except Fault Operand := do
  let a := (items (get step "a")).map (operand done)
  let k := (fields (get step "k")).map fun (key, v) => (key, operand done v)
  let pair : Except Fault (Operand × Operand) := do
    let given ← bindArguments ["a", "b"] a k
    match given "a", given "b" with
    | some p, some q => return (p, q)
    | _, _ => failBelow .type
  match text (get step "f") with
  | "new" =>
    let given ← bindArguments sides a k
    if (given "x").isNone || (given "y").isNone then failBelow .type
    let o (key : String) : Operand := (given key).getD .nothing
    makeRegion (o "x") (o "y") (o "width") (o "height") (o "right") (o "bottom")
  | "from_extents" =>
    let given ← bindArguments ["x", "y", "right", "bottom"] a k
    match given "x", given "y", given "right", given "bottom" with
    | some x, some y, some right, some bottom => makeRegion x y .nothing .nothing right bottom
    | _, _, _, _ => failBelow .type
  | "intersect" =>
    match ← pair with
    | (.nothing, _) | (_, .nothing) => return .nothing
    | (.region p, .region q) => return .ofOption (Region.intersect (some p) (some q))
    | (p, q) =>
      return ((OpenRegion.intersect (← p.openRegion) (← q.openRegion)).map Operand.ofOpen).getD .nothing
  | "bounding_box" =>
    match ← pair with
    | (.nothing, q) => return q
    | (p, .nothing) => return p
    | (.region p, .region q) =>
      return .ofOption (← (Region.boundingBox (some p) (some q)).mapError regionFault)
    | (p, q) =>
      return .ofOpen (← (OpenRegion.boundingBox (← p.openRegion) (← q.openRegion)).mapError regionFault)
  | "eq" =>
    let same := match items (get step "a") with
      | [p, q] => Json.same p q
      | _ => false
    match ← pair with
    | (.number p, q) => return .other (.bool (Operand.eq (.number p) q))
    | (p, q) => return .other (.bool (p.eq q || same))
  | "sorted" => return .other (.list ((← sortOperands a).map Operand.encode))
  | f =>
    match operand done (get step "on") with
    | .region r => regionMethod r f a k
    | .unbounded r => openRegionMethod r f a k
    | _ => return .other (.object [("skipped", .bool true)])

def runRegions (j : Json) : Json :=
  let done := (items (get j "steps")).foldl (fun done s => done.push (regionStep done s)) #[]
  .list (done.toList.map (attemptOf Operand.encode))

/-! ### Boxes -/

def numbersOf (j : Json) (count : Nat) : Except Fault (List Num) := do
  let ns ← (items j).mapM fun i => match num? i with
    | some n => pure n
    | none => failBelow .type
  if ns.length = count then return ns else failBelow .type

def encodeBox (b : Box Num) : Json := .list ([b.x, b.y, b.w, b.h].map encodeNum)

def describeBox (j : Json) : Except Fault Json := do
  match ← numbersOf (get j "rect") 4, ← numbersOf (get j "size") 2, ← numbersOf (get j "pos") 2,
      num? (get j "levels") with
  | [x, y, w, h], [sh, sw], [px, py], some levels =>
    let b : Box Num := ⟨x, y, w, h⟩
    let s : Extent Num := ⟨sh, sw⟩
    let p : Point Num := ⟨px, py⟩
    let (rows, columns) := b.slice
    match levels.powerOfTwo?.bind p.scale? with
    | none => failBelow .overflow
    | some q =>
      return .object [("expand", encodeBox (b.expand s)), ("shrink", encodeBox (b.shrink s)),
        ("shift", encodeBox (b.shift p)),
        ("slice", .list [.list [.number rows.1, .number rows.2], .list [.number columns.1, .number columns.2]]),
        ("upsample", .object [("position", .list [encodeNum q.x, encodeNum q.y])])]
  | _, _, _, _ => failBelow .type

def runBox (j : Json) : Json := attemptOf id (describeBox j)

end SetTop.Scene
