import SetTop.Json.Order

/-!
Frame objects: what a script reads off one frame of video.

Each property is found by a `Getter`, which may read other properties of the same object. A property
is found once; after that its value is kept. All public properties but `is_visible` are hidden while
the object is not visible: they read as nothing, and are not looked for. A `Gallery` of objects keeps
what was found of each, and a trace of the getters that ran.
-/

/-!
What values contribute to the key of an object.

Numbers are taken modulo a prime, so that equal numbers have equal codes whatever their
form: two is invertible, hence fractions have residues, too. Different numbers may share
one.
-/

namespace SetTop

/-- The contribution of a value to a key. -/
inductive Code
  | number (residue : Int)
  | text (s : String)
  | nothing
  /-- what is no number is like nothing but itself -/
  | undefined
deriving DecidableEq

namespace Code

def width : Nat := 61

def modulus : Nat := Nat.pow 2 width - 1

/-- The residue of `mant * 2 ^ exp`. The powers of two repeat after `width` steps. -/
def residue (mant : Nat) (exp : Int) : Nat :=
  mant % modulus * Nat.pow 2 (exp % (width : Int)).toNat % modulus

def signed (negative : Bool) (residue : Nat) : Code :=
  let n : Int := if negative then -residue else residue
  .number (if n = -1 then -2 else n)

def infinity : Nat := 314159

def ofNum : Num → Code
  | .int n => signed (n < 0) (residue n.natAbs 0)
  | .posInf => signed false infinity
  | .negInf => signed true infinity
  | .nan => .undefined
  | .real x =>
    match Number.Parts.ofBits x.toBits with
    | .nan => .undefined
    | .infinite negative => signed negative infinity
    | .finite negative value => signed negative (residue value.mant value.exp)

def ofJson? : Json → Option Code
  | .null => some .nothing
  | .text s => some (if s.isEmpty then .number 0 else .text s)
  | j => j.number?.map ofNum

def same (a b : List Code) : Bool := a == b && !a.contains .undefined

end Code

end SetTop

namespace SetTop

/-- What a library of frame objects has to know about the values of properties. -/
structure ValueRules (α : Type) where
  /-- what a hidden property reads as -/
  hidden : α
  no : α
  /-- whether a value counts as true -/
  isTrue : α → Bool
  code? : α → Option Code
  rank : α → α → Except Fault Ordering
  describe : α → String

inductive Getter (α : Type)
  | give (value : α)
  | refuse (fault : Fault)
  | read (name : String) (next : α → Getter α)

structure FrameClass (φ α : Type) where
  name : String
  getters : List (String × (φ → Getter α))
  constants : List (String × α) := []

def visibility : String := "is_visible"

def isPrivateName (name : String) : Bool := name.toList.head? == some '_'

def isHideable (name : String) : Bool := name != visibility && !isPrivateName name

namespace FrameClass

variable {φ α : Type} (c : FrameClass φ α)

def hideable : List String :=
  ((c.getters.map (·.1)).filter isHideable).eraseDups.mergeSort fun a b => a ≤ b

def attributes : List String := visibility :: c.hideable

/-- How a property, or a constant, is found. Every kind has to say how visibility is found. -/
def getter (name : String) (frame : φ) : Getter α :=
  match c.getters.lookup name, c.constants.lookup name with
  | some g, _ => g frame
  | none, some v => .give v
  | none, none =>
    if name == visibility then
      .refuse (.failure .notImplemented
        "Objects deriving from FrameObject must define an is_visible property")
    else .refuse (.foreign .attribute name)

def owns (name : String) : Bool := c.getters.any (·.1 == name)

def knows (name : String) : Bool := c.owns name || c.constants.any (·.1 == name)

def extending (c base : FrameClass φ α) : FrameClass φ α :=
  { c with
    getters := c.getters ++ base.getters.filter fun (k, _) => !c.knows k
    constants := c.constants ++ base.constants.filter fun (k, _) => !c.knows k }

def withConstant (name : String) (value : α) : FrameClass φ α :=
  { c with
    getters := c.getters.filter (·.1 != name)
    constants := c.constants.filter (·.1 != name) ++ [(name, value)] }

end FrameClass

def mutableProperty : Fault :=
  .failure .plain "FrameObjects must be immutable but this property has a setter"

def constantVisibility : Fault := .failure .assertion ""

def missingFrame : Fault := .failure .value "FrameObject: frame must not be None"

structure FrameObject (φ α : Type) where
  kind : FrameClass φ α
  frame : φ

inductive GetterEvent
  | started (object : Nat) (name : String)
  | finished (object : Nat) (name : String)
deriving DecidableEq

structure Gallery (φ α : Type) where
  objects : List (FrameObject φ α) := []
  found : List ((Nat × String) × α) := []
  trace : List GetterEvent := []

abbrev Look (φ α : Type) := ExceptT Fault (StateM (Gallery φ α))

namespace Look

variable {φ α β : Type}

def run (a : Look φ α β) (g : Gallery φ α) : Except Fault β × Gallery φ α :=
  Id.run (StateT.run (ExceptT.run a) g)

def object (i : Nat) : Look φ α (FrameObject φ α) := do
  match (← get).objects[i]? with
  | some o => return o
  | none => failBelow .key

def record (own : Bool) (e : GetterEvent) : Look φ α Unit :=
  modify fun g => { g with trace := g.trace ++ if own then [e] else [] }

def keep (i : Nat) (name : String) (value : α) : Look φ α Unit :=
  modify fun g => { g with found := g.found ++ [((i, name), value)] }

/-- Follows a getter; `read` reads the other properties. -/
def follow (read : String → Look φ α α) : Getter α → Look φ α α
  | .give v => return v
  | .refuse e => throw e
  | .read name next => do follow read (next (← read name))

def once (read : String → Look φ α α) (i : Nat) (name : String) : Look φ α α := do
  let o ← object i
  match (← get).found.lookup (i, name) with
  | some v => return v
  | none =>
    record (o.kind.owns name) (.started i name)
    let v ← follow read (o.kind.getter name o.frame)
    record (o.kind.owns name) (.finished i name)
    keep i name v
    return v

/-- Reads a property; `depth` bounds how deep getters read each other. -/
def readAt (rules : ValueRules α) (i : Nat) : Nat → String → Look φ α α
  | 0, _ => failBelow .recursion
  | depth + 1, name => do
    let read := readAt rules i depth
    let o ← object i
    if isHideable name && o.kind.owns name then
      if rules.isTrue (← once read i visibility) then once read i name
      else return rules.hidden
    else once read i name

/-- Reads a property. Without circles, getters are never deeper than there are properties. -/
def read (rules : ValueRules α) (i : Nat) (name : String) : Look φ α α := do
  let o ← object i
  readAt rules i (o.kind.getters.length + 2) name

end Look

end SetTop

/-!
### Frame objects as values

An object that is visible is as good as the list of its attributes; one that is not is as
good as the single attribute that says so.
-/

namespace SetTop.ValueRules

variable {m : Type → Type} [Monad m] [MonadExceptOf Fault m] {α : Type} (rules : ValueRules α)
  (read read' : String → m α) (names names' : List String)

/-- The first attribute of what is read, and the names of the others. -/
def firstAttribute : m (α × List String) := do
  let v ← read visibility
  return if rules.isTrue v then (v, names) else (rules.no, [])

def attributes : m (List (String × α)) := do
  let (v, names) ← rules.firstAttribute read names
  let others ← names.mapM fun name => return (name, ← read name)
  return (visibility, v) :: others

def compareFrom : List String → List String → m Ordering
  | [], [] => return .eq
  | x :: _, [] => do
    let _ ← read x
    failBelow .type
  | [], y :: _ => do
    let _ ← read' y
    failBelow .type
  | x :: xs, y :: ys => do
    let a ← read x
    let b ← read' y
    match rules.rank a b with
    | .error e => throw e
    | .ok .eq => compareFrom xs ys
    | .ok o => return o

def compare : m Ordering := do
  let (a, xs) ← rules.firstAttribute read names
  let (b, ys) ← rules.firstAttribute read' names'
  match rules.rank a b with
  | .error e => throw e
  | .ok .eq => rules.compareFrom read read' xs ys
  | .ok o => return o

/-- The key of what is read: what its attributes contribute, all of which must be able to be part of
one. -/
def hashKey : m (List Code) := do
  match (← rules.attributes read names).mapM fun (_, v) => rules.code? v with
  | some codes => return codes
  | none => failBelow .type

end SetTop.ValueRules

namespace SetTop.Look

variable {φ α : Type} (rules : ValueRules α)

def isVisible (i : Nat) : Look φ α Bool :=
  return rules.isTrue (← read rules i visibility)

def attributes (i : Nat) : Look φ α (List (String × α)) := do
  rules.attributes (read rules i) (← object i).kind.hideable

def describe (i : Nat) : Look φ α String := do
  let shown := (← attributes rules i).map fun (k, v) => k ++ "=" ++ rules.describe v
  return (← object i).kind.name ++ "(" ++ ", ".intercalate shown ++ ")"

def compare (i j : Nat) : Look φ α Ordering := do
  rules.compare (read rules i) (read rules j) (← object i).kind.hideable (← object j).kind.hideable

def hashKey (i : Nat) : Look φ α (List Code) := do
  rules.hashKey (read rules i) (← object i).kind.hideable

end SetTop.Look
