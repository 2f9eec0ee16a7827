import SetTop.FrameObject.Basic
import SetTop.Scene.Encoding

/-!
Rehearsed work with frame objects.
-/

namespace SetTop.Scene

def jsonRules : ValueRules Json :=
  { hidden := .null
    no := .bool false
    isTrue := Json.isTrue
    code? := Code.ofJson?
    rank := Json.rank
    describe := Json.literal }

def sumGetter (total : Num) : List Json → Getter Json
  | [] => .give (.number total)
  | .text name :: names => .read name fun v =>
    if !v.isTrue then sumGetter total names
    else match (do total.plus (← v.needNumber) : Except Fault Num) with
      | .ok sum => sumGetter sum names
      | .error e => .refuse e
  | _ :: _ => .refuse (.foreign .type "")

def partGetter (key frame : Json) : Getter Json :=
  match frame, key with
  | .object fs, .text k => .give ((fs.lookup k).getD .null)
  | .object _, key => if (Code.ofJson? key).isSome then .give .null else .refuse (.foreign .type "")
  | _, _ => .refuse (.foreign .attribute "")

def getterOf (j : Json) (frame : Json) : Getter Json :=
  if has j "raise" then .refuse (.foreign .runtime "")
  else if has j "sum" then
    match sequence? (get j "sum") with
    | some names => sumGetter 0 names
    | none => .refuse (.foreign .type "")
  else if has j "frame" then partGetter (get j "frame") frame
  else .give j

def expressionsName : String := "AUTO_SELFTEST_EXPRESSIONS"

def frameName : String := "_frame"

/-- The kind of a description; `depth` bounds how many kinds stand behind each other. -/
def frameClass : Nat → Json → Except Fault (FrameClass Json Json)
  | 0, _ => failBelow .recursion
  | depth + 1, j => do
    let constants := fields (get j "attrs")
    let props := (fields (get j "props")).filter fun (k, _) => !constants.any (·.1 == k)
    let name := text (get j "name")
    let expressions := Json.list [.text (name ++ "(frame=\x7bframe\x7d)")]
    let own : FrameClass Json Json :=
      { name := name
        getters := props.map fun (k, v) => (k, getterOf v)
        constants := if constants.any (·.1 == expressionsName) then constants
          else constants ++ [(expressionsName, expressions)] }
    let complete ←
      if isNull (get j "base") then pure own
      else do pure (own.extending (← frameClass depth (get j "base")))
    if (texts (get j "setters")).any fun name => props.any (·.1 == name) then throw mutableProperty
    if (text? (get j "name")).isNone then failBelow .type
    if name.toList.contains '\x00' then failBelow .value
    if complete.constants.any (·.1 == visibility) then throw constantVisibility
    return complete

/-- Kinds, objects by name with the number of their kind, and the gallery. -/
structure Exhibition where
  kinds : List (Json × Nat × FrameClass Json Json) := []
  names : List (Json × Nat × Nat) := []
  gallery : Gallery Json Json := {}

abbrev ExhibitionAct := ExceptT Fault (StateM Exhibition)

namespace ExhibitionAct

def look {β : Type} (a : Look Json Json β) : ExhibitionAct β := do
  let (outcome, gallery) := a.run (← MonadState.get).gallery
  modify fun e => { e with gallery := gallery }
  match outcome with
  | .ok v => return v
  | .error e => throw e

/-- What is kept under a name. Lists and objects are no names. -/
def entry {β : Type} (entries : List (Json × β)) (name : Json) : ExhibitionAct β := do
  if (Code.ofJson? name).isNone then failBelow .type
  match entries.find? fun (k, _) => Json.same k name with
  | some (_, b) => return b
  | none => failBelow .key

def find (name : Json) : ExhibitionAct (Nat × Nat) := do entry (← MonadState.get).names name

def compare (a b : Json) : ExhibitionAct (Option Ordering) := do
  let (i, kind) ← find a
  let (j, other) ← find b
  if kind == other then some <$> look (Look.compare jsonRules i j) else return none

end ExhibitionAct

open ExhibitionAct

def signOf : Ordering → Int
  | .lt => -1
  | .eq => 0
  | .gt => 1

def frameObjectStep (step : Json) : ExhibitionAct Json := do
  match items step with
  | [.text "class", description] =>
    match frameClass 16 description with
    | .error e => throw e
    | .ok c =>
      modify fun e => { e with kinds := (.text c.name, e.kinds.length, c) :: e.kinds }
      let expressions := encodeOption encodeJson (c.constants.lookup expressionsName)
      return .list [expressions, encodeStrings c.attributes]
  | [.text "new", name, kind, frame] =>
    let (number, c) ← entry (← MonadState.get).kinds kind
    if isNull frame then throw missingFrame
    if c.getters.any (·.1 == frameName) then failBelow .attribute
    if (Code.ofJson? name).isNone then failBelow .type
    let o : FrameObject Json Json := { kind := c.withConstant frameName frame, frame := frame }
    modify fun e => { e with
      names := (name, e.gallery.objects.length, number) :: e.names,
      gallery := { e.gallery with objects := e.gallery.objects ++ [o] } }
    return .null
  | [.text "get", name, property] =>
    let (i, _) ← find name
    match property with
    | .text p => return encodeJson (← look (Look.read jsonRules i p))
    | _ => failBelow .type
  | [.text "repr", name] =>
    let (i, _) ← find name
    return .text (← look (Look.describe jsonRules i))
  | [.text "bool", name] =>
    let (i, _) ← find name
    return .bool (← look (Look.isVisible jsonRules i))
  | [.text "attrs", name] =>
    let (i, _) ← find name
    let found ← look (Look.attributes jsonRules i)
    return .list (found.map fun (k, v) => .list [.text k, encodeJson v])
  | [.text "cmp", a, b] =>
    match ← ExhibitionAct.compare a b with
    | some o => return .ofInt (signOf o)
    | none => return "NotImplemented"
  | [.text "foreign", name, _] =>
    let _ ← find name
    return "NotImplemented"
  | [.text "eq", a, b] =>
    let same := (← ExhibitionAct.compare a b) == some .eq
    let (i, _) ← find a
    let (j, _) ← find b
    let own ← look (Look.hashKey jsonRules i)
    let other ← look (Look.hashKey jsonRules j)
    return .list [.bool same, .bool !same, .bool (i == j || Code.same own other)]
  | [.text "lt", a, b] =>
    match ← ExhibitionAct.compare a b with
    | none => failBelow .type
    | some o => return .list [.bool (o == .lt), .bool (o != .gt), .bool (o == .gt), .bool (o != .lt)]
  | _ => failBelow .value

def encodeTrace (trace : List GetterEvent) : Json :=
  encodeStrings (trace.filterMap fun
    | .started _ name => some name
    | .finished _ _ => none)

def runFrameObjects (j : Json) : Json :=
  let (reports, _) := (items (get j "steps")).foldl (fun (acc, (e : Exhibition)) step =>
    let e := { e with gallery := { e.gallery with trace := [] } }
    let (outcome, e) := Id.run (StateT.run (ExceptT.run (frameObjectStep step)) e)
    (acc ++ [Json.object [("result", attemptOf id outcome), ("calls", encodeTrace e.gallery.trace)]], e))
    ([], {})
  .list reports

end SetTop.Scene
