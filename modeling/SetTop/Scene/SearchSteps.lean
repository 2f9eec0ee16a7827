import SetTop.Scene.Request

/-!
Parts of a search for a template, each asked for by itself.
-/

namespace SetTop.Scene

def method? (j : Json) : Option MatchMethod :=
  match j.number? with
  | none => none
  | some n =>
    if n.eq 1 then some .squaredDifference
    else if n.eq 3 then some .correlation
    else if n.eq 5 then some .coefficient
    else none

def heatmap (j : Json) : Except Fault Heatmap := do
  let shape := shapeOf j
  let values ← elementsOf singleOf shape j
  if values.isEmpty then failBelow .value
  match shape with
  | [height, width] => return ⟨height, width, values.toArray⟩
  | _ => failBelow .value

def shownWhole (j : Json) : Except Fault Int := do (← j.needNumber).whole

def runBest (j : Json) : Except Fault Json := do
  let m ← heatmap (get j "heatmap")
  match method? (get j "method") with
  | none => throw (.failure .value ("Invalid matchTemplate method '" ++ (get j "method").display ++ "'"))
  | some method =>
    let threshold ← match get j "threshold" with
      | .null => pure .negInf
      | t => t.needNumber
    let b := m.best method threshold
    let _ ← shownWhole (get j "level")
    return .list [.bool b.matched, encodePosition b.position, encodeNum b.certainty]

def runPyramid (i : Image) (levels : Json) : Except Fault (List Image) :=
  match levels.number? with
  | some (.int n) => .ok (i.pyramid n.toNat)
  | _ => failBelow .type

end SetTop.Scene
