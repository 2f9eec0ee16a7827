import SetTop.Scene.Request
import SetTop.Scene.Setting
import SetTop.Video.Display

/-!
Rehearsed work with a display.

Everything that the video framework would do by itself is a step here.
-/

namespace SetTop.Scene

def displayOptions (j : Json) : Display.Options :=
  { source := textOr j "source" "videotestsrc"
    sink := textOr j "sink" "fakesink"
    saveVideo := textOr j "save_video" ""
    restarts := (get j "restart_source").isTrue
    transform := if has j "transform" then text? (get j "transform") else some "identity" }

def drawStep (step : Json) : Act Unit := do
  let arguments := items (get step "args")
  let argument (i : Nat) : Json := (arguments[i]?).getD .null
  let label := text (argument 1)
  match get step "obj" with
  | .text s => Display.addCaption s (argument 0)
  | .object fs =>
    let obj := Json.object fs
    if has obj "kind" then
      let region ← Act.ofExcept (region? (get obj "region"))
      let time := get obj "time"
      if !isNull time && (num? time).isNone then failBelow .type
      Display.addMark (num? time) region (get obj "ok").isTrue label
    else fail .type ("Can't draw object of type '" ++ obj.kindName ++ "'")
  | j => fail .type ("Can't draw object of type '" ++ j.kindName ++ "'")

def done (a : Act Unit) : Act Json := do
  a
  return .null

def once (h : Source.Handler Unit) : Act Json := do
  Display.handle h
  return .bool false

def displayStep (names : List (String × Json)) (step : Json) : Act Json := do
  match text (get step "f") with
  | "new_sample" =>
    let sample : Sample := .ofImage (image names (get step "img")) none
    let part (key : String) : Except Fault Num := ((step.field? key).getD (.ofInt 0)).needNumber
    let s ← Display.arrive sample (← Act.ofExcept (do (← part "base").plus (← part "pts")))
    return .list [.ofInt 0, encodeOption encodeNum s.time]
  | "push" =>
    done (Display.pushSample (.ofImage (image names (get step "img")) (num? (get step "t"))
      (boolOrTrue step "writable")))
  | "draw" => done (drawStep step)
  | "get" => return encodeOption encodeNum (← Display.getSample).time
  | "pull" => return encodeImage (← Display.pullFrame).image
  | "error" =>
    if intOr step "type" 2 ≠ 2 then fail .assertion ""
    done (Display.reportError (text (get step "text")) (text (get step "dbg"))
      (boolOrTrue step "pipeline"))
  | "warning" =>
    if intOr step "type" 4 ≠ 4 then fail .assertion ""
    done (Display.reportWarning (text (get step "text")) (text (get step "dbg")))
  | "eos_source" => done (Display.handle Source.streamEnded)
  | "eos_sink" => done Display.outputEnded
  | "underrun" => done (Display.handle Source.underrun)
  | "running" => done (Display.handle Source.running)
  | "fire" => once (Source.fire 0)
  | "restart_source" => once Source.restart
  | "start_source" => once Source.start
  | "startup" => done Display.startUp
  | "teardown" => done Display.tearDown
  | _ => failBelow .attribute

def encodeDisplay (d : Display) : Json :=
  .object [
    ("queue", .ofNat d.mailbox.size),
    ("novideo", .bool d.noVideo),
    ("texts", .list (d.overlay.captions.map fun c =>
      .list [.text c.text, encodeJson c.duration, encodeOption encodeNum c.start])),
    ("annotations", .list (d.overlay.marks.map fun m =>
      .list [encodeNum m.time, encodeRegion? m.region, .text m.label, .list (m.colour.map encodeNum)])),
    ("pipeline", .bool d.source.current.isSome),
    ("underrun", .bool d.source.guard.isSome),
    ("tearing_down", .bool d.source.closing),
    ("eos", .bool d.ended)]

def runDisplay (j : Json) : Json :=
  let make : Act Json := do
    Display.make (displayOptions (get j "options"))
    return .text (← Display.current).source.description
  let (outcome, s) := make.run (session j)
  let (first, s) := reportOutcome outcome s
  match outcome with
  | .error _ => .list [first]
  | .ok _ =>
    let (reports, _) := (items (get j "steps")).foldl (fun (acc, s) step =>
      let (answer, s) := report (displayStep (names j) step) s
      let state := (s.display.map encodeDisplay).getD .null
      (acc ++ [addFields answer [("state", state)]], s)) ([], s)
    .list (first :: reports)

end SetTop.Scene
