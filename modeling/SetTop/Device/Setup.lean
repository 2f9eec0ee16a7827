import SetTop.Device.Basic

/-!
Setting up a device.

What is not given comes from the `global` section of the configuration.
-/

namespace SetTop

/-- What a device is set up from. A transformation is applied to the video before the script sees
it. -/
structure Setup where
  source : Option String := none
  sink : Option String := none
  control : Option String := none
  saveVideo : String := ""
  restarts : Option Bool := none
  transform : Option String := none

namespace Setup

def given (value : Option String) (option : String) : Act String :=
  match value with
  | some v => return v
  | none => Config.text "global" option

def resolve (s : Setup) : Act (Display.Options × String) := do
  let source ← given s.source "source_pipeline"
  let sink ← given s.sink "sink_pipeline"
  let control ← given s.control "control"
  let restarts ← match s.restarts with
    | some b => pure b
    | none => pure !(← Config.text "global" "restart_source").isEmpty
  let sink ← match s.transform with
    | some _ => pure sink
    | none => Config.text "global" "transformation_pipeline"
  return ({ source := source, sink := sink, saveVideo := s.saveVideo, restarts := restarts,
            transform := s.transform }, control)

def make (s : Setup) : Act Device := do
  let (options, control) ← s.resolve
  Display.make options
  return ⟨← Remote.ofUri control true⟩

def isOn (text : String) : Bool :=
  ["1", "yes", "true", "on"].contains (String.ofList (Text.lower text.toList))

def commandLineDefaults : Act Setup := do
  let control ← Config.text "global" "control"
  let source ← Config.text "global" "source_pipeline"
  let sink ← Config.text "global" "sink_pipeline"
  let restarts := isOn (← Config.text "global" "restart_source")
  return { source := some source, sink := some sink, control := some control, restarts := some restarts }

def ofCommandLine (s : Setup) : Act Setup := do
  return { s with transform := some (← Config.text "global" "transformation_pipeline") }

end Setup

end SetTop
