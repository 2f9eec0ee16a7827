import SetTop.Device.Setup
import SetTop.Proofs.Config.Layers
import SetTop.Proofs.Video.Signals

/-!
Setting up a device from the configuration, and from a command line.

A command line reads all its defaults itself. What is left out of another setup is read when the
device is made, and the two readings differ twice. The
switch for restarts counts as on by its spelling for a command line, and otherwise unless it is
empty. A transformation that is left out is read into the place of the output, and the display is
asked for without one.
-/

namespace SetTop

open Act Display

namespace Display

open Act (Moves)
open Source.Handler

lemma keeps_create (description : String) (restarts : Bool) :
    Keeps (fun p => p.1.description = description ∧ p.1.restarts = restarts) Source.create := by
  refine .look fun s => .bind (Triple.act fun _ _ hp => hp) fun _ => ?_
  refine .bind (Triple.change fun _ _ hp => hp) fun _ => .bind (.needElement _) fun _ => ?_
  exact .look fun _ => .ite (.needElement _) (.pure ())

variable {o : Options} {s s₀ : Session}

lemma launch_of_make (h : (make o).run s = (.ok (), s₀)) :
    Event.parseLaunch (sinkDescription o) ∈ s₀.bench.journal := by
  obtain ⟨description, _, _, _, _, _, -, -, -, -, h⟩ := exists_of_make h
  obtain ⟨_, _, hnote, h⟩ := bind_eq_ok h
  have htold : Moves Aside (do
      Log.debug ("source pipeline: " ++ description)
      Log.debug ("sink pipeline: " ++ sinkDescription o)) :=
    .bind (Log.aside_debug _) fun _ => Log.aside_debug _
  obtain ⟨_, _, _, rfl⟩ := htold.of_run_eq h
  obtain ⟨-, rfl⟩ := Prod.mk.inj hnote
  exact List.mem_append_right _ List.mem_cons_self

lemma built_of_make (h : (make o).run s = (.ok (), s₀)) :
    ∃ d, s₀.display = some d ∧ sourceDescription? o = some d.source.description ∧
      d.source.restarts = o.restarts ∧
      Event.parseLaunch (sinkDescription o) ∈ s₀.bench.journal := by
  obtain ⟨description, rig, d, hd, -, hsource, -, hdescription⟩ := source_of_make h
  obtain ⟨hkept, hrestarts⟩ := (keeps_create description o.restarts).of_run
    (s := fresh description o rig) ⟨rfl, rfl⟩
  rw [← hsource] at hkept hrestarts
  exact ⟨d, hd, by rw [hdescription, hkept], hrestarts, launch_of_make h⟩

lemma run_make_of_no_transform (ho : o.transform = none) (s : Session) :
    ∃ s', (make o).run s = (.error (.foreign .type ""), s') ∧ s'.display = s.display := by
  have hnone : sourceDescription? o = none := by rw [sourceDescription?, ho]; rfl
  have hclock : clock.run s = (.ok s.bench.clock, (clock.run s).2) := rfl
  refine ⟨(clock.run s).2, ?_, rfl⟩
  rw [make, hnone]
  rfl

end Display

namespace Setup

/-- The options of the section `global` that a device is set up from. -/
structure Configured where
  source : String
  sink : String
  control : String
  restarts : String
  transform : String

/-- All five options can be read, and are as given. -/
structure Configured.ReadFrom (c : Configured) (settings : Settings) : Prop where
  source : settings.get "global" "source_pipeline" = .ok c.source
  sink : settings.get "global" "sink_pipeline" = .ok c.sink
  control : settings.get "global" "control" = .ok c.control
  restarts : settings.get "global" "restart_source" = .ok c.restarts
  transform : settings.get "global" "transformation_pipeline" = .ok c.transform

/-- What a device is built from: the description of the source, if there can be one, that of the
output, the address of the control, and whether the loss of video restarts the source. -/
structure Blueprint where
  source : Option String
  sink : String
  control : String
  restarts : Bool

/-- What a setup comes to where the options are as given. -/
def Configured.plan (c : Configured) (u : Setup) : Blueprint where
  source := sourceDescription?
    { source := u.source.getD c.source, transform := u.transform }
  sink := sinkDescription
    { sink := if u.transform.isSome then u.sink.getD c.sink else c.transform
      saveVideo := u.saveVideo }
  control := u.control.getD c.control
  restarts := u.restarts.getD !c.restarts.isEmpty

/-- What a command line comes to where the options are as given. -/
def Configured.commandLinePlan (c : Configured) : Blueprint where
  source := sourceDescription? { source := c.source, transform := some c.transform }
  sink := sinkDescription { sink := c.sink }
  control := c.control
  restarts := isOn c.restarts

def blueprint (u : Setup) : Act Blueprint := do
  let (o, control) ← u.resolve
  return ⟨sourceDescription? o, sinkDescription o, control, o.restarts⟩

def commandLine : Act Setup := do ofCommandLine (← commandLineDefaults)

variable {settings : Settings} {s : Session} {c : Configured}

variable {key text : String} {α : Type} {u : Setup}

/-- The action is stopped by a fault of the configuration, and changes nothing. -/
def Refused {α : Type} (s : Session) (a : Act α) : Prop :=
  ∃ message, a.run s = (.error (.failure .configuration message), s)

lemma Refused.bind {β : Type} {a : Act α} (h : Refused s a) (f : α → Act β) : Refused s (a >>= f) :=
  h.imp fun _ hrun => bind_of_error hrun

lemma restarts_eq_isOn_iff (text : String) :
    (!text.isEmpty) = isOn text ↔ text = "" ∨ isOn text = true := by
  by_cases h : text = ""
  · subst h
    exact iff_of_true (by decide) (.inl rfl)
  · have hfull : text.isEmpty = false := by simpa using h
    rw [hfull]
    exact ⟨fun heq => .inr heq.symm, fun hon => (hon.resolve_left h).symm⟩

section Reading

variable (hs : s.settings = some settings)

include hs

lemma run_text_of_ok (h : settings.get "global" key = .ok text) :
    (Config.text "global" key).run s = (.ok text, s) := by
  rw [Config.run_text hs, h]
  rfl

lemma run_given (h : settings.get "global" key = .ok text)
    (value : Option String) : (given value key).run s = (.ok (value.getD text), s) := by
  cases value with
  | none => exact run_text_of_ok hs h
  | some v => rfl

lemma refused_text_bind {f : String → Act α}
    (h : ∀ text, settings.get "global" key = .ok text → Refused s (f text)) :
    Refused s (Config.text "global" key >>= f) := by
  cases hkey : settings.get "global" key with
  | ok text =>
    obtain ⟨message, hrest⟩ := h text hkey
    exact ⟨message, (bind_of_ok (run_text_of_ok hs hkey)).trans hrest⟩
  | error e =>
    have hstop : Refused s (Config.text "global" key) := by
      refine ⟨e.message, ?_⟩
      rw [Config.run_text hs, hkey]
      rfl
    exact hstop.bind f

/-- Where one of the options cannot be read, neither way of setting up gets past the reading. -/
lemma refused_of_unread (h : ¬∃ c : Configured, c.ReadFrom settings) :
    Refused s (resolve {}) ∧ Refused s commandLine := by
  constructor
  · refine refused_text_bind hs fun source hsource => refused_text_bind hs fun sink hsink => ?_
    refine refused_text_bind hs fun control hcontrol => ?_
    refine refused_text_bind hs fun restarts hrestarts => ?_
    refine refused_text_bind hs fun transform htransform => ?_
    exact absurd ⟨⟨_, _, _, _, _⟩, hsource, hsink, hcontrol, hrestarts, htransform⟩ h
  · rw [commandLine, commandLineDefaults]
    simp only [bind_assoc]
    refine refused_text_bind hs fun control hcontrol => refused_text_bind hs fun source hsource => ?_
    refine refused_text_bind hs fun sink hsink => refused_text_bind hs fun restarts hrestarts => ?_
    refine refused_text_bind hs fun transform htransform => ?_
    exact absurd ⟨⟨_, _, _, _, _⟩, hsource, hsink, hcontrol, hrestarts, htransform⟩ h

variable (hc : c.ReadFrom settings)

include hc

lemma run_resolve (u : Setup) :
    u.resolve.run s =
      (.ok ({ source := u.source.getD c.source
              sink := if u.transform.isSome then u.sink.getD c.sink else c.transform
              saveVideo := u.saveVideo
              restarts := u.restarts.getD !c.restarts.isEmpty
              transform := u.transform }, u.control.getD c.control), s) := by
  obtain ⟨source, sink, control, saveVideo, restarts, transform⟩ := u
  rw [resolve, bind_of_ok (run_given hs hc.source source),
    bind_of_ok (run_given hs hc.sink sink), bind_of_ok (run_given hs hc.control control)]
  -- The two items that are not simply given or read are looked at in this order.
  cases restarts with
  | some b =>
    cases transform with
    | some t => rfl
    | none => exact bind_of_ok (run_text_of_ok hs hc.transform)
  | none =>
    cases transform with
    | some t => exact bind_of_ok (run_text_of_ok hs hc.restarts)
    | none =>
      exact (bind_of_ok (run_text_of_ok hs hc.restarts)).trans
        (bind_of_ok (run_text_of_ok hs hc.transform))

lemma run_blueprint (u : Setup) : u.blueprint.run s = (.ok (c.plan u), s) := by
  rw [blueprint, bind_of_ok (run_resolve hs hc u)]
  rfl

lemma run_commandLine :
    commandLine.run s =
      (.ok { source := some c.source, sink := some c.sink, control := some c.control
             restarts := some (isOn c.restarts), transform := some c.transform }, s) := by
  have hdefaults : commandLineDefaults.run s =
      (.ok { source := some c.source, sink := some c.sink, control := some c.control
             restarts := some (isOn c.restarts) }, s) := by
    rw [commandLineDefaults, bind_of_ok (run_text_of_ok hs hc.control),
      bind_of_ok (run_text_of_ok hs hc.source), bind_of_ok (run_text_of_ok hs hc.sink),
      bind_of_ok (run_text_of_ok hs hc.restarts)]
    rfl
  rw [commandLine, bind_of_ok hdefaults, ofCommandLine,
    bind_of_ok (run_text_of_ok hs hc.transform)]
  rfl

end Reading

/-- Setting up from the configuration against setting up from a command line.

Each setup comes to its plan, in which what is given stands for what is configured. A setup that
leaves out the transformation takes the configured one for the output, and stops at the display. One
that gives it agrees with the command line in all else that it leaves out, except that it restarts
the source unless the switch is empty, and so differs for every spelling of a switch that is off. -/
theorem configured_against_commandLine (hs : s.settings = some settings) :
    (∀ c : Configured, c.ReadFrom settings →
      (∀ u : Setup, u.blueprint.run s = (.ok (c.plan u), s)) ∧
      (commandLine >>= blueprint).run s = (.ok c.commandLinePlan, s) ∧
      (∀ u : Setup, u.transform = none →
        ∃ s', u.make.run s = (.error (.foreign .type ""), s') ∧ s'.display = s.display) ∧
      (∀ u : Setup, u.transform = some c.transform →
        (u.source = none → (c.plan u).source = c.commandLinePlan.source) ∧
        (u.sink = none → u.saveVideo = "" → (c.plan u).sink = c.commandLinePlan.sink) ∧
        (u.control = none → (c.plan u).control = c.commandLinePlan.control) ∧
        (u.restarts = none → ((c.plan u).restarts = c.commandLinePlan.restarts ↔
          c.restarts = "" ∨ isOn c.restarts = true))) ∧
      (c.restarts = "" ∨ isOn c.restarts = true →
        (commandLine >>= make).run s = (make { transform := some c.transform }).run s) ∧
      (∀ (u : Setup) (device : Device) (s' : Session), u.make.run s = (.ok device, s') →
        ∃ d s₀, (Remote.ofUri (c.plan u).control true).run s₀ = (.ok device.control, s') ∧
          s₀.display = some d ∧ (c.plan u).source = some d.source.description ∧
          d.source.restarts = (c.plan u).restarts ∧
          .parseLaunch (c.plan u).sink ∈ s₀.bench.journal)) ∧
    ((¬∃ c : Configured, c.ReadFrom settings) →
      Refused s (make {}) ∧ Refused s (commandLine >>= make)) := by
  refine ⟨fun c hc => ⟨run_blueprint hs hc, ?_, fun u hu => ?_, ?_, fun h => ?_,
    fun u device s' h => ?_⟩, fun h => ?_⟩
  · rw [Act.bind_of_ok (run_commandLine hs hc), run_blueprint hs hc]
    rfl
  · rw [make, bind_of_ok (run_resolve hs hc u)]
    refine Exists.imp (fun s' h => ⟨bind_of_error h.1, h.2⟩)
      (run_make_of_no_transform ?_ s)
    exact hu
  · intro u htransform
    refine ⟨fun hsource => ?_, fun hsink hsave => ?_, fun hcontrol => ?_, fun hrestarts => ?_⟩
    · simp [Configured.plan, Configured.commandLinePlan, hsource, htransform]
    · simp [Configured.plan, Configured.commandLinePlan, hsink, hsave, htransform]
    · simp [Configured.plan, Configured.commandLinePlan, hcontrol]
    · simpa only [Configured.plan, Configured.commandLinePlan, hrestarts, Option.getD_none]
        using restarts_eq_isOn_iff c.restarts
  · rw [bind_of_ok (run_commandLine hs hc), make, make,
      bind_of_ok (run_resolve hs hc _), bind_of_ok (run_resolve hs hc _)]
    simp only [Option.getD_some, Option.getD_none, (restarts_eq_isOn_iff c.restarts).2 h]
  · rw [make, bind_of_ok (run_resolve hs hc u)] at h
    obtain ⟨_, s₀, hmake, h⟩ := bind_eq_ok h
    obtain ⟨d, hd, hdescription, hrestarts, hlaunch⟩ := built_of_make hmake
    obtain ⟨remote, s₁, hremote, h⟩ := bind_eq_ok h
    cases h
    exact ⟨d, s₀, hremote, hd, hdescription, hrestarts, hlaunch⟩
  · obtain ⟨hresolve, hcommandLine⟩ := refused_of_unread hs h
    exact ⟨hresolve.bind _, hcommandLine.bind _⟩

/-- A switch spelled `False` is off for a command line, and on for a setup that leaves it out. -/
theorem false_restarts_the_source :
    let global : TextTable := [("source_pipeline", "videotestsrc is-live=true"),
      ("sink_pipeline", "xvimagesink sync=false"), ("control", "none"),
      ("restart_source", "False"), ("transformation_pipeline", "identity")]
    let c : Configured := ⟨"videotestsrc is-live=true", "xvimagesink sync=false", "none", "False",
      "identity"⟩
    c.ReadFrom { sections := [("global", global)] } ∧
      (c.plan { transform := some "identity" }).restarts = true ∧
      c.commandLinePlan.restarts = false ∧ ¬isOn "False" = true ∧
      ∃ s', (make {}).run { settings := some { sections := [("global", global)] } } =
        (.error (.foreign .type ""), s') := by
  intro global c
  have hread : c.ReadFrom { sections := [("global", global)] } := by
    constructor <;> rfl
  obtain ⟨-, -, hstop, -⟩ := (configured_against_commandLine
    (s := { settings := some { sections := [("global", global)] } }) rfl).1 c hread
  refine ⟨hread, by decide, by decide, by decide, ?_⟩
  exact (hstop {} rfl).imp fun _ h => h.1

end Setup

end SetTop
