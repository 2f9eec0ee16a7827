import SetTop.Proofs.Logging
import SetTop.Proofs.Video.Restart
import SetTop.Video.Display

/-!
A display under any sequence of signals.

Whatever reaches a display, its source is left in one of the phases of `Tidy`, and while a signal is
handled the world never sees two pipelines in use. Once the display is closed the source is `Shut`:
it holds no pipeline and gets none, so nothing is played any more.
-/

namespace SetTop

namespace Source

open Handler Display Triple

/-- What can happen to a source. -/
inductive Signal
  | startUp | underrun | running | streamEnded
  /-- a timer goes off -/
  | timer (index : Nat)
  | tearDown
deriving DecidableEq

def Signal.handler : Signal → Handler Unit
  | .startUp => play
  | .underrun => Source.underrun
  | .running => Source.running
  | .streamEnded => Source.streamEnded
  | .timer index => fire index
  | .tearDown => close

lemma keeps_handler {start : List PipelineState} (g : Signal) : Keeps (Settled start) g.handler := by
  cases g with
  | startUp => exact keeps_play
  | underrun => exact unconcerned_settled.keeps_underrun
  | running => exact unconcerned_settled.keeps_running
  | streamEnded => exact unconcerned_settled.keeps_streamEnded keeps_restart
  | timer index => exact keeps_fire index
  | tearDown => exact keeps_close

/-- What a signal does: the source is tidy again, the pipelines are what the world saw of them, and
at no point it saw two in use. -/
lemma Tidy.settled_run {s : Source} (h : Tidy s) (g : Signal) :
    Settled s.pipelines (g.handler.run s).2 :=
  of_run (keeps_handler g) ⟨h, .nil h.busy_le⟩

/-! ### A source that was closed -/

/-- The source was closed, and nothing has been done to its pipelines since. -/
structure Shut (start : List PipelineState) (p : Trail) : Prop where
  closed : p.1.closing = true
  current : p.1.current = none
  pipelines : p.1.pipelines = start
  silent : ∀ a ∈ p.2, Silent a

variable {start : List PipelineState}

lemma unconcerned_shut : Unconcerned (Shut start) where
  act ha h := by
    refine ⟨h.closed, h.current, h.pipelines, fun b hb => ?_⟩
    rcases List.mem_append.1 hb with hb | hb
    · exact h.silent b hb
    · obtain rfl := List.mem_singleton.1 hb
      exact ha
  change hp hc hd _ h := ⟨hd.trans h.closed, hc.trans h.current, hp.trans h.pipelines, h.silent⟩

lemma shut_pipeline {α : Type} {f : Nat → Handler α} :
    Triple (Shut start) (pipeline >>= f) (fun _ _ => False) (Shut start) := by
  refine .bind (.look fun s => ?_) fun _ _ => False.elim
  split
  · next n hn =>
    rintro p ⟨h, rfl⟩
    exact absurd (h.current.symm.trans hn) (by simp)
  · exact .absent fun _ hp => hp.1

lemma shut_play : Triple (Shut start) play (fun _ _ => False) (Shut start) := shut_pipeline

lemma shut_restart : Keeps (Shut start) restart :=
  .bind (unconcerned_shut.keeps_act fun _ => rfl) fun _ => shut_pipeline.post fun _ _ => False.elim

lemma shut_start : Keeps (Shut start) Source.start := by
  refine look fun s => .ite (fun _ => .pure fun _ hp => hp.1) fun hopen => ?_
  rintro p ⟨h, rfl⟩
  exact absurd h.closed hopen

lemma shut_fire (index : Nat) : Keeps (Shut start) (fire index) := by
  refine .look fun s => ?_
  split
  · exact throw fun _ hp => hp
  · next t _ =>
    refine .bind (change fun s _ => unconcerned_shut.change rfl rfl rfl ?_) fun _ => ?_
    · exact List.Sublist.countP_le (List.eraseIdx_sublist _ _)
    cases t with
    | restart => exact shut_restart
    | start => exact shut_start

lemma shut_close : Keeps (Shut start) close := by
  refine look fun s => ?_
  cases hc : s.current with
  | none =>
    refine .bind (.change ?_) fun _ => .pure fun _ hp => hp
    rintro _ done ⟨h, rfl⟩
    exact ⟨rfl, rfl, h.pipelines, h.silent⟩
  | some n =>
    rintro p ⟨h, rfl⟩
    exact absurd (h.current.symm.trans hc) (by simp)

lemma shut_handler (g : Signal) : Keeps (Shut start) g.handler := by
  cases g with
  | startUp => exact shut_play.post fun _ _ => False.elim
  | underrun => exact unconcerned_shut.keeps_underrun
  | running => exact unconcerned_shut.keeps_running
  | streamEnded => exact unconcerned_shut.keeps_streamEnded shut_restart
  | timer index => exact shut_fire index
  | tearDown => exact shut_close

lemma triple_close {P I : Trail → Prop}
    (hmark : ∀ s done, P (s, done) → I ({ s with closing := true, current := none }, done))
    (hact : ∀ s done a, I (s, done) → I (s, done ++ [a]))
    (hbring : ∀ s done ps, I (s, done) → I ({ s with pipelines := ps }, done)) :
    Triple P close (fun _ => I) I := by
  have hact (a : SourceAction) : Keeps I (act a) := act fun _ _ hp => hact _ _ a hp
  have hrest (n : Nat) : Keeps I (do
      needElement "appsink"
      bring n .null) :=
    .bind (.needElement _) fun _ => .bind (hact _) fun _ => change fun _ _ hp => hbring _ _ _ hp
  refine .look fun s => .bind (R := fun _ => I) (.change fun _ _ hp => hmark _ _ hp.1) fun _ => ?_
  cases s.current with
  | none => exact Keeps.pure ()
  | some n =>
    refine .bind (Keeps.forM fun name _ => ?_) fun _ => ?_
    · cases name with
      | some name => exact hact _
      | none => exact absent fun _ hp => hp
    · cases (Rig.walk s.rig.sources).2 with
      | error f => exact .bind (.throw fun _ hp => hp) fun _ => hrest n
      | ok _ => exact hrest n

lemma close_closes (s : Source) :
    (close.run s).2.1.closing = true ∧ (close.run s).2.1.current = none :=
  (triple_close (P := fun _ => True) (I := fun p => p.1.closing = true ∧ p.1.current = none)
    (fun _ _ _ => ⟨rfl, rfl⟩) (fun _ _ _ hp => hp) fun _ _ _ hp => hp).of_run trivial

end Source

/-! ### The display -/

namespace Display

open Source (Signal)
open Act

/-- What a display does on a signal. -/
def react : Signal → Act Unit
  | .startUp => startUp
  | .tearDown => tearDown
  | g => handle g.handler

/-- The session after a display got some signals, one after the other. What stops the handling of
one does not keep the next from coming. -/
def reactAll (signals : List Signal) (s : Session) : Session :=
  signals.foldl (fun s g => ((react g).run s).2) s

/-- Nobody asked for anything to be played. -/
def Unplayed (e : Event) : Prop := e ≠ .setState PipelineState.playing.name

/-- The source stays the same, and what is asked for is of the given kind. -/
structure Beside (allowed : Event → Prop) (s s' : Session) : Prop where
  source : s'.display.map source = s.display.map source
  journal : ∃ new, s'.bench.journal = s.bench.journal ++ new ∧ ∀ e ∈ new, allowed e

variable {allowed : Event → Prop}

instance : Std.Refl (Beside allowed) := ⟨fun _ => ⟨rfl, [], by simp, by simp⟩⟩

instance : Trans (Beside allowed) (Beside allowed) (Beside allowed) where
  trans := by
    rintro s s₁ s₂ ⟨hsource₁, new₁, hnew₁, hall₁⟩ ⟨hsource₂, new₂, hnew₂, hall₂⟩
    refine ⟨hsource₂.trans hsource₁, new₁ ++ new₂, ?_, ?_⟩
    · rw [hnew₂, hnew₁, List.append_assoc]
    · intro e he
      rcases List.mem_append.1 he with he | he
      · exact hall₁ e he
      · exact hall₂ e he

variable {α : Type} {s s' s₀ : Session} {d : Display} {o : Options}

lemma beside_of_aside {a : Act α} (ha : Moves Aside a) : Moves (Beside allowed) a := by
  intro s
  obtain ⟨settings, verbosity, err, hs⟩ := ha s
  rw [hs]
  exact ⟨rfl, [], by simp, by simp⟩

lemma beside_note {e : Event} (he : allowed e) : Moves (Beside allowed) (note e) :=
  fun _ => ⟨rfl, [e], rfl, by simpa using he⟩

lemma beside_carryOut_any (a : SourceAction) : Moves (Beside fun _ => True) (carryOut a) := by
  cases a with
  | warn text => exact beside_of_aside (Log.aside_warn text)
  | detail text => exact beside_of_aside (Log.aside_detail text)
  | _ => exact beside_note trivial

lemma beside_carryOut_silent {a : SourceAction} (ha : Source.Silent a) :
    Moves (Beside Unplayed) (carryOut a) := by
  cases a with
  | warn text => exact beside_of_aside (Log.aside_warn text)
  | detail text => exact beside_of_aside (Log.aside_detail text)
  | setState state => cases state with
    | playing => exact absurd (ha [.null]) (by decide)
    | _ => exact beside_note (by simp [Unplayed, PipelineState.name])
  | _ => exact beside_note (by simp [Unplayed])

/-- The session in which a display has the source that a handler left. -/
def leaving {α : Type} (h : Source.Handler α) (d : Display) (s : Session) : Session :=
  { s with display := some { d with source := (h.run d.source).2.1 } }

lemma run_change (f : Display → Display) (s : Session) :
    (change f).run s = (.ok (), { s with display := s.display.map f }) := rfl

lemma run_current (hd : s.display = some d) : current.run s = (.ok d, s) := by
  rw [current, bind_of_ok (run_get s), hd]
  rfl

lemma run_handle {h : Source.Handler α} (hd : s.display = some d) :
    (handle h).run s = ((h.run d.source).2.2.forM carryOut >>= fun _ =>
      Act.ofExcept (h.run d.source).1).run (leaving h d s) := by
  rw [handle, bind_of_ok (run_current hd)]
  refine (bind_of_ok (run_change _ s)).trans ?_
  rw [hd]
  rfl

lemma handle_run {h : Source.Handler α} (hd : s.display = some d)
    (ha : ∀ a ∈ (h.run d.source).2.2, Moves (Beside allowed) (carryOut a)) :
    Beside allowed (leaving h d s) ((handle h).run s).2 ∧
      ∀ e, (h.run d.source).1 = .error e → ∃ e', ((handle h).run s).1 = .error e' := by
  rw [run_handle hd]
  refine ⟨(Moves.bind (.forM ha) fun _ => .ofExcept _) _, fun e he => ?_⟩
  · rw [he, run_bind]
    split
    · exact ⟨e, rfl⟩
    · exact ⟨_, rfl⟩

lemma Beside.mono (h : Beside allowed s s') : Beside (fun _ => True) s s' :=
  ⟨h.source, h.journal.imp fun _ hnew => ⟨hnew.1, fun _ _ => trivial⟩⟩

lemma Beside.bind {β : Type} {a : Act α} {f : α → Act β} {s₁ : Session}
    (ha : Beside allowed s₁ (a.run s).2) (hf : ∀ v, Moves (Beside allowed) (f v)) :
    Beside allowed s₁ ((a >>= f).run s).2 := by
  rw [run_bind]
  revert ha
  rcases a.run s with ⟨r | v, s'⟩
  · exact id
  · exact fun ha => Trans.trans ha (hf v s')

lemma moves_current {R : Session → Session → Prop} [Std.Refl R] [Trans R R R] : Moves R current := by
  refine .bind .get fun s => ?_
  cases s.display with
  | some d => exact .pure d
  | none => exact .throw _

/-- What follows when the source of a display was closed. -/
def ending : Act Unit := do
  Log.debug "teardown: Sending eos"
  let d ← current
  if d.source.rig.missing.contains "appsrc" then failBelow .attribute
  note (.emit "appsrc" "end-of-stream")
  if !d.ended then Log.debug "Timeout waiting for sink EOS"
  note (.setState PipelineState.null.name)
  note (.mainloop "exit")

lemma moves_ending {R : Session → Session → Prop} [Std.Refl R] [Trans R R R]
    (hdebug : ∀ text, Moves R (Log.debug text)) (hnote : ∀ e, Unplayed e → Moves R (note e)) :
    Moves R ending := by
  refine .bind (hdebug _) fun _ => .bind moves_current fun d => .when (.throw _) ?_
  refine .bind (hnote _ (by simp [Unplayed])) fun _ => .when (hdebug _) ?_
  exact .bind (hnote _ (by simp [Unplayed, PipelineState.name])) fun _ => hnote _ (by simp [Unplayed])

lemma beside_ending : Moves (Beside Unplayed) ending :=
  moves_ending (fun _ => beside_of_aside (Log.aside_debug _)) fun _ => beside_note

lemma beside_beginning : Moves (Beside fun _ => True) (do
    note (.setState PipelineState.playing.name)
    change fun d => { d with ended := false }
    note (.mainloop "enter")) := by
  refine .bind (beside_note trivial) fun _ => .bind (fun s => ?_) fun _ => beside_note trivial
  refine ⟨?_, [], (List.append_nil _).symm, fun _ => nofun⟩
  change (s.display.map _).map source = _
  rw [Option.map_map]
  rfl

lemma react_run (hd : s.display = some d) (g : Signal) :
    Beside (fun _ => True) (leaving g.handler d s) ((react g).run s).2 := by
  have hhandle := (handle_run (h := g.handler) hd fun a _ => beside_carryOut_any a).1
  cases g with
  | startUp => exact hhandle.bind fun _ => beside_beginning
  | tearDown => exact hhandle.bind fun _ s => (beside_ending s).mono
  | _ => exact hhandle

lemma react_shut (hd : s.display = some d) (hclosed : d.source.closing = true)
    (hnone : d.source.current = none) (g : Signal) :
    Source.Shut d.source.pipelines (g.handler.run d.source).2 ∧
      Beside Unplayed (leaving g.handler d s) ((react g).run s).2 := by
  have hstart : Source.Shut d.source.pipelines (d.source, []) := ⟨hclosed, hnone, rfl, nofun⟩
  have hshut := Source.Handler.Triple.of_run (Source.shut_handler g) hstart
  obtain ⟨hhandle, herror⟩ := handle_run hd fun a ha =>
    beside_carryOut_silent (hshut.silent a ha)
  refine ⟨hshut, ?_⟩
  cases g with
  | startUp =>
    have hfails : ∃ e, (Source.play.run d.source).1 = .error e := by
      have hend := Source.shut_play _ hstart
      rw [Source.Handler.run_eq_on]
      revert hend
      rcases Source.play.on (d.source, []) with ⟨e | v, p⟩
      · exact fun _ => ⟨e, rfl⟩
      · exact False.elim
    obtain ⟨e, he⟩ := hfails
    obtain ⟨e', he'⟩ := herror e he
    have hstop : startUp.run s = (.error e', ((handle Source.play).run s).2) :=
      bind_of_error (Prod.ext he' rfl)
    change Beside Unplayed _ (startUp.run s).2
    rw [hstop]
    exact hhandle
  | tearDown => exact hhandle.bind fun _ => beside_ending
  | _ => exact hhandle

/-! ### Sequences of signals -/

/-- The display is there, and its source is tidy. -/
def Orderly (s : Session) : Prop := ∃ d, s.display = some d ∧ d.source.Tidy

lemma Beside.exists_display (h : Beside allowed s s') (hd : s.display = some d) :
    ∃ d', s'.display = some d' ∧ d'.source = d.source := by
  have hmap := h.source
  rw [hd] at hmap
  exact Option.map_eq_some_iff.1 hmap

lemma Orderly.react (h : Orderly s) (g : Signal) : Orderly ((react g).run s).2 := by
  obtain ⟨d, hd, htidy⟩ := h
  obtain ⟨d', hd', hsource⟩ := (react_run hd g).exists_display rfl
  exact ⟨d', hd', hsource ▸ (htidy.settled_run g).1⟩

lemma Orderly.reactAll (h : Orderly s) (signals : List Signal) : Orderly (reactAll signals s) := by
  induction signals generalizing s with
  | nil => exact h
  | cons g signals ih => exact ih (h.react g)

/-- The source of the display was closed with its pipelines as given. -/
def Closed (pipelines : List PipelineState) (s : Session) : Prop :=
  ∃ d, s.display = some d ∧ d.source.closing = true ∧ d.source.current = none ∧
    d.source.pipelines = pipelines

variable {pipelines : List PipelineState}

lemma Closed.react (h : Closed pipelines s) (g : Signal) : Closed pipelines ((react g).run s).2 ∧
      ∃ new, ((react g).run s).2.bench.journal = s.bench.journal ++ new ∧
        ∀ e ∈ new, Unplayed e := by
  obtain ⟨d, hd, hclosed, hnone, hp⟩ := h
  obtain ⟨hshut, hbeside⟩ := react_shut hd hclosed hnone g
  obtain ⟨d', hd', hsource⟩ := hbeside.exists_display rfl
  refine ⟨⟨d', hd', ?_⟩, hbeside.journal⟩
  rw [hsource]
  exact ⟨hshut.closed, hshut.current, hshut.pipelines.trans hp⟩

lemma Closed.reactAll (h : Closed pipelines s) (signals : List Signal) :
    Closed pipelines (reactAll signals s) ∧
      ∃ new, (reactAll signals s).bench.journal = s.bench.journal ++ new ∧
        ∀ e ∈ new, Unplayed e := by
  induction signals generalizing s with
  | nil => exact ⟨h, [], by simp [reactAll]⟩
  | cons g signals ih =>
    obtain ⟨hnext, new₁, hnew₁, hall₁⟩ := h.react g
    obtain ⟨hlast, new₂, hnew₂, hall₂⟩ := ih hnext
    refine ⟨hlast, new₁ ++ new₂, ?_, ?_⟩
    · rw [← List.append_assoc, ← hnew₁]
      exact hnew₂
    · intro e he
      exact (List.mem_append.1 he).elim (hall₁ e) (hall₂ e)

lemma closed_of_mem (h : Orderly s) {signals : List Signal} (hmem : Signal.tearDown ∈ signals) :
    ∃ pipelines, Closed pipelines (reactAll signals s) := by
  obtain ⟨before, after, rfl⟩ := List.append_of_mem hmem
  obtain ⟨d, hd, -⟩ := h.reactAll before
  obtain ⟨d', hd', hsource⟩ := (react_run hd .tearDown).exists_display rfl
  have hclosed : Closed d'.source.pipelines ((react .tearDown).run (reactAll before s)).2 :=
    ⟨d', hd', hsource ▸ (Source.close_closes d.source).1,
      hsource ▸ (Source.close_closes d.source).2, rfl⟩
  refine ⟨d'.source.pipelines, ?_⟩
  rw [reactAll, List.foldl_append]
  exact (hclosed.reactAll after).1

def fresh (description : String) (o : Options) (rig : Rig) : Source :=
  { description := description, restarts := o.restarts, rig := rig }

lemma idle_fresh (description : String) (o : Options) (rig : Rig) :
    ((fresh description o rig).Idle ∧ (fresh description o rig).closing = false) ∧
      Source.Observed [] (fresh description o rig, []) :=
  ⟨⟨⟨⟨rfl, Nat.zero_le 1, Nat.zero_le 1, fun _ => rfl⟩, rfl⟩, rfl⟩,
    .nil (s := fresh description o rig) (Nat.zero_le 1)⟩

/-- What making a display ends with. -/
def tell (o : Options) (description : String) : Act Unit := do
  note (.parseLaunch (sinkDescription o))
  Log.debug ("source pipeline: " ++ description)
  Log.debug ("sink pipeline: " ++ sinkDescription o)

lemma exists_of_make (h : (make o).run s = (.ok (), s₀)) :
    ∃ description now rig s₁ s₂ s₃, sourceDescription? o = some description ∧
      s₁.display = some { source := fresh description o rig, made := now } ∧
      (handle Source.create).run s₁ = (.ok (), s₂) ∧ Aside s₂ s₃ ∧
      (tell o description).run s₃ = (.ok (), s₀) := by
  obtain ⟨now, _, -, h⟩ := bind_eq_ok h
  cases hsource : sourceDescription? o with
  | none =>
    rw [hsource] at h
    cases h
  | some description =>
    rw [hsource] at h
    obtain ⟨b, _, -, h⟩ := bind_eq_ok h
    obtain ⟨_, s₁, hmodify, h⟩ := bind_eq_ok h
    obtain ⟨_, s₂, hcreate, h⟩ := bind_eq_ok h
    have hd : s₁.display = some { source := fresh description o b.rig, made := now } :=
      congrArg Session.display (Prod.mk.inj hmodify).2.symm
    refine ⟨description, now, b.rig, s₁, s₂, ?_⟩
    split at h
    · obtain ⟨_, s₃, hvideo, h⟩ := bind_eq_ok h
      exact ⟨s₃, rfl, hd, hcreate, (Log.aside_debug _).of_run_eq hvideo, h⟩
    · exact ⟨s₂, rfl, hd, hcreate, Std.Refl.refl s₂, h⟩

lemma source_of_make (h : (make o).run s = (.ok (), s₀)) : ∃ description rig d, s₀.display = some d ∧
      (Source.create.run (fresh description o rig)).1 = .ok () ∧
      d.source = (Source.create.run (fresh description o rig)).2.1 ∧ Log.Known s₀ ∧
      sourceDescription? o = some description := by
  obtain ⟨description, now, rig, s₁, s₂, s₃, hsource, hd₁, hdone, ⟨_, _, _, rfl⟩, htell⟩ :=
    exists_of_make h
  obtain ⟨hcreate, hstopped⟩ := handle_run hd₁ fun a _ => beside_carryOut_any a
  have hdebug (text : String) : Moves (Beside fun _ => True) (Log.debug text) :=
    beside_of_aside (Log.aside_debug text)
  have htold : Moves (Beside fun _ => True) (tell o description) :=
    .bind (beside_note trivial) fun _ => .bind (hdebug _) fun _ => hdebug _
  rw [hdone] at hcreate hstopped
  obtain ⟨d₂, hd₂, hsource₂⟩ := hcreate.exists_display rfl
  obtain ⟨d, hd, hd'⟩ := (htold.of_run_eq htell).exists_display hd₂
  refine ⟨description, rig, d, hd, ?_, hd'.trans hsource₂, ?_, hsource⟩
  · cases houtcome : (Source.create.run (fresh description o rig)).1 with
    | ok _ => rfl
    | error e =>
      obtain ⟨_, ⟨⟩⟩ := hstopped e houtcome
  · obtain ⟨_, _, -, htell⟩ := bind_eq_ok htell
    obtain ⟨_, _, -, htell⟩ := bind_eq_ok htell
    exact Log.known_of_debug htell

lemma orderly_of_make (h : (make o).run s = (.ok (), s₀)) : Orderly s₀ := by
  obtain ⟨description, rig, d, hd, -, hsource, -⟩ := source_of_make h
  exact ⟨d, hd, hsource ▸ (Source.triple_create.of_run (idle_fresh description o rig)).1⟩

/-- Whatever signals a display gets after it was made, at most one pipeline of its source is in use,
also while the next signal is handled; at most one timer is running that will make a new one, and
then the source holds none; and once the display was closed nothing is played any more. -/
theorem one_pipeline_in_use {o : Options} {s s₀ : Session} (hmade : (make o).run s = (.ok (), s₀))
    (signals : List Signal) :
    ∃ d, (reactAll signals s₀).display = some d ∧
      Source.busy d.source.pipelines ≤ 1 ∧
      d.source.starts ≤ 1 ∧
      (0 < d.source.starts → d.source.current = none) ∧
      (∀ g : Signal,
        (g.handler.run d.source).2.1.pipelines =
            (g.handler.run d.source).2.2.foldl Source.shown d.source.pipelines ∧
          ∀ done, done <+: (g.handler.run d.source).2.2 →
            Source.busy (done.foldl Source.shown d.source.pipelines) ≤ 1) ∧
      (Signal.tearDown ∈ signals → ∀ more, ∃ new,
        (reactAll (signals ++ more) s₀).bench.journal =
            (reactAll signals s₀).bench.journal ++ new ∧
          Event.setState PipelineState.playing.name ∉ new) := by
  have horderly := orderly_of_make hmade
  obtain ⟨d, hd, htidy⟩ := horderly.reactAll signals
  refine ⟨d, hd, htidy.busy_le, htidy.starts_le, fun hs => (htidy.waiting_of_starts hs).current,
    fun g => ?_, fun hmem more => ?_⟩
  · obtain ⟨-, hseen⟩ := htidy.settled_run g
    exact ⟨hseen.pipelines, hseen.one⟩
  · obtain ⟨pipelines, hclosed⟩ := closed_of_mem horderly hmem
    obtain ⟨-, new, hnew, hall⟩ := hclosed.reactAll more
    refine ⟨new, ?_, fun hplay => hall _ hplay rfl⟩
    rw [← hnew, reactAll, List.foldl_append]
    rfl

theorem one_pipeline_in_use_recovering :
    ∃ s₀, (make { restarts := true }).run { verbosity := some 0 } = (.ok (), s₀) ∧
      ∃ d, (reactAll [.startUp, .underrun, .timer 0, .timer 0, .streamEnded, .tearDown] s₀).display =
          some d ∧
        Source.busy d.source.pipelines ≤ 1 ∧ d.source.starts ≤ 1 ∧
        ∀ more, ∃ new,
          (reactAll ([.startUp, .underrun, .timer 0, .timer 0, .streamEnded, .tearDown] ++ more)
              s₀).bench.journal =
            (reactAll [.startUp, .underrun, .timer 0, .timer 0, .streamEnded, .tearDown]
              s₀).bench.journal ++ new ∧
          Event.setState PipelineState.playing.name ∉ new := by
  have hmade : (make { restarts := true }).run { verbosity := some 0 } =
      (.ok (), ((make { restarts := true }).run { verbosity := some 0 }).2) := rfl
  obtain ⟨d, hd, hone, hstarts, -, -, hplayed⟩ := one_pipeline_in_use hmade
    [.startUp, .underrun, .timer 0, .timer 0, .streamEnded, .tearDown]
  exact ⟨_, hmade, d, hd, hone, hstarts, hplayed (by simp)⟩

end Display

end SetTop

/-! ### What leaves the mailbox alone

Handling a signal of the source and letting a sample go on to the output change neither what waits for
the script nor whether the level of messages is known.
-/

namespace SetTop.Display

open Act
open Source (Signal)

/-- The mailbox stays as it is, and a level that is known stays known. -/
structure Unread (s s' : Session) : Prop where
  mailbox : s'.display.map mailbox = s.display.map mailbox
  known : Log.StaysKnown s s'

instance : Std.Refl Unread := ⟨fun _ => ⟨rfl, id⟩⟩

instance : Trans Unread Unread Unread where
  trans h₁ h₂ := ⟨h₂.mailbox.trans h₁.mailbox, fun h => h₂.known (h₁.known h)⟩

lemma unread_modifyBench (f : Bench → Bench) : Moves Unread (modifyBench f) := fun _ => ⟨rfl, id⟩

lemma unread_note (e : Event) : Moves Unread (note e) := unread_modifyBench _

lemma unread_change {f : Display → Display} (hf : ∀ d, (f d).mailbox = d.mailbox) :
    Moves Unread (change f) := by
  intro s
  refine ⟨?_, id⟩
  change (s.display.map f).map mailbox = _
  rw [Option.map_map]
  exact congrArg (s.display.map ·) (funext hf)

variable {α : Type} (text : String)

lemma unread_of_aside {a : Act α} (ha : Moves Aside a) (hk : Moves Log.StaysKnown a) :
    Moves Unread a := by
  intro s
  refine ⟨?_, hk s⟩
  obtain ⟨settings, verbosity, err, hs⟩ := ha s
  rw [hs]

lemma unread_debug : Moves Unread (Log.debug text) :=
  unread_of_aside (Log.aside_debug text) (Log.staysKnown_debug text)

lemma unread_detail : Moves Unread (Log.detail text) :=
  unread_of_aside (Log.aside_detail text) (Log.staysKnown_detail text)

lemma unread_warn : Moves Unread (Log.warn text) :=
  unread_of_aside (Log.aside_warn text) (Log.staysKnown_message _)

/-- The session is the same but for its bench. -/
def OnBench (s s' : Session) : Prop := s' = { s with bench := s'.bench }

instance : Std.Refl OnBench := ⟨fun _ => rfl⟩

instance : Trans OnBench OnBench OnBench where
  trans h₁ h₂ := by
    rw [OnBench, h₁] at h₂
    exact h₂

lemma onBench_draw (d : Drawing) : Moves OnBench (draw d) := fun _ => rfl

lemma onBench_timeOfDay : Moves OnBench timeOfDay := by
  have hclock : Moves OnBench clock := fun _ => rfl
  have hcalendar : Moves OnBench calendarClock :=
    .bind hclock fun t => .bind (.ofExcept _) fun _ => .ite (.pure _) (.throw _)
  exact .bind (.bind hcalendar fun _ => .pure _) fun _ => .pure _

lemma onBench_drawText (x y : Num) (colour : List Num) (scale : Num) :
    Moves OnBench (drawText text x y colour scale) :=
  .ite (.pure ()) (.bind (onBench_draw _) fun _ => onBench_draw _)

lemma onBench_drawCaption (now : Option Num) (row : Nat) (c : Caption) :
    Moves OnBench (drawCaption now row c) := by
  cases now with
  | some t => exact .bind (.ofExcept _) fun _ => onBench_drawText _ _ _ _ _
  | none => exact .bind (.throw _) fun _ => onBench_drawText _ _ _ _ _

lemma onBench_drawMark (m : Mark) : Moves OnBench (drawMark m) := by
  rw [drawMark]
  cases m.region with
  | none => exact .pure ()
  | some r => exact .bind (onBench_draw _) fun _ => onBench_drawText _ _ _ _ _

lemma onBench_paint (x : Sample) (captions : List Caption) (marks : List Mark) :
    Moves OnBench (paint x captions marks) := by
  refine .bind (.ofExcept _) fun _ => .bind onBench_timeOfDay fun _ => ?_
  refine .bind (onBench_drawText _ _ _ _ _) fun _ => ?_
  exact .bind (.forM fun c _ => onBench_drawCaption _ _ _) fun _ => .forM fun m _ => onBench_drawMark m

lemma unread_of_onBench {a : Act α} (ha : Moves OnBench a) : Moves Unread a := by
  intro s
  rw [ha s]
  exact ⟨rfl, id⟩

lemma unread_pushSample (x : Sample) : Moves Unread (pushSample x) := by
  refine .bind moves_current fun d => .bind (unread_change fun _ => rfl) fun _ => ?_
  refine .bind (.ofExcept _) fun shown => .bind (unread_of_onBench (onBench_paint _ _ _)) fun _ => ?_
  exact .ite (.throw _) (.pure ())

lemma unread_carryOut (a : SourceAction) : Moves Unread (carryOut a) := by
  cases a with
  | warn text => exact unread_warn text
  | detail text => exact unread_detail text
  | _ => exact unread_note _

lemma unread_handle (h : Source.Handler α) : Moves Unread (handle h) :=
  .bind moves_current fun _ => .bind (unread_change fun _ => rfl) fun _ =>
    .bind (.forM fun a _ => unread_carryOut a) fun _ => .ofExcept _

lemma unread_react (g : Signal) : Moves Unread (react g) := by
  have hhandle := unread_handle g.handler
  cases g with
  | startUp =>
    refine .bind hhandle fun _ => .bind (unread_note _) fun _ => ?_
    exact .bind (unread_change fun _ => rfl) fun _ => unread_note _
  | tearDown => exact .bind hhandle fun _ => moves_ending unread_debug fun e _ => unread_note e
  | _ => exact hhandle

end SetTop.Display
