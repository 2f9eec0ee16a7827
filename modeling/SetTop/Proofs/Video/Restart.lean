import Mathlib.Tactic.Lemma
import SetTop.Video.Source

/-!
Losing the video and getting it back: no stray pipelines.

A source that is not closed either holds the newest pipeline, and then no timer is set that would
make another; or it holds none, every pipeline is stopped, and at most one timer will make the next.
`Tidy` is this, with the third possibility that closing was stopped half way.

Handlers pass through states that are neither, so they are followed step by step: `Observed` says
that the pipelines are what the world saw, and that at no point more than one of them was in use.
-/

/-! ### Reasoning about the handlers of a source

A handler runs on a trail: the state of the source and what has been done to the world so far. The
rules of `Triple` follow the constructs that handlers are written with, so that the proof about a
handler is the handler read line by line. A handler that is stopped is not excused: the third
assertion says where it may be stopped.
-/

namespace SetTop.Source.Handler

/-- A source, and what has been done to the world. -/
abbrev Trail := Source × List SourceAction

variable {α β : Type} (h : Handler α)

/-- Runs a handler from the middle of a trail. -/
def on (p : Trail) : Except Fault α × Trail := Id.run (StateT.run (ExceptT.run h) p)

lemma run_eq_on (s : Source) : h.run s = h.on (s, []) := rfl

lemma on_bind (f : α → Handler β) (p : Trail) : (h >>= f).on p =
      match h.on p with
      | (.ok v, p') => (f v).on p'
      | (.error e, p') => (.error e, p') := by
  simp only [on, ExceptT.run, bind, ExceptT.bind, ExceptT.mk, StateT.run, StateT.bind]
  cases h p with
  | mk r p' => cases r <;> rfl

/-- From where `P` holds, the handler ends where `Q` holds of its result, or is stopped where `E`
holds. -/
def Triple (P : Trail → Prop) (h : Handler α) (Q : α → Trail → Prop) (E : Trail → Prop) : Prop :=
  ∀ p, P p →
    match h.on p with
    | (.ok v, p') => Q v p'
    | (.error _, p') => E p'

section Rules

variable {P P' E : Trail → Prop} {Q : α → Trail → Prop}

namespace Triple

variable {h : Handler α}

lemma pre (ht : Triple P h Q E) (hp : ∀ p, P' p → P p) : Triple P' h Q E :=
  fun p h' => ht p (hp p h')

lemma post {Q' : α → Trail → Prop} (ht : Triple P h Q' E) (hq : ∀ v p, Q' v p → Q v p) :
    Triple P h Q E := by
  intro p hp
  have hend := ht p hp
  revert hend
  cases h.on p with
  | mk r p' =>
    cases r with
    | ok v => exact hq v p'
    | error e => exact id

lemma stopped {E' : Trail → Prop} (ht : Triple P h Q E') (he : ∀ p, E' p → E p) : Triple P h Q E := by
  intro p hp
  have hend := ht p hp
  revert hend
  cases h.on p with
  | mk r p' =>
    cases r with
    | ok v => exact id
    | error e => exact he p'

lemma pure {v : α} (hq : ∀ p, P p → Q v p) : Triple P (Pure.pure v) Q E := hq

lemma throw {e : Fault} (he : ∀ p, P p → E p) : Triple P (MonadExcept.throw e) Q E := he

lemma absent (he : ∀ p, P p → E p) : Triple P Handler.absent Q E := he

lemma bind {R : β → Trail → Prop} {h : Handler β} {f : β → Handler α} (hh : Triple P h R E)
    (hf : ∀ v, Triple (R v) (f v) Q E) : Triple P (h >>= f) Q E := by
  intro p hp
  have hstep := hh p hp
  rw [on_bind]
  rcases hrun : h.on p with ⟨r, p'⟩
  rw [hrun] at hstep
  cases r with
  | ok v => exact hf v p' hstep
  | error e => exact hstep

lemma look {f : Source → Handler α}
    (hf : ∀ s, Triple (fun p => P p ∧ p.1 = s) (f s) Q E) : Triple P (source >>= f) Q E := by
  intro p hp
  exact hf p.1 p ⟨hp, rfl⟩

lemma change {f : Source → Source} {Q : Unit → Trail → Prop}
    (hq : ∀ s done, P (s, done) → Q () (f s, done)) : Triple P (Handler.change f) Q E :=
  fun p hp => hq p.1 p.2 hp

lemma act {a : SourceAction} {Q : Unit → Trail → Prop}
    (hq : ∀ s done, P (s, done) → Q () (s, done ++ [a])) : Triple P (Handler.act a) Q E :=
  fun p hp => hq p.1 p.2 hp

lemma ite {c : Prop} [Decidable c] {h' : Handler α} (ht : c → Triple P h Q E)
    (he : ¬c → Triple P h' Q E) : Triple P (if c then h else h') Q E := by
  split
  · exact ht ‹_›
  · exact he ‹_›

lemma needElement {name : String} {Q : Unit → Trail → Prop} (hq : ∀ p, P p → Q () p)
    (he : ∀ p, P p → E p) : Triple P (Handler.needElement name) Q E :=
  .look fun _ => .ite (fun _ => .absent fun p hp => he p hp.1) fun _ => .pure fun p hp => hq p hp.1

lemma of_run {I : Trail → Prop} {s : Source} (ht : Triple P h (fun _ => I) I) (hs : P (s, [])) :
    I (h.run s).2 := by
  have hend := ht (s, []) hs
  rw [run_eq_on]
  revert hend
  rcases h.on (s, []) with ⟨e | v, p⟩ <;> exact id

end Triple

/-- The handler keeps an assertion, even where it is stopped. -/
def Keeps (I : Trail → Prop) (h : Handler α) : Prop := Triple I h (fun _ => I) I

namespace Keeps

variable {I : Trail → Prop}

lemma bind {h : Handler β} {f : β → Handler α} (hh : Keeps I h) (hf : ∀ v, Keeps I (f v)) :
    Keeps I (h >>= f) :=
  Triple.bind hh hf

lemma ite {c : Prop} [Decidable c] {h h' : Handler α} (ht : Keeps I h) (he : Keeps I h') :
    Keeps I (if c then h else h') :=
  Triple.ite (fun _ => ht) fun _ => he

lemma pure (v : α) : Keeps I (Pure.pure v) := Triple.pure fun _ hp => hp

lemma needElement (name : String) : Keeps I (Handler.needElement name) :=
  Triple.needElement (fun _ hp => hp) fun _ hp => hp

lemma look {f : Source → Handler α} (hf : ∀ s, Keeps I (f s)) : Keeps I (source >>= f) :=
  Triple.look fun s => (hf s).pre fun _ hp => hp.1

lemma forM {γ : Type} {f : γ → Handler Unit} {l : List γ} (hf : ∀ x ∈ l, Keeps I (f x)) :
    Keeps I (l.forM f) := by
  induction l with
  | nil => exact .pure ()
  | cons x l ih =>
    exact .bind (hf x (by simp)) fun _ => ih fun y hy => hf y (by simp [hy])

end Keeps

end Rules

end SetTop.Source.Handler

namespace SetTop.Source

open Handler

/-- How many pipelines are not stopped. -/
def busy (pipelines : List PipelineState) : Nat := pipelines.countP (· ≠ .null)

/-- How many timers are running that will make a new pipeline. -/
def starts (s : Source) : Nat := s.timers.countP (·.2 = .start)

/-- The pipelines after something was done to the world. Only the newest one changes its state. -/
def shown (pipelines : List PipelineState) : SourceAction → List PipelineState
  | .launch _ => pipelines ++ [.null]
  | .setState state => pipelines.set (pipelines.length - 1) state
  | _ => pipelines

@[simp] lemma busy_append (ps qs : List PipelineState) : busy (ps ++ qs) = busy ps + busy qs :=
  List.countP_append

lemma busy_singleton_le (p : PipelineState) : busy [p] ≤ 1 := List.countP_le_length

/-! ### What pipelines have no part in -/

/-- Something that the pipelines do not show. -/
def Silent (a : SourceAction) : Prop := ∀ pipelines, shown pipelines a = pipelines

lemma starts_append (s : Source) (timer : Nat × Timer) (n : Nat) :
    Source.starts { s with timers := s.timers ++ [timer], timersSet := n } =
      s.starts + if timer.2 = .start then 1 else 0 := by
  simp [Source.starts]

/-- An assertion that is about pipelines only: messages, the guard, and timers that make no pipeline
may come, and all timers may go. -/
structure Unconcerned (I : Trail → Prop) : Prop where
  act : ∀ {s done a}, Silent a → I (s, done) → I (s, done ++ [a])
  change : ∀ {s s' : Source} {done}, s'.pipelines = s.pipelines → s'.current = s.current →
    s'.closing = s.closing → s'.starts ≤ s.starts → I (s, done) → I (s', done)

namespace Unconcerned

variable {I : Trail → Prop}

section Keeping

variable (hI : Unconcerned I)

include hI

lemma keeps_act {a : SourceAction} (ha : Silent a) : Keeps I (Handler.act a) :=
  Triple.act fun _ _ => hI.act ha

lemma keeps_guard (guard : Option (Option Nat)) :
    Keeps I (Handler.change fun s => { s with guard := guard }) :=
  Triple.change fun _ _ => hI.change rfl rfl rfl (Nat.le_refl _)

lemma keeps_armGuard : Keeps I armGuard := by
  refine .look fun s => ?_
  split
  · exact Triple.absent fun _ hp => hp
  · refine .bind (.bind (hI.keeps_act fun _ => rfl) fun _ => .look fun _ => ?_) fun _ =>
      hI.keeps_guard _
    refine .bind (Triple.change fun s done => hI.change rfl rfl rfl ?_) fun _ => .pure _
    rw [starts_append]
    exact Nat.le_refl _

lemma keeps_underrun : Keeps I underrun := by
  refine .look fun s => ?_
  split
  · exact hI.keeps_act fun _ => rfl
  · exact .bind (hI.keeps_act fun _ => rfl) fun _ => .bind (hI.keeps_guard _) fun _ =>
      hI.keeps_armGuard

lemma keeps_cancelTimer (id : Nat) : Keeps I (cancelTimer id) := by
  refine .bind (hI.keeps_act fun _ => rfl) fun _ => Triple.change fun s done hp => ?_
  split
  · exact hp
  · refine hI.change (s := s) rfl rfl rfl ?_ hp
    exact List.Sublist.countP_le List.filter_sublist

lemma keeps_running : Keeps I running := by
  refine .look fun s => ?_
  split
  · exact hI.keeps_act fun _ => rfl
  · next timer _ =>
    refine .bind (hI.keeps_act fun _ => rfl) fun _ => ?_
    cases timer with
    | none => exact hI.keeps_guard none
    | some id => exact .bind (hI.keeps_cancelTimer id) fun _ => hI.keeps_guard none

lemma keeps_streamEnded (hr : Keeps I restart) : Keeps I streamEnded :=
  .look fun _ => .ite (.bind (hI.keeps_act fun _ => rfl) fun _ => hr) (.pure ())

end Keeping

end Unconcerned

/-! ### What the world sees -/

/-- The pipelines are what the world saw of them since they were `start`, and it never saw more than
one in use. -/
structure Observed (start : List PipelineState) (p : Trail) : Prop where
  pipelines : p.1.pipelines = p.2.foldl shown start
  one : ∀ done, done <+: p.2 → busy (done.foldl shown start) ≤ 1

variable {start : List PipelineState} {s s' : Source} {done : List SourceAction}

lemma Observed.nil (h : busy s.pipelines ≤ 1) : Observed s.pipelines (s, []) where
  pipelines := rfl
  one := by
    intro done hdone
    obtain rfl := List.prefix_nil.1 hdone
    exact h

lemma Observed.busy_le (h : Observed start (s, done)) : busy s.pipelines ≤ 1 := by
  rw [h.pipelines]
  exact h.one done (List.prefix_refl done)

lemma Observed.congr (h : Observed start (s, done)) (hp : s'.pipelines = s.pipelines) :
    Observed start (s', done) :=
  ⟨hp.trans h.pipelines, h.one⟩

variable {a : SourceAction} {n : Nat} {state : PipelineState} {P : Source → Prop} {E : Trail → Prop}

lemma Observed.snoc (h : Observed start (s, done)) (hp : s'.pipelines = shown s.pipelines a)
    (hb : busy s'.pipelines ≤ 1) : Observed start (s', done ++ [a]) := by
  have hall : s'.pipelines = (done ++ [a]).foldl shown start := by
    rw [hp, h.pipelines, List.foldl_append]
    rfl
  refine ⟨hall, fun some hsome => ?_⟩
  rcases List.prefix_concat_iff.1 hsome with rfl | hsome
  · rwa [← hall]
  · exact h.one some hsome

lemma Observed.snoc_silent (h : Observed start (s, done)) (ha : shown s.pipelines a = s.pipelines) :
    Observed start (s, done ++ [a]) :=
  h.snoc ha.symm h.busy_le

/-! ### Phases -/

/-- The newest pipeline is number `n`, it is in the given state, and the others are stopped. -/
def Newest (n : Nat) (state : PipelineState) (s : Source) : Prop :=
  ∃ older, s.pipelines = older ++ [state] ∧ older.length = n ∧ busy older = 0

lemma Newest.busy_eq (h : Newest n state s) : busy s.pipelines = busy [state] := by
  obtain ⟨older, hp, -, hidle⟩ := h
  rw [hp, busy_append, hidle, Nat.zero_add]

lemma Newest.busy_le (h : Newest n state s) : busy s.pipelines ≤ 1 :=
  h.busy_eq ▸ busy_singleton_le state

lemma Newest.last (h : Newest n state s) : s.pipelines.length - 1 = n := by
  obtain ⟨older, hp, hlen, -⟩ := h
  rw [hp, List.length_append, hlen]
  rfl

lemma Newest.set (h : Newest n state s) (state' : PipelineState) :
    Newest n state' { s with pipelines := s.pipelines.set n state' } := by
  obtain ⟨older, hp, hlen, hidle⟩ := h
  refine ⟨older, ?_, hlen, hidle⟩
  rw [hp, ← hlen, List.set_append_right _ _ (Nat.le_refl _), Nat.sub_self]
  rfl

/-- The source holds its newest pipeline, and no new one is coming. -/
structure Holding (n : Nat) (s : Source) : Prop where
  current : s.current = some n
  opened : s.closing = false
  starts : s.starts = 0

/-- The source holds no pipeline. At most one is coming, and until it comes, or until the source is
closed, all are stopped. -/
structure Waiting (s : Source) : Prop where
  current : s.current = none
  starts : s.starts ≤ 1
  busy : busy s.pipelines ≤ 1
  stopped : s.closing = false ∨ 0 < s.starts → Source.busy s.pipelines = 0

/-- Between two events. -/
def Tidy (s : Source) : Prop := (∃ n state, Newest n state s ∧ Holding n s) ∨ Waiting s

lemma Tidy.busy_le (h : Tidy s) : busy s.pipelines ≤ 1 := by
  rcases h with ⟨n, state, h, -⟩ | h
  · exact h.busy_le
  · exact h.busy

lemma Tidy.starts_le (h : Tidy s) : s.starts ≤ 1 := by
  rcases h with ⟨n, state, -, h⟩ | h
  · rw [h.starts]
    exact Nat.zero_le 1
  · exact h.starts

lemma Tidy.waiting (h : Tidy s) (hc : s.current = none) : Waiting s := by
  rcases h with ⟨n, state, -, h⟩ | h
  · exact absurd (h.current.symm.trans hc) (by simp)
  · exact h

lemma Tidy.waiting_of_starts (h : Tidy s) (hs : 0 < s.starts) : Waiting s := by
  rcases h with ⟨n, state, -, h⟩ | h
  · exact absurd h.starts (Nat.ne_of_gt hs)
  · exact h

lemma Tidy.holding (h : Tidy s) (hc : s.current = some n) :
    (∃ state, Newest n state s) ∧ Holding n s := by
  rcases h with ⟨m, state, hnew, h⟩ | h
  · obtain rfl : m = n := Option.some.inj (h.current.symm.trans hc)
    exact ⟨⟨state, hnew⟩, h⟩
  · exact absurd (h.current.symm.trans hc) (by simp)

lemma Tidy.of_starts_le (h : Tidy s) (hp : s'.pipelines = s.pipelines)
    (hc : s'.current = s.current) (hd : s'.closing = s.closing) (ht : s'.starts ≤ s.starts) :
    Tidy s' := by
  rcases h with ⟨n, state, hnew, h⟩ | h
  · refine .inl ⟨n, state, ?_, hc.trans h.current, hd.trans h.opened, ?_⟩
    · rwa [Newest, hp]
    · exact Nat.le_zero.1 (h.starts ▸ ht)
  · refine .inr ⟨hc.trans h.current, Nat.le_trans ht h.starts, hp ▸ h.busy, fun hs => ?_⟩
    rw [hp]
    exact h.stopped (hs.imp (hd ▸ ·) fun hpos => Nat.lt_of_lt_of_le hpos ht)

/-! ### The steps of handlers -/

/-- A handler is between two steps, and nothing is left half done. -/
def Settled (start : List PipelineState) (p : Trail) : Prop := Tidy p.1 ∧ Observed start p

/-- A handler has the newest pipeline at hand, while `P` holds of the rest of the source. -/
def Engaged (start : List PipelineState) (n : Nat) (P : Source → Prop) (p : Trail) : Prop :=
  (∃ state, Newest n state p.1) ∧ P p.1 ∧ Observed start p

lemma Engaged.settled {p : Trail} (h : Engaged start n (Holding n) p) : Settled start p := by
  obtain ⟨⟨state, hnew⟩, hhold, hseen⟩ := h
  exact ⟨.inl ⟨n, state, hnew, hhold⟩, hseen⟩

lemma triple_act_silent (ha : Silent a) : Triple (fun p => P p.1 ∧ Observed start p) (act a)
      (fun _ p => P p.1 ∧ Observed start p) E :=
  .act fun _ _ hp => ⟨hp.1, hp.2.snoc_silent (ha _)⟩

lemma unconcerned_settled : Unconcerned (Settled start) where
  act ha h := ⟨h.1, h.2.snoc_silent (ha _)⟩
  change hp hc hd ht h := ⟨h.1.of_starts_le hp hc hd ht, h.2.congr hp⟩

lemma triple_pipeline :
    Triple (Settled start) pipeline (fun n => Engaged start n (Holding n)) (Settled start) := by
  refine .look fun s => ?_
  split
  · next n hn =>
    rintro p ⟨⟨htidy, hseen⟩, rfl⟩
    exact ⟨(htidy.holding hn).1, (htidy.holding hn).2, hseen⟩
  · exact .absent fun p hp => hp.1

lemma triple_bring (n : Nat) (state : PipelineState) (hP : ∀ s ps, P s → P { s with pipelines := ps }) :
    Triple (Engaged start n P) (bring n state)
      (fun _ p => Newest n state p.1 ∧ P p.1 ∧ Observed start p) E := by
  refine .bind (R := fun _ p => ∃ done, p.2 = done ++ [.setState state] ∧
    Engaged start n P (p.1, done)) (.act fun s done hp => ⟨done, rfl, hp⟩) fun _ => .change ?_
  rintro s _ ⟨done, rfl, ⟨old, hold⟩, hrest, hseen⟩
  have hnew := hold.set state
  refine ⟨hnew, hP s _ hrest, hseen.snoc ?_ hnew.busy_le⟩
  rw [shown, hold.last]

lemma holding_pipelines (s : Source) (ps : List PipelineState) (h : Holding n s) :
    Holding n { s with pipelines := ps } := ⟨h.current, h.opened, h.starts⟩

lemma triple_play_bring (n : Nat) (state : PipelineState) :
    Triple (Engaged start n (Holding n)) (bring n state)
      (fun _ => Engaged start n (Holding n)) (Settled start) :=
  (triple_bring n state holding_pipelines).post fun _ _ hp => ⟨⟨state, hp.1⟩, hp.2⟩

lemma keeps_play : Keeps (Settled start) play := by
  refine Triple.bind triple_pipeline fun n => .bind (triple_play_bring n .paused) fun _ => ?_
  have hfound (name : String) :
      Triple (Engaged start n (Holding n)) (needElement name)
        (fun _ => Engaged start n (Holding n)) (Settled start) :=
    .needElement (fun _ hp => hp) fun _ hp => hp.settled
  have hact {a : SourceAction} (ha : ∀ ps, shown ps a = ps) :
      Triple (Engaged start n (Holding n)) (act a)
        (fun _ => Engaged start n (Holding n)) (Settled start) :=
    .act fun _ _ hp => ⟨hp.1, hp.2.1, hp.2.2.snoc_silent (ha _)⟩
  have hplaying : Triple (Engaged start n (Holding n)) (bring n .playing)
      (fun _ => Settled start) (Settled start) :=
    (triple_play_bring n .playing).post fun _ _ hp => hp.settled
  refine .look fun s => .pre ?_ fun p hp => hp.1
  refine .ite (fun _ => ?_) fun _ => hplaying
  refine .bind (hfound _) fun _ => .bind (hact fun _ => rfl) fun _ => ?_
  exact .bind (hfound _) fun _ => .bind (hact fun _ => rfl) fun _ => hplaying

/-! ### Timers -/

lemma triple_addTimer {Q : Source → Prop} (t : Timer)
    (hq : ∀ s id n, P s → Q { s with timers := s.timers ++ [(id, t)], timersSet := n }) :
    Triple (fun p => P p.1 ∧ Observed start p) (addTimer t)
      (fun _ p => Q p.1 ∧ Observed start p) E := by
  refine .bind (triple_act_silent fun _ => rfl) fun _ => .look fun s => .pre ?_ fun p hp => hp.1
  refine .bind (.change ?_) fun _ => .pure fun _ hp => hp
  intro s' done hp
  exact ⟨hq s' _ _ hp.1, hp.2.congr rfl⟩

/-! ### Handlers, one by one -/

lemma keeps_restart : Keeps (Settled start) restart := by
  refine .bind (unconcerned_settled.keeps_act fun _ => rfl) fun _ =>
    Triple.bind triple_pipeline fun n => ?_
  refine .bind (triple_bring n .null holding_pipelines) fun _ => ?_
  refine .bind (R := fun _ p => (Waiting p.1 ∧ p.1.starts = 0 ∧ p.1.closing = false) ∧
    Observed start p) (.change ?_) fun _ => ?_
  · rintro s done ⟨hnew, hhold, hseen⟩
    have hidle : busy s.pipelines = 0 := hnew.busy_eq
    refine ⟨⟨⟨rfl, ?_, hseen.busy_le, fun _ => hidle⟩, hhold.starts, hhold.opened⟩, hseen.congr rfl⟩
    exact hhold.starts ▸ Nat.zero_le 1
  · refine .bind
      (triple_addTimer (P := fun s => Waiting s ∧ s.starts = 0 ∧ s.closing = false) .start ?_)
      fun _ => .pure fun _ hp => hp
    rintro s id n ⟨hwait, hnone, hopen⟩
    refine .inr ⟨hwait.current, ?_, hwait.busy, fun _ => hwait.stopped (.inl hopen)⟩
    rw [starts_append, hnone]
    exact Nat.le_refl 1

/-- The source holds no pipeline, and none is coming. -/
def Idle (s : Source) : Prop := Waiting s ∧ s.starts = 0

lemma triple_create : Triple (fun p => (Idle p.1 ∧ p.1.closing = false) ∧ Observed start p) create
      (fun _ => Settled start) (Settled start) := by
  have hlast : Keeps (Settled start) (do
      needElement "appsink"
      if (← source).restarts then needElement "_stbt_user_data_queue") :=
    .bind (.needElement _) fun _ => .look fun _ => .ite (.needElement _) (.pure ())
  refine .look fun s => .bind (R := fun _ p => ∃ done, p.2 = done ++ [.launch s.description] ∧
    (Idle p.1 ∧ p.1.closing = false) ∧ Observed start (p.1, done)) ?_ fun _ => ?_
  · exact .act fun s done hp => ⟨done, rfl, hp.1⟩
  refine .bind (.change ?_) fun _ => hlast
  rintro s _ ⟨done, rfl, ⟨⟨hwait, hnone⟩, hopen⟩, hseen⟩
  have hidle : busy s.pipelines = 0 := hwait.stopped (.inl hopen)
  refine ⟨.inl ⟨s.pipelines.length, .null, ⟨_, rfl, rfl, hidle⟩, ⟨rfl, hopen, hnone⟩⟩,
    hseen.snoc rfl ?_⟩
  rw [busy_append, hidle]
  exact Nat.zero_le 1

lemma triple_start : Triple (fun p => Idle p.1 ∧ Observed start p) Source.start
      (fun _ => Settled start) (Settled start) := by
  have hrest : Keeps (Settled start) (do
      play
      act (.warn "Restarted source pipeline")
      if (← source).restarts then armGuard) :=
    .bind keeps_play fun _ => .bind (unconcerned_settled.keeps_act fun _ => rfl) fun _ =>
      .look fun _ => .ite unconcerned_settled.keeps_armGuard (.pure ())
  refine .look fun s => .ite (fun _ => .pure fun p hp => ⟨.inr hp.1.1.1, hp.1.2⟩) fun hopen => ?_
  refine .bind ?_ fun _ =>
    .bind triple_create fun _ => hrest
  refine .pre (triple_act_silent (P := fun s => Idle s ∧ s.closing = false) fun _ => rfl) ?_
  rintro p ⟨⟨hidle, hseen⟩, rfl⟩
  exact ⟨⟨hidle, Bool.eq_false_iff.2 hopen⟩, hseen⟩

lemma starts_eraseIdx {index id : Nat} {t : Timer} (h : s.timers[index]? = some (id, t)) :
    Source.starts { s with timers := s.timers.eraseIdx index } +
      (if t = .start then 1 else 0) = s.starts := by
  obtain ⟨hlt, hget⟩ := List.getElem?_eq_some_iff.1 h
  have hsplit : s.timers = s.timers.take index ++ (id, t) :: s.timers.drop (index + 1) := by
    rw [← hget, ← List.drop_eq_getElem_cons hlt, List.take_append_drop]
  have hcount : s.starts = Source.starts
      { s with timers := s.timers.take index ++ (id, t) :: s.timers.drop (index + 1) } := by
    rw [← hsplit]
  rw [hcount]
  simp only [Source.starts, List.eraseIdx_eq_take_drop_succ, List.countP_append, List.countP_cons,
    decide_eq_true_eq]
  omega

lemma keeps_fire (index : Nat) : Keeps (Settled start) (fire index) := by
  refine Triple.look fun s => ?_
  split
  · exact .throw fun p hp => hp.1
  next id t htimer =>
    have herase := starts_eraseIdx htimer
    cases t with
    | restart =>
      refine .bind (.change ?_) fun _ => keeps_restart
      rintro _ done ⟨⟨htidy, hseen⟩, rfl⟩
      exact ⟨htidy.of_starts_le rfl rfl rfl (Nat.le_of_eq herase), hseen.congr rfl⟩
    | start =>
      refine .bind (.change ?_) fun _ => triple_start
      rintro s done ⟨⟨htidy, hseen⟩, rfl⟩
      have hone : Source.starts { s with timers := s.timers.eraseIdx index } + 1 = s.starts :=
        herase
      have hpos : 0 < s.starts := hone ▸ Nat.succ_pos _
      have hwait : Waiting s := htidy.waiting_of_starts hpos
      have hnone : Source.starts { s with timers := s.timers.eraseIdx index } = 0 := by
        have := hwait.starts
        omega
      refine ⟨⟨⟨hwait.current, hnone ▸ Nat.zero_le 1, hwait.busy, ?_⟩, hnone⟩,
        hseen.congr rfl⟩
      exact fun _ => hwait.stopped (.inr hpos)

/-- The source has let go of its pipeline for good. -/
structure Leaving (s : Source) : Prop where
  current : s.current = none
  closed : s.closing = true
  starts : s.starts = 0

lemma Leaving.waiting (h : Leaving s) (hb : busy s.pipelines ≤ 1) : Waiting s := by
  refine ⟨h.current, h.starts ▸ Nat.zero_le 1, hb, ?_⟩
  rw [h.closed, h.starts]
  rintro (hfalse | hfalse) <;> cases hfalse

lemma keeps_close : Keeps (Settled start) close := by
  refine Triple.look fun s => ?_
  cases hc : s.current with
  | none =>
    refine .bind (.change ?_) fun _ => Keeps.pure ()
    rintro _ done ⟨⟨htidy, hseen⟩, rfl⟩
    have hwait := htidy.waiting hc
    exact ⟨.inr ⟨rfl, hwait.starts, hwait.busy, fun h => hwait.stopped (h.imp_left nofun)⟩,
      hseen.congr rfl⟩
  | some n =>
    refine .bind (R := fun _ => Engaged start n Leaving) (.change ?_) fun _ => ?_
    · rintro _ done ⟨⟨htidy, hseen⟩, rfl⟩
      obtain ⟨hnew, hhold⟩ := htidy.holding hc
      exact ⟨hnew, ⟨rfl, rfl, hhold.starts⟩, hseen.congr rfl⟩
    -- wherever closing is stopped from here on, the pipeline is left as it is
    have hleft : ∀ p, Engaged start n Leaving p → Settled start p := fun p hp =>
      ⟨.inr (hp.2.1.waiting hp.2.2.busy_le), hp.2.2⟩
    have hstop : Triple (Engaged start n Leaving) (do
        needElement "appsink"
        bring n .null) (fun _ => Settled start) (Settled start) := by
      refine .bind (R := fun _ => Engaged start n Leaving)
        (.needElement (fun _ hp => hp) hleft) fun _ => ?_
      exact (triple_bring n .null fun s ps h => ⟨h.current, h.closed, h.starts⟩).post
        fun _ p hp => hleft p ⟨⟨.null, hp.1⟩, hp.2⟩
    refine .bind (R := fun _ => Engaged start n Leaving) ?_ fun _ => ?_
    · refine Triple.stopped (Keeps.forM fun name _ => ?_) hleft
      cases name with
      | some name => exact Triple.act fun _ _ hp => ⟨hp.1, hp.2.1, hp.2.2.snoc_silent rfl⟩
      | none => exact Triple.absent fun _ hp => hp
    cases (Rig.walk s.rig.sources).2 with
    | error f => exact .bind (.throw hleft) fun _ => hstop
    | ok _ => exact hstop

end SetTop.Source
