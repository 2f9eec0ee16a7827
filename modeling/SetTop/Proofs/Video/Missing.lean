import SetTop.Proofs.Video.Signals

/-!
Handlers that miss something.

The timer that restarts the source is not called off when the source lets its pipeline go for
another reason, and a source that is started anew sets the timer of its guard without asking whether
there is a guard. Both are stopped then. This module says after which signals that happens, and that
a display that was started is stopped nowhere else.

Handlers are followed with a known end (`Ends`). What they rely on are three facts about the source,
its `Standing`.
-/

namespace SetTop

namespace Source

open Handler

/-! ### Handlers with a known end -/

def missed : Fault := .foreign .attribute ""

/-- From the source the handler ends in the given way, and in a source with the given property. -/
def Ends {α : Type} (s : Source) (h : Handler α) (r : Except Fault α) (Q : Source → Prop) : Prop :=
  ∀ done, ∃ s' done', h.on (s, done) = (r, s', done') ∧ Q s'

namespace Ends

variable {α β : Type} {s : Source} {Q R : Source → Prop} {e : Fault}

lemma pure {v : α} (hq : Q s) : Ends s (Pure.pure v) (.ok v) Q := fun done => ⟨s, done, rfl, hq⟩

lemma absent (hq : Q s) : Ends s (Handler.absent : Handler α) (.error missed) Q :=
  fun done => ⟨s, done, rfl, hq⟩

lemma act {a : SourceAction} (hq : Q s) : Ends s (Handler.act a) (.ok ()) Q :=
  fun _ => ⟨s, _, rfl, hq⟩

lemma change {f : Source → Source} (hq : Q (f s)) : Ends s (Handler.change f) (.ok ()) Q :=
  fun done => ⟨f s, done, rfl, hq⟩

variable {r : Except Fault α} {h : Handler α} {f : α → Handler β} {name : String}

lemma look {f : Source → Handler α} (hf : Ends s (f s) r Q) : Ends s (source >>= f) r Q := hf

lemma bind {v : α} {r : Except Fault β} (hh : Ends s h (.ok v) R)
    (hf : ∀ s', R s' → Ends s' (f v) r Q) : Ends s (h >>= f) r Q := by
  intro done
  obtain ⟨s', done', hrun, hs'⟩ := hh done
  obtain ⟨s'', done'', hrun', hs''⟩ := hf s' hs' done'
  refine ⟨s'', done'', ?_, hs''⟩
  rw [on_bind, hrun]
  exact hrun'

lemma bind_stopped (hh : Ends s h (.error e) Q) : Ends s (h >>= f) (.error e) Q := by
  intro done
  obtain ⟨s', done', hrun, hs'⟩ := hh done
  refine ⟨s', done', ?_, hs'⟩
  rw [on_bind, hrun]

lemma needElement (hname : s.rig.missing.contains name = false) (hq : Q s) :
    Ends s (Handler.needElement name) (.ok ()) Q := by
  refine .look ?_
  rw [hname]
  exact .pure hq

lemma needElement_missed (hname : s.rig.missing.contains name = true) (hq : Q s) :
    Ends s (Handler.needElement name) (.error missed) Q := by
  refine .look ?_
  rw [hname]
  exact .absent hq

lemma run (hh : Ends s h r Q) : (h.run s).1 = r ∧ Q (h.run s).2.1 := by
  obtain ⟨s', done', hrun, hs'⟩ := hh []
  rw [run_eq_on, hrun]
  exact ⟨rfl, hs'⟩

end Ends

/-! ### What handlers rely on -/

/-- Whether a source holds a pipeline, whether it has a guard, and whether it is closing. -/
structure Standing where
  held : Bool
  guarded : Bool
  closing : Bool
deriving DecidableEq

def standing (s : Source) : Standing := ⟨s.current.isSome, s.guard.isSome, s.closing⟩

/-- The source restarts, and what its handlers look for in a pipeline is there. -/
structure Equipped (s : Source) : Prop where
  restarts : s.restarts = true
  sink : s.rig.missing.contains "appsink" = false
  queue : s.rig.missing.contains "_stbt_user_data_queue" = false
  frames : s.rig.live = true → s.rig.missing.contains "_stbt_raw_frames_queue" = false

variable {s' : Source}

lemma Equipped.congr {s : Source} (h : s.Equipped) (hr : s'.restarts = s.restarts)
    (hg : s'.rig = s.rig) : s'.Equipped :=
  ⟨hr ▸ h.restarts, hg ▸ h.sink, hg ▸ h.queue, hg ▸ h.frames⟩

/-- An equipped source with the given standing. -/
structure Stands (v : Standing) (s : Source) : Prop where
  standing : s.standing = v
  equipped : s.Equipped

variable {s : Source} {v : Standing} (past : List Happening)

section Standing

variable (h : Stands v s)

include h

lemma Stands.held : s.current.isSome = v.held := h.standing ▸ rfl

lemma Stands.guarded : s.guard.isSome = v.guarded := h.standing ▸ rfl

lemma Stands.closing : s.closing = v.closing := h.standing ▸ rfl

lemma Stands.congr {v' : Standing} (hheld : s'.current.isSome = v'.held)
    (hguarded : s'.guard.isSome = v'.guarded) (hclosing : s'.closing = v'.closing)
    (hr : s'.restarts = s.restarts) (hg : s'.rig = s.rig) : Stands v' s' := by
  refine ⟨?_, h.equipped.congr hr hg⟩
  rw [Source.standing, hheld, hguarded, hclosing]

/-! ### Parts of handlers -/

lemma ends_addTimer (t : Timer) : Ends s (addTimer t) (.ok s.nextTimer) (Stands v) := by
  refine .bind (.act rfl) ?_
  rintro _ rfl
  exact .look <| .bind (.change (h.congr h.held h.guarded h.closing rfl rfl)) fun _ h => .pure h

lemma ends_bring (n : Nat) (state : PipelineState) : Ends s (bring n state) (.ok ()) (Stands v) :=
  .bind (.act h) fun _ h => .change (h.congr h.held h.guarded h.closing rfl rfl)

lemma ends_pipeline_held (hv : v.held = true) : ∃ n, Ends s pipeline (.ok n) (Stands v) := by
  obtain ⟨n, hn⟩ := Option.isSome_iff_exists.1 (h.held.trans hv)
  refine ⟨n, .look ?_⟩
  rw [hn]
  exact .pure h

lemma ends_pipeline_missed (hv : v.held = false) : Ends s pipeline (.error missed) (Stands v) := by
  have hnone : s.current = none := by simpa using h.held.trans hv
  refine .look ?_
  rw [hnone]
  exact .absent h

lemma ends_create : Ends s create (.ok ()) (Stands { v with held := true }) := by
  refine .look <| .bind (.act h) fun s h => ?_
  refine .bind (R := Stands { v with held := true })
    (.change (h.congr rfl h.guarded h.closing rfl rfl)) fun s h => ?_
  refine .bind (.needElement h.equipped.sink h) fun s h => .look ?_
  rw [h.equipped.restarts]
  exact .needElement h.equipped.queue h

lemma ends_play (hv : v.held = true) : Ends s play (.ok ()) (Stands v) := by
  obtain ⟨n, hn⟩ := ends_pipeline_held h hv
  refine .bind hn fun s h => .bind (ends_bring h n .paused) fun s h => .look ?_
  split
  · next hlive =>
    refine .bind (.needElement (h.equipped.frames hlive) h) fun s h => .bind (.act h) fun s h => ?_
    refine .bind (.needElement h.equipped.sink h) fun s h => .bind (.act h) fun s h => ?_
    exact ends_bring h n .playing
  · exact ends_bring h n .playing

lemma ends_armGuard : Ends s armGuard (if v.guarded then .ok () else .error missed) (Stands v) := by
  refine .look ?_
  cases hguard : s.guard with
  | none =>
    have hv : v.guarded = false := by rw [← h.guarded, hguard]; rfl
    rw [hv]
    exact .absent h
  | some timer =>
    have hv : v.guarded = true := by rw [← h.guarded, hguard]; rfl
    rw [hv]
    exact .bind (ends_addTimer h .restart) fun s h => .change (h.congr h.held hv.symm h.closing rfl rfl)

/-! ### Handlers -/

lemma ends_restart :
    Ends s restart (if v.held then .ok () else .error missed) (Stands { v with held := false }) := by
  refine .bind (.act h) fun s h => ?_
  cases hv : v.held with
  | false =>
    have hsame : v = { v with held := false } := by rw [← hv]
    exact .bind_stopped (hsame ▸ ends_pipeline_missed h hv)
  | true =>
    obtain ⟨n, hn⟩ := ends_pipeline_held h hv
    refine .bind hn fun s h => .bind (ends_bring h n .null) fun s h => ?_
    refine .bind (R := Stands { v with held := false })
      (.change (h.congr rfl h.guarded h.closing rfl rfl)) fun s h => ?_
    exact .bind (ends_addTimer h .start) fun s h => .pure h

lemma ends_start (hv : v.closing = false) :
    Ends s Source.start (if v.guarded then .ok () else .error missed)
      (Stands { v with held := true }) := by
  refine .look ?_
  rw [h.closing.trans hv]
  refine .bind (.act h) fun s h => .bind (ends_create h) fun s h => ?_
  refine .bind (ends_play h rfl) fun s h => .bind (.act h) fun s h => .look ?_
  rw [h.equipped.restarts]
  exact ends_armGuard h

lemma ends_underrun : Ends s underrun (.ok ()) (Stands { v with guarded := true }) := by
  refine .look ?_
  cases hguard : s.guard with
  | some timer =>
    refine .act (h.congr h.held ?_ h.closing rfl rfl)
    rw [hguard]
    rfl
  | none =>
    refine .bind (.act h) fun s h => .bind (R := Stands { v with guarded := true })
      (.change (h.congr h.held rfl h.closing rfl rfl)) fun s h => ?_
    exact ends_armGuard h

lemma ends_cancelTimer (id : Nat) : Ends s (cancelTimer id) (.ok ()) (Stands v) := by
  refine .bind (.act h) fun s h => .change ?_
  split
  · exact h
  · exact h.congr h.held h.guarded h.closing rfl rfl

lemma ends_running : Ends s running (.ok ()) (Stands { v with guarded := false }) := by
  refine .look ?_
  cases hguard : s.guard with
  | none =>
    refine .act (h.congr h.held ?_ h.closing rfl rfl)
    rw [hguard]
    rfl
  | some timer =>
    have hclear (s : Source) (h : Stands v s) :
        Ends s (Handler.change fun s => { s with guard := none }) (.ok ())
          (Stands { v with guarded := false }) :=
      .change (h.congr h.held rfl h.closing rfl rfl)
    refine .bind (.act h) fun s h => ?_
    cases timer with
    | none => exact hclear s h
    | some id => exact .bind (ends_cancelTimer h id) hclear

lemma ends_streamEnded (hv : v.held = true) (hopen : v.closing = false) :
    Ends s streamEnded (.ok ()) (Stands { v with held := false }) := by
  refine .look ?_
  rw [h.closing.trans hopen]
  refine .bind (.act h) fun s h => ?_
  have hend := ends_restart h
  rwa [hv] at hend

lemma stands_close : Stands { v with held := false, closing := true } (close.run s).2.1 := by
  let Same (p : Trail) : Prop :=
    p.1.guard.isSome = s.guard.isSome ∧ p.1.restarts = s.restarts ∧ p.1.rig = s.rig
  have hkeeps : Keeps Same close :=
    triple_close (fun _ _ hp => hp) (fun _ _ _ hp => hp) fun _ _ _ hp => hp
  obtain ⟨hguard, hr, hg⟩ := Triple.of_run hkeeps ⟨rfl, rfl, rfl⟩
  obtain ⟨hclosed, hnone⟩ := close_closes s
  exact h.congr (by rw [hnone]; rfl) (hguard.trans h.guarded) hclosed hr hg

end Standing

/-! ### What starting shows -/

/-- The rig and the purpose of a source are never changed. -/
def Kin (s s' : Source) : Prop := s'.rig = s.rig ∧ s'.restarts = s.restarts

lemma found_of_create (hr : s.restarts = true) (h : (create.run s).1 = .ok ()) :
    s.rig.missing.contains "appsink" = false ∧
      s.rig.missing.contains "_stbt_user_data_queue" = false := by
  have hok {r : Except Fault Unit} (hlast : ∀ s', Kin s s' → Ends s' (do
      needElement "appsink"
      if (← source).restarts then needElement "_stbt_user_data_queue") r fun _ => True) :
      r = .ok () := by
    have hend : Ends s create r fun _ => True :=
      .look <| .bind (.act ⟨rfl, rfl⟩) fun _ hs => .bind (.change hs) hlast
    exact hend.run.1.symm.trans h
  cases hsink : s.rig.missing.contains "appsink" with
  | true => cases hok fun s' hs => .bind_stopped (.needElement_missed (hs.1 ▸ hsink) trivial)
  | false =>
    refine ⟨rfl, ?_⟩
    cases hqueue : s.rig.missing.contains "_stbt_user_data_queue" with
    | false => rfl
    | true =>
      refine nomatch hok (r := .error missed) fun s' hs =>
        .bind (.needElement (hs.1 ▸ hsink) hs) fun s' hs => .look ?_
      rw [hs.2, hr]
      exact .needElement_missed (hs.1 ▸ hqueue) trivial

lemma rig_create (s : Source) : (create.run s).2.1.rig = s.rig := by
  let Same (p : Trail) : Prop := p.1.rig = s.rig
  have hkeeps : Keeps Same create :=
    .look fun _ => .bind (Triple.act fun _ _ hp => hp) fun _ => .bind (Triple.change fun _ _ hp => hp)
      fun _ => .bind (.needElement _) fun _ => .look fun _ => .ite (.needElement _) (.pure ())
  exact Triple.of_run hkeeps rfl

lemma found_of_play (h : (play.run s).1 = .ok ()) (hlive : s.rig.live = true) :
    s.rig.missing.contains "_stbt_raw_frames_queue" = false := by
  cases hframes : s.rig.missing.contains "_stbt_raw_frames_queue" with
  | false => rfl
  | true =>
    have hend : Ends s play (.error missed) fun _ => True := by
      cases hc : s.current with
      | none =>
        refine .bind_stopped (.look ?_)
        rw [hc]
        exact .absent trivial
      | some n =>
        refine .bind (v := n) (R := Kin s) (.look ?_) fun s₁ hs => ?_
        · rw [hc]
          exact .pure ⟨rfl, rfl⟩
        refine .bind (R := Kin s) (.bind (.act hs) fun _ hs => .change hs) fun s₂ hs =>
          .look ?_
        rw [hs.1, hlive]
        exact .bind_stopped (.needElement_missed (hs.1 ▸ hframes) trivial)
    cases hend.run.1.symm.trans h

/-! ### What came before -/

/-- What reaches a source that was started. -/
inductive Happening
  | underrun | running | ended
  /-- a timer goes off -/
  | due (t : Timer)
  | closed
deriving DecidableEq

/-- A signal may come now, and is this to the source. A stream ends that is there, and a timer goes
off that is running. -/
inductive Reaches (s : Source) : Signal → Happening → Prop
  | underrun : Reaches s .underrun .underrun
  | running : Reaches s .running .running
  | ended (h : s.current.isSome = true) : Reaches s .streamEnded .ended
  | due {index id : Nat} {t : Timer} (h : s.timers[index]? = some (id, t)) :
    Reaches s (.timer index) (.due t)
  | closed : Reaches s .tearDown .closed

/-- The last of the underruns and returns was an underrun. -/
def Unanswered : Prop :=
  (past.filter (· ∈ [.underrun, .running])).getLast? = some .underrun

/-- The source was not closed, and was started since it last let its pipeline go. -/
def Held : Prop :=
  .closed ∉ past ∧
    (past.filter (· ∈ [.ended, .due .restart, .due .start])).getLast? ∈ [none, some (.due .start)]

/-- What comes now finds nothing to stop, or no guard to set. -/
def Misses : Happening → Prop
  | .due .restart => ¬Held past
  | .due .start => .closed ∉ past ∧ ¬Unanswered past
  | _ => False

/-- What came before tells the standing. -/
structure Tells (past : List Happening) (v : Standing) : Prop where
  held : v.held = true ↔ Held past
  guarded : v.guarded = true ↔ Unanswered past
  closing : v.closing = true ↔ .closed ∈ past

variable {past : List Happening}

lemma Tells.nil : Tells [] ⟨true, false, false⟩ := by
  constructor <;> simp [Held, Unanswered]

lemma Tells.opened (h : Tells past v) (hv : v.held = true) : v.closing = false := by
  rw [Bool.eq_false_iff, ne_eq, h.closing]
  exact (h.held.1 hv).1

namespace Standing

/-- The standing after something has come. -/
def after (v : Standing) : Happening → Standing
  | .underrun => { v with guarded := true }
  | .running => { v with guarded := false }
  | .ended | .due .restart => { v with held := false }
  | .due .start => { v with held := !v.closing }
  | .closed => { v with held := false, closing := true }

/-- How the handler of what comes now ends. -/
def outcome (v : Standing) : Happening → Except Fault Unit
  | .due .restart => if v.held then .ok () else .error missed
  | .due .start => if v.closing || v.guarded then .ok () else .error missed
  | _ => .ok ()

end Standing

lemma Tells.snoc (h : Tells past v) (x : Happening) : Tells (past ++ [x]) (v.after x) where
  held := by
    cases x with
    | due t => cases t <;> simp [Held, Standing.after, ← h.closing]
    | _ => simp [Held, Standing.after, h.held]
  guarded := by
    cases x with
    | due t => cases t <;> simp [Unanswered, Standing.after, h.guarded]
    | _ => simp [Unanswered, Standing.after, h.guarded]
  closing := by
    rw [List.mem_append, ← h.closing]
    cases x with
    | due t => cases t <;> simp [Standing.after]
    | _ => simp [Standing.after]

lemma Tells.outcome_cases (h : Tells past v) (x : Happening) :
    (Misses past x ∧ v.outcome x = .error missed) ∨ (¬Misses past x ∧ v.outcome x = .ok ()) := by
  cases x with
  | due t =>
    cases t with
    | restart =>
      rw [Misses, ← h.held, Standing.outcome]
      cases v.held <;> simp
    | start =>
      rw [Misses, ← h.guarded, ← h.closing, Standing.outcome]
      cases v.closing <;> cases v.guarded <;> simp
  | _ => exact .inr ⟨id, rfl⟩

lemma ends_handler {g : Signal} {x : Happening} (h : Stands v s)
    (hopen : v.held = true → v.closing = false) (hreach : s.Reaches g x) (hx : x ≠ .closed) :
    Ends s g.handler (v.outcome x) (Stands (v.after x)) := by
  cases hreach with
  | underrun => exact ends_underrun h
  | running => exact ends_running h
  | ended hc =>
    have hv : v.held = true := h.held ▸ hc
    exact ends_streamEnded h hv (hopen hv)
  | @due index id t htimer =>
    refine .look ?_
    rw [htimer]
    refine .bind (.change (h.congr h.held h.guarded h.closing rfl rfl)) fun s h => ?_
    cases t with
    | restart => exact ends_restart h
    | start =>
      cases hv : v.closing with
      | false =>
        have hend := ends_start h hv
        rw [Standing.outcome, Standing.after, hv]
        rwa [hv] at hend
      | true =>
        have hnone : v.held = false := by
          rw [Bool.eq_false_iff]
          intro hheld
          rw [hopen hheld] at hv
          cases hv
        have hsame : v.after (.due .start) = v := by
          rw [Standing.after, hv, Bool.not_true, ← hnone, ← hv]
        rw [Standing.outcome, hv, hsame]
        refine .look ?_
        rw [h.closing.trans hv]
        exact .pure h
  | closed => exact absurd rfl hx

end Source

namespace Display

open Source (Signal Happening Stands Tells Misses missed)
open Act (Moves)

/-! ### The display -/

lemma ok_carryOut {s : Session} (hk : Log.Known s) (a : SourceAction) :
    ((carryOut a).run s).1 = .ok () := by
  cases a with
  | warn text => exact Log.ok_warn text s
  | detail text => exact Log.ok_detail hk text
  | _ => rfl

lemma ok_forM_carryOut {s : Session} (hk : Log.Known s) (done : List SourceAction) :
    ((done.forM carryOut).run s).1 = .ok () := by
  induction done generalizing s with
  | nil => rfl
  | cons a done ih =>
    change ((carryOut a >>= fun _ => done.forM carryOut).run s).1 = _
    rw [Act.bind_of_ok (Prod.ext (ok_carryOut hk a) rfl)]
    exact ih ((unread_carryOut a s).known hk)

variable {d : Display} {s₁ : Session}

lemma handle_outcome {α : Type} {h : Source.Handler α} {s : Session} (hd : s.display = some d)
    (hk : Log.Known s) : ((handle h).run s).1 = (h.run d.source).1 := by
  have hdone := ok_forM_carryOut (s := leaving h d s) hk (h.run d.source).2.2
  rw [run_handle hd, Act.bind_of_ok (Prod.ext hdone rfl), Act.run_ofExcept]

/-! ### A display that was started -/

/-- What has come since a display was started, and where it has led. -/
inductive Course (start : Session) : List Happening → Session → Prop
  | started : Course start [] start
  | next {past : List Happening} {s : Session} {d : Display} {g : Signal} {x : Happening}
      (h : Course start past s) (hd : s.display = some d) (hreach : d.source.Reaches g x) :
      Course start (past ++ [x]) ((react g).run s).2

/-- What came before tells the standing of the source, and the display knows how much to tell. -/
def Attended (past : List Happening) (s : Session) : Prop :=
  ∃ d v, s.display = some d ∧ Stands v d.source ∧ Tells past v ∧ Log.Known s

variable {past : List Happening} {s : Session}

lemma Attended.next {g : Signal} {x : Happening} (h : Attended past s) (hd : s.display = some d)
    (hreach : d.source.Reaches g x) : Attended (past ++ [x]) ((react g).run s).2 := by
  obtain ⟨d₁, v, hd₁, hstands, htells, hk⟩ := h
  obtain rfl : d₁ = d := Option.some.inj (hd₁.symm.trans hd)
  obtain ⟨d', hd', hsource⟩ := (react_run hd g).exists_display rfl
  refine ⟨d', v.after x, hd', ?_, htells.snoc x, ?_⟩
  · rw [hsource]
    by_cases hx : x = .closed
    · subst hx
      cases hreach
      exact Source.stands_close hstands
    · exact (Source.ends_handler hstands htells.opened hreach hx).run.2
  · exact (unread_react g s).known hk

lemma attended_of_startUp {o : Options} {s₀ : Session} (ho : o.restarts = true)
    (hmade : (make o).run s = (.ok (), s₀)) (hstarted : startUp.run s₀ = (.ok (), s₁)) :
    Attended [] s₁ := by
  obtain ⟨description, rig, d, hd, hcreate, hsource, hk, -⟩ := source_of_make hmade
  obtain ⟨d₁, hd₁, hsource₁⟩ := (react_run hd .startUp).exists_display rfl
  have hk₁ : Log.Known (startUp.run s₀).2 := (unread_react .startUp s₀).known hk
  change (startUp.run s₀).2.display = some d₁ at hd₁
  rw [hstarted] at hd₁ hk₁
  have hplay : (Source.play.run d.source).1 = .ok () := by
    obtain ⟨_, s', hrun, -⟩ := Act.bind_eq_ok hstarted
    rw [← handle_outcome hd hk, hrun]
  have hframes : rig.live = true → rig.missing.contains "_stbt_raw_frames_queue" = false := by
    have hrig : d.source.rig = rig := hsource ▸ Source.rig_create (fresh description o rig)
    rw [← hrig]
    exact Source.found_of_play hplay
  obtain ⟨hsink, hqueue⟩ := Source.found_of_create ho hcreate
  have hfresh : Stands ⟨false, false, false⟩ (fresh description o rig) :=
    ⟨rfl, ho, hsink, hqueue, hframes⟩
  have hstands : Stands ⟨true, false, false⟩ d.source := hsource ▸ (Source.ends_create hfresh).run.2
  exact ⟨d₁, _, hd₁, hsource₁ ▸ (Source.ends_play hstands rfl).run.2, .nil, hk₁⟩

lemma Course.attended {past : List Happening} {s₂ : Session} (h : Course s₁ past s₂)
    (hs₁ : Attended [] s₁) : Attended past s₂ := by
  induction h with
  | started => exact hs₁
  | next _ hd hreach ih => exact ih.next hd hreach

/-- Whatever has come since a display that restarts its source was started: the handler of what comes
next is stopped if and only if it has to restart a source that holds no pipeline, or to set the guard
of a source that has none. It is stopped then by what it misses, and otherwise by nothing. -/
theorem handler_stopped_iff_misses {o : Options} {s₀ s₁ s₂ : Session} {past : List Happening}
    {d : Display} {g : Signal} {x : Happening} (ho : o.restarts = true)
    (hmade : (make o).run s = (.ok (), s₀)) (hstarted : startUp.run s₀ = (.ok (), s₁))
    (hcourse : Course s₁ past s₂) (hd : s₂.display = some d) (hreach : d.source.Reaches g x)
    (hx : x ≠ .closed) :
    (Misses past x ∧ ((react g).run s₂).1 = .error missed) ∨
      (¬Misses past x ∧ ((react g).run s₂).1 = .ok ()) := by
  obtain ⟨d', v, hd', hstands, htells, hk⟩ :=
    hcourse.attended (attended_of_startUp ho hmade hstarted)
  obtain rfl : d' = d := Option.some.inj (hd'.symm.trans hd)
  have houtcome : ((react g).run s₂).1 = v.outcome x := by
    have hhandle := handle_outcome (h := g.handler) hd hk
    rw [(Source.ends_handler hstands htells.opened hreach hx).run.1] at hhandle
    cases hreach with
    | closed => exact absurd rfl hx
    | _ => exact hhandle
  rw [houtcome]
  exact htells.outcome_cases x

/-- A stream that ends without an underrun, one that ends while the timer of an underrun is running,
and closing while it is running. -/
theorem recovery_misses :
    ∃ s₀ s₁, (make { restarts := true }).run { verbosity := some 0 } = (.ok (), s₀) ∧
      startUp.run s₀ = (.ok (), s₁) ∧
      (∃ s₂, Course s₁ [.ended] s₂ ∧ ((react (.timer 0)).run s₂).1 = .error missed) ∧
      (∃ s₂, Course s₁ [.underrun, .ended] s₂ ∧ ((react (.timer 0)).run s₂).1 = .error missed) ∧
      ∃ s₂, Course s₁ [.underrun, .closed] s₂ ∧ ((react (.timer 0)).run s₂).1 = .error missed := by
  let s₀ : Session := ((make { restarts := true }).run { verbosity := some 0 }).2
  have hmade : (make { restarts := true }).run { verbosity := some 0 } = (.ok (), s₀) := rfl
  have hstarted : startUp.run s₀ = (.ok (), (startUp.run s₀).2) := rfl
  have hended : Course (startUp.run s₀).2 [.ended] _ := .next .started rfl (.ended rfl)
  have hunderrun : Course (startUp.run s₀).2 [.underrun] _ := .next .started rfl .underrun
  have hboth : Course (startUp.run s₀).2 [.underrun, .ended] _ := .next hunderrun rfl (.ended rfl)
  have hclosed : Course (startUp.run s₀).2 [.underrun, .closed] _ := .next hunderrun rfl .closed
  refine ⟨s₀, _, hmade, hstarted, ⟨_, hended, ?_⟩, ⟨_, hboth, ?_⟩, ⟨_, hclosed, ?_⟩⟩
  · have hmiss : Misses [.ended] (.due .start) := by simp [Misses, Source.Unanswered]
    exact ((handler_stopped_iff_misses rfl hmade hstarted hended rfl (.due rfl) (by simp)).resolve_right
      fun h => h.1 hmiss).2
  · have hmiss : Misses [.underrun, .ended] (.due .restart) := by simp [Misses, Source.Held]
    exact ((handler_stopped_iff_misses rfl hmade hstarted hboth rfl (.due rfl) (by simp)).resolve_right
      fun h => h.1 hmiss).2
  · have hmiss : Misses [.underrun, .closed] (.due .restart) := by simp [Misses, Source.Held]
    exact ((handler_stopped_iff_misses rfl hmade hstarted hclosed rfl (.due rfl) (by simp)).resolve_right
      fun h => h.1 hmiss).2

end Display

end SetTop
