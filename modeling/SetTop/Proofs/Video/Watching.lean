import Mathlib.Order.Bounds.Basic
import SetTop.Proofs.Faults
import SetTop.Proofs.Logging
import SetTop.Video.Display

/-!
Watching the video.

Whoever watches looks at each frame, and decides by what was seen so far whether to look at the next.
`looks` is all that the looks give, and how that ends if nobody stops it. A step that follows the looks ends with the shortest beginning of this list that is
enough for it, or with the end of the list (`watchFrom_ends`). So what is collected is the list
itself, up to a limit (`delivers_collect`).
-/

namespace SetTop

open List Act

/-! ### The shortest beginning that is enough -/

section Opening

variable {ρ : Type} (enough : List ρ → Prop) [DecidablePred enough]

/-- What has passed, followed by the shortest beginning of a list with which it is enough. At least
one more item is taken. -/
def opening (past : List ρ) : List ρ → Option (List ρ)
  | [] => none
  | r :: rs => if enough (past ++ [r]) then some (past ++ [r]) else opening (past ++ [r]) rs

variable {enough} {past rs : List ρ}

lemma opening_eq_none_iff :
    opening enough past rs = none ↔ ∀ k < rs.length, ¬ enough (past ++ rs.take (k + 1)) := by
  induction rs generalizing past with
  | nil => simp [opening]
  | cons r rs ih =>
    rw [opening]
    split
    · next h =>
      refine iff_of_false nofun fun hnone => ?_
      exact hnone 0 (by simp) (by simpa using h)
    · next h =>
      rw [ih]
      constructor
      · intro hrest k hk
        cases k with
        | zero => simpa using h
        | succ k => simpa using hrest k (by simpa using hk)
      · intro hall k hk
        simpa using hall (k + 1) (by simpa using hk)

lemma opening_of_isLeast {k : Nat}
    (h : IsLeast {k | k < rs.length ∧ enough (past ++ rs.take (k + 1))} k) :
    opening enough past rs = some (past ++ rs.take (k + 1)) := by
  induction rs generalizing past k with
  | nil => exact absurd h.1.1 (Nat.not_lt_zero k)
  | cons r rs ih =>
    obtain ⟨⟨hk, henough⟩, hleast⟩ := h
    rw [opening]
    cases k with
    | zero => rw [if_pos (by simpa using henough), take_succ_cons, take_zero]
    | succ k =>
      have hfirst : ¬ enough (past ++ [r]) := fun hr =>
        absurd (hleast ⟨Nat.succ_pos _, by simpa using hr⟩) (Nat.not_succ_le_zero k)
      rw [if_neg hfirst, ih ⟨⟨by simpa using hk, by simpa using henough⟩, ?_⟩]
      · simp
      · rintro j ⟨hj, hr⟩
        exact Nat.le_of_succ_le_succ (hleast ⟨by simpa using hj, by simpa using hr⟩)

end Opening

namespace Display

/-! ### Letting go -/

variable (now : Option Num)

lemma low_isShown (c : Caption) : Low (c.isShown now) := by
  rw [Caption.isShown]
  cases c.start with
  | none => exact .error rfl
  | some start =>
    refine .bind ?_ fun n => .bind (Num.low_checked _) fun _ => .ok _
    rw [Json.needNumber]
    cases c.duration.number? with
    | some n => exact .ok n
    | none => exact .error rfl

lemma low_shownCaptions (cs : List Caption) : Low (Overlay.shownCaptions now cs) := by
  induction cs with
  | nil => exact .ok _
  | cons c cs ih => exact .bind (low_isShown now _) fun _ => .bind ih fun _ => .ok _

lemma low_push (o : Overlay) (now : Option Num) : Low (o.push now).1 := by
  rw [Overlay.push]
  cases h : Overlay.shownCaptions now o.captions with
  | error e => exact .error (low_shownCaptions now o.captions e h)
  | ok shown => cases now <;> exact .ok _

lemma low_timeOfDay : Act.Low timeOfDay := by
  refine .bind (.bind ?_ fun micro => .pure _) fun _ => .pure _
  have hclock : Act.Low clock :=
    .bind (.bind .get fun _ => .pure _) fun _ => .bind (.modify _) fun _ => .pure _
  refine .bind hclock fun t => ?_
  exact .bind (.ofExcept (Num.low_whole t)) fun _ => .ite (.pure _) (.throw rfl)

lemma low_drawText (text : String) (x y : Num) (colour : List Num) (scale : Num) :
    Act.Low (drawText text x y colour scale) :=
  .ite (.pure ()) (.bind (.modify _) fun _ => .modify _)

lemma low_brightness (now start : Num) : Low (brightness now start) := by
  refine .bind (Num.low_checked _) fun _ => .bind (Num.low_checked _) fun _ => ?_
  exact .bind (Num.low_whole _) fun _ => .ok _

lemma low_drawCaption (row : Nat) (c : Caption) : Act.Low (drawCaption now row c) := by
  cases now with
  | some t => exact .bind (.ofExcept (low_brightness t _)) fun _ => low_drawText _ _ _ _ _
  | none => exact .bind (.throw rfl) fun _ => low_drawText _ _ _ _ _

lemma low_drawMark (m : Mark) : Act.Low (drawMark m) := by
  rw [drawMark]
  cases m.region with
  | none => exact .pure ()
  | some r => exact .bind (.modify _) fun _ => low_drawText _ _ _ _ _

lemma low_current : Act.Low current := by
  refine .bind .get fun s => ?_
  cases s.display with
  | some d => exact .pure d
  | none => exact .throw rfl

lemma low_paint (x : Sample) (captions : List Caption) (marks : List Mark) :
    Act.Low (paint x captions marks) := by
  refine .bind (.ofExcept (Sample.low_frame _ true)) fun _ => .bind low_timeOfDay fun now => ?_
  refine .bind (low_drawText _ _ _ _ _) fun _ => ?_
  exact .bind (.forM (fun _ => low_drawCaption _ _ _) _) fun _ => .forM low_drawMark _

lemma low_pushSample (x : Sample) : Act.Low (pushSample x) := by
  refine .bind low_current fun d => .bind (.modify _) fun _ => ?_
  refine .bind (.ofExcept (low_push _ _)) fun p => .bind (low_paint _ _ _) fun _ => ?_
  exact .ite (.throw rfl) (.pure ())

lemma run_letGo (x : Sample) (s : Session) :
    (letGo x).run s = (.ok (), ((pushSample x).run s).2) := by
  rw [letGo, bind_of_ok (run_attempt _ s)]
  cases hpush : ((pushSample x).run s).1 with
  | ok u => rfl
  | error e =>
    have hordinary := Fault.isOrdinary_of_isLow (low_pushSample x s e hpush)
    simp only [hordinary]
    rfl

/-! ### Looks -/

section Looks

variable {σ ρ β S : Type}

/-- All that the looks at the frames give, one after the other, and how this ends: with a fault, or
with the session in which the time is up. At most `fuel` frames are looked at. -/
def looks (timeout : Json) (look : σ → Frame → Act (σ × Option ρ)) :
    Nat → Option Num → σ → Session → List ρ × Except Fault Session
  | 0, _, _, _ => ([], .error (.failure .noVideo "No video"))
  | fuel + 1, start, a, s =>
    match (nextSample timeout start).run s with
    | (.error e, _) => ([], .error e)
    | (.ok none, s) => ([], .ok s)
    | (.ok (some (x, start)), s) =>
      match x.frame with
      | .error e => ([], .error e)
      | .ok f =>
        match (look a f).run s with
        | (.error e, _) => ([], .error e)
        | (.ok (a, seen), s) =>
          let rest : List ρ × Except Fault Session := match (pushSample x).run s with
            | (.error e, _) => ([], .error e)
            | (.ok (), s) => looks timeout look fuel start a s
          (seen.toList ++ rest.1, rest.2)

/-- A step that looks at a frame and then decides by all that was seen whether it is enough. Its
state is that of the looks together with what was seen. -/
structure Follows (look : σ → Frame → Act (σ × Option ρ)) (enough : List ρ → Prop)
    (verdict : List ρ → Except Fault β) (join : σ → List ρ → S) (step : S → Frame → Act (S ⊕ β)) :
    Prop where
  failed {a : σ} {past : List ρ} {f : Frame} {s s' : Session} {e : Fault}
    (h : (look a f).run s = (.error e, s')) :
    ∃ s₁, (step (join a past) f).run s = (.error e, s₁)
  unseen {a a' : σ} {past : List ρ} {f : Frame} {s s' : Session}
    (h : (look a f).run s = (.ok (a', none), s')) :
    (step (join a past) f).run s = (.ok (.inl (join a' past)), s')
  goesOn {a a' : σ} {past : List ρ} {f : Frame} {s s' : Session} {r : ρ}
    (h : (look a f).run s = (.ok (a', some r), s')) (hmore : ¬ enough (past ++ [r])) :
    (step (join a past) f).run s = (.ok (.inl (join a' (past ++ [r]))), s')
  stops {a a' : σ} {past : List ρ} {f : Frame} {s s' : Session} {r : ρ}
    (h : (look a f).run s = (.ok (a', some r), s')) (henough : enough (past ++ [r])) :
    ∃ s₁, (step (join a past) f).run s = ((verdict (past ++ [r])).map .inr, s₁)

/-- How watching ends and in which session, by what was enough, by all that there was to see, and by
the end of that. -/
inductive Ends (verdict : List ρ → Except Fault β) (join : σ → List ρ → S) :
    Option (List ρ) → List ρ → Except Fault Session → Watched S β → Session → Prop
  | done {p all : List ρ} {ending : Except Fault Session} {b : β} {s : Session}
      (h : verdict p = .ok b) : Ends verdict join (some p) all ending (.done b) s
  | refused {p all : List ρ} {ending : Except Fault Session} {e : Fault} {s : Session}
      (h : verdict p = .error e) (state : S) :
      Ends verdict join (some p) all ending (.failed state e) s
  | timedOut (a : σ) (all : List ρ) (s : Session) :
      Ends verdict join none all (.ok s) (.timedOut (join a all)) s
  | failed (a : σ) (all : List ρ) (e : Fault) (s : Session) :
      Ends verdict join none all (.error e) (.failed (join a all) e) s

variable {look : σ → Frame → Act (σ × Option ρ)} {enough : List ρ → Prop} [DecidablePred enough]
  {verdict : List ρ → Except Fault β} {join : σ → List ρ → S} {step : S → Frame → Act (S ⊕ β)}

lemma Ends.timedOut_now (a : σ) (past : List ρ) (s : Session) :
    Ends verdict join none (past ++ []) (.ok s) (.timedOut (join a past)) s := by
  rw [append_nil]
  exact .timedOut a past s

lemma Ends.failed_now (a : σ) (past : List ρ) (e : Fault) (s : Session) :
    Ends verdict join none (past ++ []) (.error e) (.failed (join a past) e) s := by
  rw [append_nil]
  exact .failed a past e s

lemma watchFrom_ends (hf : Follows look enough verdict join step) (timeout : Json) (fuel : Nat)
    (start : Option Num) (a : σ) (past : List ρ) (s : Session) :
    ∃ w s', (watchFrom timeout step fuel start (join a past)).run s = (.ok w, s') ∧
      Ends verdict join (opening enough past (looks timeout look fuel start a s).1)
        (past ++ (looks timeout look fuel start a s).1) (looks timeout look fuel start a s).2 w
        s' := by
  induction fuel generalizing start a past s with
  | zero => exact ⟨_, _, rfl, .failed_now a past _ _⟩
  | succ fuel ih =>
    rw [watchFrom, looks, bind_of_ok (run_attempt _ s)]
    rcases hnext : (nextSample timeout start).run s with ⟨e | _ | ⟨x, start'⟩, s₁⟩
    · exact ⟨_, _, rfl, .failed_now a past e _⟩
    · exact ⟨_, _, rfl, .timedOut_now a past _⟩
    dsimp only
    rw [bind_of_ok (run_attempt _ s₁), run_bind, run_ofExcept]
    cases hframe : x.frame with
    | error e =>
      rw [bind_of_ok (run_letGo x s₁)]
      exact ⟨_, _, rfl, .failed_now a past e _⟩
    | ok f =>
      dsimp only
      rcases hlook : (look a f).run s₁ with ⟨e | ⟨a', _ | r⟩, s₂⟩
      · obtain ⟨s₃, hstep⟩ : ∃ s₃, (step (join a past) f).run s₁ = (.error e, s₃) :=
          hf.failed hlook
        rw [hstep]
        rw [bind_of_ok (run_letGo x s₃)]
        exact ⟨_, _, rfl, .failed_now a past e _⟩
      · rw [hf.unseen hlook]
        dsimp only
        rw [bind_of_ok (run_attempt _ s₂)]
        rcases hpush : (pushSample x).run s₂ with ⟨e | ⟨⟩, s₃⟩
        · exact ⟨_, _, rfl, .failed_now a' past e _⟩
        · exact ih start' a' past s₃
      · -- One more result: it is enough, or the looks go on behind it.
        by_cases henough : enough (past ++ [r])
        · obtain ⟨s₃, hstep⟩ := hf.stops hlook henough
          have hopening (rest : List ρ) : opening enough past (r :: rest) = some (past ++ [r]) :=
            if_pos henough
          rw [hstep]
          cases hverdict : verdict (past ++ [r]) with
          | ok b =>
            dsimp only [Except.map]
            rw [bind_of_ok (run_letGo x s₃)]
            exact ⟨_, _, rfl, (hopening _).symm ▸ .done hverdict⟩
          | error e =>
            dsimp only [Except.map]
            rw [bind_of_ok (run_letGo x s₃)]
            exact ⟨_, _, rfl, (hopening _).symm ▸ .refused hverdict _⟩
        · have hopening (rest : List ρ) :
              opening enough past (r :: rest) = opening enough (past ++ [r]) rest := if_neg henough
          rw [hf.goesOn hlook henough]
          dsimp only [Option.toList_some, singleton_append]
          rw [bind_of_ok (run_attempt _ s₂), hopening]
          rcases hpush : (pushSample x).run s₂ with ⟨e | ⟨⟩, s₃⟩
          · exact ⟨_, _, rfl, .failed a' (past ++ [r]) e _⟩
          · have hrest := ih start' a' (past ++ [r]) s₃
            rwa [append_assoc past [r]] at hrest

/-- All that the looks give from a session on. -/
def seen (timeout : Json) (look : σ → Frame → Act (σ × Option ρ)) (a : σ) (s : Session) :
    List ρ × Except Fault Session :=
  looks timeout look (s.bench.feed.length + 2) none a s

lemma watch_ends (hf : Follows look enough verdict join step) (timeout : Json) (a : σ)
    (s : Session) : ∃ w s', (watch timeout (join a []) step).run s = (.ok w, s') ∧
      Ends verdict join (opening enough [] (seen timeout look a s).1) (seen timeout look a s).1
        (seen timeout look a s).2 w s' := by
  rw [watch, bind_of_ok (run_bench s)]
  exact watchFrom_ends hf timeout (s.bench.feed.length + 2) none a [] s

variable {timeout : Json} {fuel limit : Nat} {start : Option Num} {s s' : Session}
  {ending : Except Fault Session} {e : Option Fault}

variable {P : ρ → Prop} {a : σ} {found : Nat → Act (List ρ × Option Fault)} {rs l : List ρ}

lemma forall_mem_looks_of_keeps {I : σ → Prop}
    (hlook : ∀ {a a' f s s' seen}, I a → (look a f).run s = (.ok (a', seen), s') →
      I a' ∧ ∀ r ∈ seen, P r) (ha : I a) : ∀ r ∈ (looks timeout look fuel start a s).1, P r := by
  induction fuel generalizing start a s with
  | zero => nofun
  | succ fuel ih =>
    rw [looks]
    rcases (nextSample timeout start).run s with ⟨e | _ | ⟨x, start'⟩, s₁⟩
    · nofun
    · nofun
    cases hframe : x.frame with
    | error e =>
      simp only [hframe]
      nofun
    | ok f =>
      simp only [hframe]
      rcases hrun : (look a f).run s₁ with ⟨e | ⟨a', result⟩, s₂⟩
      · nofun
      obtain ⟨ha', hresult⟩ := hlook ha hrun
      intro r hr
      rcases mem_append.1 hr with hr | hr
      · rw [Option.mem_toList] at hr
        exact hresult r hr
      · rcases hpush : (pushSample x).run s₂ with ⟨e | ⟨⟩, s₃⟩ <;> simp only [hpush] at hr
        · cases hr
        · exact ih ha' r hr

/-! ### Time limits -/

lemma number?_of_timeLimit {limit : Num} (h : timeLimit timeout = .ok (some limit)) :
    timeout.number? = some limit := by
  cases timeout with
  | number | bool => cases h; rfl
  | null | text | list | object => cases h

lemma nextSample_eq_none (h : (nextSample timeout start).run s = (.ok none, s')) :
    ∃ limit x, timeout.number? = some limit ∧ limit.double = .ok x := by
  rw [nextSample] at h
  obtain ⟨_, s₁, -, h⟩ := bind_eq_ok h
  obtain ⟨_, s₂, -, h⟩ := bind_eq_ok h
  obtain ⟨bound, s₃, hbound, h⟩ := bind_eq_ok h
  obtain ⟨x, s₄, -, h⟩ := bind_eq_ok h
  obtain ⟨_, s₅, -, h⟩ := bind_eq_ok h
  obtain ⟨_, s₆, -, h⟩ := bind_eq_ok h
  rw [run_ofExcept] at hbound
  split at h
  · cases h
  · cases h
  · obtain ⟨_, s₇, -, h⟩ := bind_eq_ok h
    split at h
    · obtain ⟨_, s₈, -, h⟩ := bind_eq_ok h
      obtain ⟨_, s₉, -, h⟩ := bind_eq_ok h
      obtain ⟨_, s₁₀, hshown, -⟩ := bind_eq_ok h
      obtain ⟨x, s₁₁, hx, -⟩ := bind_eq_ok hshown
      rw [run_ofExcept] at hx
      exact ⟨_, x, number?_of_timeLimit (Prod.mk.inj hbound).1, (Prod.mk.inj hx).1⟩
    · cases h

lemma exists_limit_of_looks (h : (looks timeout look fuel start a s).2 = .ok s') :
    ∃ limit x, timeout.number? = some limit ∧ limit.double = .ok x := by
  induction fuel generalizing start a s with
  | zero => cases h
  | succ fuel ih =>
    rw [looks] at h
    rcases hnext : (nextSample timeout start).run s with ⟨e | _ | ⟨x, start'⟩, s₁⟩ <;>
      simp only [hnext] at h
    · cases h
    · exact nextSample_eq_none hnext
    cases hframe : x.frame with
    | error e =>
      simp only [hframe] at h
      cases h
    | ok f =>
      simp only [hframe] at h
      rcases hlook : (look a f).run s₁ with ⟨e | ⟨a', seen⟩, s₂⟩ <;> simp only [hlook] at h
      · cases h
      rcases hpush : (pushSample x).run s₂ with ⟨e | ⟨⟩, s₃⟩ <;> simp only [hpush] at h
      · cases h
      · exact ih h

/-! ### Collecting -/

def collectStep (limit : Nat) (look : σ → Frame → Act (σ × Option ρ)) (state : σ × List ρ)
    (frame : Frame) : Act ((σ × List ρ) ⊕ List ρ) := do
  let (a, result) ← look state.1 frame
  match result with
  | none => return .inl (a, state.2)
  | some r =>
    if state.2.length + 1 = limit then return .inr (state.2 ++ [r])
    return .inl (a, state.2 ++ [r])

def Watched.collected : Watched (σ × List ρ) (List ρ) → List ρ × Option Fault
  | .timedOut state => (state.2, none)
  | .done found => (found, none)
  | .failed state e => (state.2, some e)

lemma collect_eq (timeout : Json) (limit : Nat) (a : σ) (look : σ → Frame → Act (σ × Option ρ)) :
    collect timeout limit a look =
      if limit = 0 then return ([], none)
      else do
        return (← watch timeout (a, []) (collectStep limit look)).collected := by
  rw [collect]
  congr 1
  refine bind_congr fun w => ?_
  cases w <;> rfl

lemma follows_collectStep (limit : Nat) (look : σ → Frame → Act (σ × Option ρ)) :
    Follows look (fun past => past.length = limit) .ok Prod.mk (collectStep limit look) where
  failed h := ⟨_, bind_of_error h⟩
  unseen h := bind_of_ok h
  goesOn h hmore := by
    rw [length_append, length_singleton] at hmore
    rw [collectStep, bind_of_ok h]
    dsimp only
    rw [if_neg hmore]
    rfl
  stops h henough := by
    rw [length_append, length_singleton] at henough
    rw [collectStep, bind_of_ok h]
    dsimp only
    rw [if_pos henough]
    exact ⟨_, rfl⟩

/-- What is found, by the number of results that are wanted: the first ones of a list, and after all
of these its end. -/
structure Delivers (found : Nat → Act (List ρ × Option Fault)) (s : Session) (rs : List ρ)
    (ending : Except Fault Session) : Prop where
  upTo {limit : Nat} (h : limit ≤ rs.length) :
    ((found limit).run s).1 = .ok (rs.take limit, none)
  failed {limit : Nat} {e : Fault} (h : rs.length < limit) (he : ending = .error e) :
    ((found limit).run s).1 = .ok (rs, some e)
  timedOut {limit : Nat} {s' : Session} (h : rs.length < limit) (he : ending = .ok s') :
    (found limit).run s = (.ok (rs, none), s')

lemma Delivers.eq_take (h : Delivers found s rs ending)
    (hl : ((found limit).run s).1 = .ok (l, e)) : l = rs.take limit := by
  by_cases hle : limit ≤ rs.length
  · rw [h.upTo hle] at hl
    cases hl
    rfl
  · rw [take_of_length_le (Nat.le_of_not_le hle)]
    cases ending with
    | error e =>
      rw [h.failed (not_le.1 hle) rfl] at hl
      cases hl
      rfl
    | ok s' =>
      rw [h.timedOut (not_le.1 hle) rfl] at hl
      cases hl
      rfl

lemma Delivers.eq_of_length_lt (h : Delivers found s rs ending)
    (hl : ((found limit).run s).1 = .ok (l, e)) (hlt : l.length < limit) : rs = l := by
  have htake := h.eq_take hl
  rw [htake, length_take] at hlt
  rw [htake, take_of_length_le (by omega)]

lemma opening_upTo (hlimit : limit ≠ 0) (h : limit ≤ rs.length) :
    opening (fun past => past.length = limit) [] rs = some (rs.take limit) := by
  -- The last result that is wanted is at place `limit - 1`.
  have hleast : IsLeast {k | k < rs.length ∧ ([] ++ rs.take (k + 1)).length = limit}
      (limit - 1) := by
    refine ⟨⟨by omega, by simp; omega⟩, ?_⟩
    rintro k ⟨hk, hlength⟩
    simp only [nil_append, length_take] at hlength
    omega
  rw [opening_of_isLeast hleast, Nat.sub_add_cancel (by omega), nil_append]

lemma opening_beyond (h : rs.length < limit) :
    opening (fun past => past.length = limit) [] rs = none := by
  refine opening_eq_none_iff.2 fun k hk => ?_
  simp only [nil_append, length_take]
  omega

lemma collect_ends (timeout : Json) (hlimit : limit ≠ 0) (a : σ) (look : σ → Frame → Act (σ × Option ρ))
    (s : Session) : ∃ (w : Watched (σ × List ρ) (List ρ)) (s' : Session),
      (collect timeout limit a look).run s = (.ok w.collected, s') ∧
      Ends .ok Prod.mk (opening (fun past => past.length = limit) [] (seen timeout look a s).1)
        (seen timeout look a s).1 (seen timeout look a s).2 w s' := by
  obtain ⟨w, s', hrun, hends⟩ := watch_ends (follows_collectStep limit look) timeout a s
  refine ⟨w, s', ?_, hends⟩
  rw [collect_eq, if_neg hlimit, bind_of_ok hrun]
  rfl

lemma delivers_collect (timeout : Json) (a : σ) (look : σ → Frame → Act (σ × Option ρ))
    (s : Session) :
    Delivers (fun limit => collect timeout limit a look) s (seen timeout look a s).1
      (seen timeout look a s).2 where
  upTo {limit} h := by
    by_cases hlimit : limit = 0
    · simp [collect_eq, hlimit]
    · obtain ⟨w, s', hrun, hends⟩ := collect_ends timeout hlimit a look s
      rw [opening_upTo hlimit h] at hends
      rw [hrun]
      cases hends with
      | done h => exact congrArg (fun found => Except.ok (found, none)) (Except.ok.inj h).symm
      | refused h => cases h
  failed {limit e} h he := by
    obtain ⟨w, s', hrun, hends⟩ := collect_ends timeout (Nat.ne_zero_of_lt h) a look s
    rw [opening_beyond h, he] at hends
    rw [hrun]
    cases hends
    rfl
  timedOut {limit s'} h he := by
    obtain ⟨w, s₁, hrun, hends⟩ := collect_ends timeout (Nat.ne_zero_of_lt h) a look s
    rw [opening_beyond h, he] at hends
    rw [hrun]
    cases hends
    rfl

/-- Results that are collected after some preparation. If that fails there are none. -/
def prepared {τ : Type} (prepare : Act τ) (found : τ → Nat → Act (List ρ × Option Fault))
    (limit : Nat) : Act (List ρ × Option Fault) := do
  if limit = 0 then return ([], none)
  match ← Act.attempt prepare with
  | .error e => return ([], some e)
  | .ok t => found t limit

section Prepared

variable {τ : Type} {prepare : Act τ} {found : τ → Nat → Act (List ρ × Option Fault)}
  {s s' : Session}

lemma delivers_prepared {t : τ} {rs : List ρ} {ending : Except Fault Session}
    (hprepare : prepare.run s = (.ok t, s')) (h : Delivers (found t) s' rs ending) :
    Delivers (prepared prepare found) s rs ending := by
  have hrun {limit : Nat} (hlimit : limit ≠ 0) :
      (prepared prepare found limit).run s = (found t limit).run s' := by
    rw [prepared, if_neg hlimit, run_bind, run_attempt, hprepare]
  constructor
  · intro limit hle
    by_cases hlimit : limit = 0
    · simp [prepared, hlimit]
    · rw [hrun hlimit, h.upTo hle]
  · intro limit e hlt he
    rw [hrun (Nat.ne_zero_of_lt hlt), h.failed hlt he]
  · intro limit s' hlt he
    rw [hrun (Nat.ne_zero_of_lt hlt), h.timedOut hlt he]

lemma delivers_unprepared {e : Fault} (hprepare : prepare.run s = (.error e, s')) :
    Delivers (prepared prepare found) s [] (.error e) := by
  constructor
  · intro limit hle
    simp [prepared, Nat.le_zero.1 hle]
  · rintro limit e hlt ⟨⟩
    rw [prepared, if_neg (Nat.ne_zero_of_lt hlt), run_bind, run_attempt, hprepare]
    rfl
  · nofun

end Prepared

end Looks

end Display

end SetTop
