import Mathlib.Data.List.DropRight
import SetTop.Device.Motion
import SetTop.Proofs.Video.Watching

/-!
Waiting for motion in enough of the last frames.

A wait for `m` results with motion out of `n` keeps a window of the last `n` results and counts
those with motion as they come and go. The window and its count are functions of the results so far
(`Window.next_ofPast`), so the wait ends with the first result after which at least `m` of the last
`n` have motion, and gives the oldest of these (`waitForMotion_window`).
-/

namespace SetTop

open List Act Display Window

namespace Window

/-! ### The window that results leave behind -/

variable {n : Nat}

def ofPast (n : Nat) (past : List MotionResult) : Window :=
  { size := n, recent := past.rtake n, moving := (past.rtake n).countP (·.motion) }

lemma weight_eq (r : MotionResult) : weight r = ([r].countP (·.motion) : Nat) := by
  cases h : r.motion <;> simp [weight, h]

lemma length_rtake (past : List MotionResult) (n : Nat) :
    (past.rtake n).length = min n past.length := by
  rw [rtake, length_drop]
  omega

lemma rtake_of_length_le {past : List MotionResult} (h : past.length ≤ n) :
    past.rtake n = past := by
  rw [rtake, Nat.sub_eq_zero_of_le h, drop_zero]

lemma rtake_succ_of_lt {past : List MotionResult} (h : n < past.length) :
    ∃ oldest, past.rtake (n + 1) = oldest :: past.rtake n := by
  refine ⟨past[past.length - (n + 1)], ?_⟩
  rw [rtake, drop_eq_getElem_cons (by omega)]
  congr 2
  omega

lemma next_ofPast (hn : 1 ≤ n) (past : List MotionResult) (r : MotionResult) :
    (ofPast n past).next r = .ok (ofPast n (past ++ [r])) := by
  obtain ⟨n, rfl⟩ : ∃ k, n = k + 1 := ⟨n - 1, by omega⟩
  rw [next, ofPast, ofPast]
  dsimp only
  by_cases hfull : n < past.length
  · obtain ⟨oldest, holdest⟩ := rtake_succ_of_lt hfull
    have hoffset : (oldest :: past.rtake n).countP (·.motion) =
        [oldest].countP (·.motion) + (past.rtake n).countP (·.motion) := by
      rw [← countP_append, singleton_append]
    rw [if_pos (by rw [length_rtake]; omega), holdest, rtake_concat_succ]
    dsimp only
    rw [weight_eq, weight_eq, countP_append]
    congr 2
    omega
  · have hall : past.rtake (n + 1) = past := rtake_of_length_le (by omega)
    have hmore : (past ++ [r]).rtake (n + 1) = past ++ [r] := rtake_of_length_le (by simp; omega)
    rw [if_neg (by rw [length_rtake]; omega), hall, hmore, weight_eq, countP_append]
    rfl

def after (n : Nat) (past : List MotionResult) : Except Fault Window :=
  past.foldlM next { size := n }

lemma after_eq (hn : 1 ≤ n) (past : List MotionResult) : after n past = .ok (ofPast n past) := by
  induction past using reverseRecOn with
  | nil =>
    rw [ofPast, rtake_nil]
    rfl
  | append_singleton past r ih =>
    rw [after] at ih
    rw [after, foldlM_append, ih]
    exact (bind_pure _).trans (next_ofPast hn past r)

lemma exists_first {recent : List MotionResult} (h : 1 ≤ recent.countP (·.motion)) :
    ∃ r, recent.find? (·.motion) = some r := by
  obtain ⟨r, hr, hmotion⟩ := countP_pos_iff.1 h
  exact Option.isSome_iff_exists.1 (find?_isSome.2 ⟨r, hr, hmotion⟩)

end Window

namespace Device

open Window

/-! ### Waiting -/

lemma run_waitForMotion {quota : Option String} {text : String} {s s₀ s₁ : Session}
    {needed considered : Int} (timeout threshold maskName : Json)
    (hquota : (quotaOr quota).run s = (.ok text, s₀))
    (hread : readQuota text = .ok (needed, considered)) (hle : needed ≤ considered)
    (hdebug : (Log.debug s!"Waiting for {needed} out of {considered} frames with motion").run s₀ =
      (.ok (), s₁))
    (hpos : 0 ≤ considered) (hsize : considered.natAbs ≤ largest) :
    (waitForMotion timeout quota threshold maskName).run s =
      (waitFor timeout threshold maskName needed considered).run s₁ := by
  rw [waitForMotion, bind_of_ok hquota, hread,
    bind_of_ok (run_ofExcept (.ok (needed, considered)) s₀)]
  dsimp only
  rw [if_neg (by omega), bind_of_ok hdebug, if_neg (by omega), if_neg (by omega)]

lemma known_of_motionStep {task : MotionTask} {previous previous' : Option Image} {f : Frame}
    {s s' : Session} {r : MotionResult}
    (h : (motionStep task previous f).run s = (.ok (previous', some r), s')) : Log.Known s' := by
  rw [motionStep] at h
  obtain ⟨now, s₁, -, h⟩ := bind_eq_ok h
  cases previous with
  | none =>
    -- The first frame gives no result.
    dsimp only at h
    split at h
    · split at h
      · obtain ⟨_, _, hfail, -⟩ := bind_eq_ok h
        cases hfail
      · cases h
    · cases h
  | some before =>
    dsimp only at h
    split at h
    · obtain ⟨_, _, -, h⟩ := bind_eq_ok h
      cases h
    · obtain ⟨_, _, -, h⟩ := bind_eq_ok h
      obtain ⟨_, _, -, h⟩ := bind_eq_ok h
      obtain ⟨_, _, -, h⟩ := bind_eq_ok h
      obtain ⟨_, _, hdebug, h⟩ := bind_eq_ok h
      cases h
      exact Log.known_of_debug hdebug

/-- The oldest result with motion in the window. -/
def oldestMoving (n : Nat) (past : List MotionResult) : Except Fault MotionResult :=
  ((past.rtake n).find? (·.motion)).elim
    (.error (.failure .assertion
      "Logic error in wait_for_motion: This code should never be reached")) .ok

lemma follows_motionWaitStep (task : MotionTask) (m : Nat) {n : Nat} (hn : 1 ≤ n) :
    Display.Follows (motionStep task) (fun past => m ≤ (past.rtake n).countP (·.motion))
      (oldestMoving n) (fun a past => (a, ofPast n past)) (motionWaitStep task m) where
  failed h := ⟨_, bind_of_error h⟩
  unseen h := bind_of_ok h
  goesOn {a a' past f s s' r} h hmore := by
    rw [motionWaitStep, bind_of_ok h]
    dsimp only
    rw [next_ofPast hn, bind_of_ok (run_ofExcept (.ok (ofPast n (past ++ [r]))) s')]
    rw [if_pos (by rw [ofPast]; dsimp only; omega)]
    rfl
  stops {a a' past f s s' r} h henough := by
    have hdebug := Log.ok_debug (known_of_motionStep h) "Motion detected."
    rw [motionWaitStep, bind_of_ok h]
    dsimp only
    rw [next_ofPast hn, bind_of_ok (run_ofExcept (.ok (ofPast n (past ++ [r]))) s')]
    rw [if_neg (by rw [ofPast]; dsimp only; omega), bind_of_ok (Prod.ext hdebug rfl)]
    rw [oldestMoving, first, ofPast]
    cases ((past ++ [r]).rtake n).find? (·.motion) <;> exact ⟨_, rfl⟩

def windowAt (n : Nat) (rs : List MotionResult) (k : Nat) : List MotionResult :=
  (rs.take (k + 1)).rtake n

/-- At least `m` of the last `n` results up to result `k` have motion. -/
def Moving (rs : List MotionResult) (m n k : Nat) : Prop :=
  k < rs.length ∧ m ≤ (windowAt n rs k).countP (·.motion)

/-- How a wait for `m` out of `n` ends, by all the results and by what these end with. Once the time
is up one more frame is taken. -/
structure MotionAnswers (rs : List MotionResult) (ending : Except Fault Session) (m n : Nat)
    (outcome : Except Fault MotionResult) : Prop where
  found {k : Nat} (h : IsLeast {k | Moving rs m n k} k) :
    ∃ r, (windowAt n rs k).find? (·.motion) = some r ∧ outcome = .ok r
  failed {e : Fault} (h : ∀ k, ¬ Moving rs m n k) (he : ending = .error e) : outcome = .error e
  frameless {s' s'' : Session} {e : Fault} (h : ∀ k, ¬ Moving rs m n k) (he : ending = .ok s')
    (hframe : frame.run s' = (.error e, s'')) : outcome = .error e
  timedOut {s' s'' : Session} {f : Frame} (h : ∀ k, ¬ Moving rs m n k) (he : ending = .ok s')
    (hframe : frame.run s' = (.ok f, s'')) : ∃ text, outcome = .error (.failure .motionTimeout text)

lemma motionAnswers_watch (timeout maskName : Json) (task : MotionTask) {m n : Nat} (hm : 1 ≤ m)
    (hn : 1 ≤ n) (s : Session) :
    MotionAnswers (seen timeout (motionStep task) none s).1
      (seen timeout (motionStep task) none s).2 m n
      ((do
        let outcome ← watch timeout (none, { size := n }) (motionWaitStep task m)
        concludeMotion timeout maskName outcome : Act MotionResult).run s).1 := by
  obtain ⟨w, s', hrun, hends⟩ :=
    watch_ends (follows_motionWaitStep task m hn) timeout none s
  have hstart : ofPast n [] = { size := n } := by
    rw [ofPast, rtake_nil]
    rfl
  have hlimit {s' : Session} : (seen timeout (motionStep task) none s).2 = .ok s' → _ :=
    exists_limit_of_looks
  rw [hstart] at hrun
  rw [bind_of_ok hrun]
  generalize seen timeout (motionStep task) none s = seen at hends hlimit
  obtain ⟨rs, ending⟩ := seen
  have hnone (h : ∀ k, ¬ Moving rs m n k) :
      opening (fun past => m ≤ (past.rtake n).countP (·.motion)) [] rs = none :=
    opening_eq_none_iff.2 fun k hk hcount => h k ⟨hk, hcount⟩
  constructor
  · intro k hk
    have hopening : opening (fun past => m ≤ (past.rtake n).countP (·.motion)) [] rs =
        some ([] ++ rs.take (k + 1)) := opening_of_isLeast hk
    obtain ⟨r, hr⟩ := exists_first (hm.trans hk.1.2)
    have holdest : oldestMoving n (rs.take (k + 1)) = .ok r := by
      rw [windowAt] at hr
      rw [oldestMoving, hr]
      rfl
    rw [hopening, nil_append] at hends
    refine ⟨r, hr, ?_⟩
    cases hends with
    | done h =>
      rw [holdest] at h
      exact h.symm
    | refused h =>
      rw [holdest] at h
      cases h
  · rintro e h rfl
    rw [hnone h] at hends
    cases hends
    rfl
  · rintro s₁ s₂ e h rfl hframe
    rw [hnone h] at hends
    cases hends
    exact congrArg Prod.fst (bind_of_error hframe)
  · rintro s₁ s₂ f h rfl hframe
    rw [hnone h] at hends
    cases hends
    obtain ⟨limit, x, hnumber, hx⟩ := hlimit rfl
    obtain ⟨text, htext⟩ : ∃ text, motionTimeout maskName limit = .failure .motionTimeout text := by
      rw [motionTimeout, hx]
      exact ⟨_, rfl⟩
    refine ⟨text, (congrArg Prod.fst (bind_of_ok hframe)).trans ?_⟩
    rw [hnumber, Option.getD_some, htext]
    rfl

lemma MotionAnswers.of_error (m n : Nat) (e : Fault) :
    MotionAnswers [] (.error e) m n (.error e) where
  found h := absurd h.1.1 (Nat.not_lt_zero _)
  failed _ he := by
    cases he
    rfl
  frameless _ he := by cases he
  timedOut _ he := by cases he

lemma detectMotion_eq (timeout threshold maskName : Json) :
    detectMotion timeout threshold maskName =
      prepared (startMotion threshold maskName) fun task limit =>
        collect timeout limit none (motionStep task) := by
  funext limit
  rw [detectMotion]
  congr 1
  refine bind_congr fun r => ?_
  cases r <;> rfl

/-- A wait for motion in `m` out of `n` frames ends with the first result after which at least `m`
of the last `n` have motion, and gives the oldest of these. While results come in, the window is the
last `n` of them and its count is the number of those with motion. -/
theorem waitForMotion_window {quota : Option String} {text : String} {s s₀ s₁ : Session} {m n : Nat}
    (timeout threshold maskName : Json) (hquota : (quotaOr quota).run s = (.ok text, s₀))
    (hread : readQuota text = .ok ((m : Int), (n : Int))) (hm : 1 ≤ m) (hmn : m ≤ n)
    (hsize : n ≤ Window.largest)
    (hdebug : (Log.debug s!"Waiting for {(m : Int)} out of {(n : Int)} frames with motion").run s₀ =
      (.ok (), s₁)) :
    ∃ rs ending,
      Display.Delivers (detectMotion timeout threshold maskName) s₁ rs ending ∧
      MotionAnswers rs ending m n ((waitForMotion timeout quota threshold maskName).run s).1 ∧
      ∀ past, ∃ w, Window.after n past = .ok w ∧ w.recent = past.rtake n ∧
        w.moving = w.recent.countP (·.motion) ∧ (m ≤ w.moving → ∃ r, w.first = some r) := by
  have hn : 1 ≤ n := hm.trans hmn
  have hwindow (past : List MotionResult) : ∃ w, Window.after n past = .ok w ∧
      w.recent = past.rtake n ∧ w.moving = w.recent.countP (·.motion) ∧
        (m ≤ w.moving → ∃ r, w.first = some r) := by
    refine ⟨_, after_eq hn past, rfl, rfl, fun hle => exists_first ?_⟩
    rw [ofPast] at hle ⊢
    dsimp only at hle ⊢
    omega
  rw [run_waitForMotion timeout threshold maskName hquota hread (by omega) hdebug (by omega)
    (by simpa using hsize), waitFor, detectMotion_eq]
  rcases hstart : (startMotion threshold maskName).run s₁ with ⟨e | task, s₂⟩
  · rw [bind_of_error hstart]
    exact ⟨[], .error e, delivers_unprepared hstart, .of_error m n e, hwindow⟩
  · rw [bind_of_ok hstart]
    exact ⟨_, _, delivers_prepared hstart (delivers_collect timeout none _ s₂),
      motionAnswers_watch timeout maskName task hm hn s₂, hwindow⟩

/-! ### A place that lights up -/

def glow (shade : Nat) (time : Int) : Sample :=
  { format := some "BGR", width := 1, height := 1, data := some #[shade, shade, shade]
    time := some (.int time) }

def glowing (shades : List Nat) : Session :=
  { verbosity := some 0, settings := some {}
    display := some { source := { description := "", restarts := false }, made := 0 }
    bench.clock := 1
    bench.tick := 0
    bench.feed := shades.zipIdx.map fun (shade, k) => some (.sample (glow shade (k + 1))) }

def moderate : Json := .number (.real 0.84)

def motions : Except Fault (List MotionResult × Option Fault) → Option (List Bool × Bool)
  | .ok (rs, e) => some (rs.map (·.motion), e.isSome)
  | .error _ => none

/-- Of three results with motion in the first and in the third, two are enough at the third one, and
the first one is given. -/
theorem two_of_three_move : ∃ rs ending r,
    Display.Delivers (detectMotion (.ofNat 9) moderate .null) (glowing [0, 255, 255, 0]) rs ending ∧
    IsLeast {k | Moving rs 2 3 k} 2 ∧ rs[0]? = some r ∧
    ((waitForMotion (.ofNat 9) (some "2/3") moderate .null).run (glowing [0, 255, 255, 0])).1 =
      .ok r := by
  have hquota : (quotaOr (some "2/3")).run (glowing [0, 255, 255, 0]) =
      (.ok "2/3", glowing [0, 255, 255, 0]) := rfl
  have hread : readQuota "2/3" = .ok (((2 : Nat) : Int), ((3 : Nat) : Int)) := by rfl
  have hdebug (text : String) : (Log.debug text).run (glowing [0, 255, 255, 0]) =
      (.ok (), glowing [0, 255, 255, 0]) := rfl
  obtain ⟨rs, ending, hdelivers, hanswers, -⟩ := waitForMotion_window (.ofNat 9) moderate .null
    hquota hread (by decide) (by decide) (by decide) (hdebug _)
  have hseen : motions ((detectMotion (.ofNat 9) moderate .null 9).run
      (glowing [0, 255, 255, 0])).1 = some ([true, false, true], true) := by decide +kernel
  rcases hfound : ((detectMotion (.ofNat 9) moderate .null 9).run (glowing [0, 255, 255, 0])).1 with
    e | ⟨l, e⟩ <;> rw [hfound] at hseen
  · cases hseen
  obtain ⟨hmotions, -⟩ := Prod.mk.inj (Option.some.inj hseen)
  have hlength := congrArg length hmotions
  rw [length_map] at hlength
  obtain rfl := hdelivers.eq_of_length_lt hfound (by rw [hlength]; decide)
  obtain ⟨r₀, r₁, r₂, rfl⟩ := length_eq_three.1 hlength
  obtain ⟨h₀, h₁, h₂⟩ : r₀.motion = true ∧ r₁.motion = false ∧ r₂.motion = true := by
    simpa using hmotions
  have hleast : IsLeast {k | Moving [r₀, r₁, r₂] 2 3 k} 2 := by
    refine ⟨⟨by simp, by simp [windowAt, rtake, h₀, h₁, h₂]⟩, ?_⟩
    rintro k ⟨hk, hcount⟩
    by_contra hlt
    obtain rfl | rfl : k = 0 ∨ k = 1 := by omega
    · simp [windowAt, rtake, h₀] at hcount
    · simp [windowAt, rtake, h₀, h₁] at hcount
  obtain ⟨r, hr, houtcome⟩ := hanswers.found hleast
  obtain rfl : r₀ = r := by simpa [windowAt, rtake, h₀] using hr
  exact ⟨_, ending, r₀, hdelivers, hleast, rfl, houtcome⟩

def faultKind {α : Type} : Except Fault α → Option FaultKind
  | .error (.failure kind _) => some kind
  | .error (.foreign kind _) => some kind
  | _ => none

/-- A window of 2 ^ 63 results cannot be had, though the first result has motion. And if there is no
frame left once the time is up, that is what is reported. -/
theorem waits_that_fail_otherwise :
    ((readQuota "1/9223372036854775808").toOption = some (1, 9223372036854775808) ∧
      motions ((detectMotion (.ofNat 9) moderate .null 1).run (glowing [0, 255])).1 =
        some ([true], false) ∧
      faultKind ((waitForMotion (.ofNat 9) (some "1/9223372036854775808") moderate .null).run
        (glowing [0, 255])).1 = some .overflow) ∧
    motions ((detectMotion (.ofNat 1) moderate .null 9).run (glowing [0, 0, 0])).1 =
      some ([false], false) ∧
    faultKind ((waitForMotion (.ofNat 1) (some "1/1") moderate .null).run (glowing [0, 0, 0])).1 =
      some .noVideo := by
  decide +kernel

end Device

end SetTop
