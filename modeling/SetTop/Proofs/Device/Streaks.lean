import SetTop.Device.Search
import SetTop.Proofs.Matching.Results
import SetTop.Proofs.Video.Watching

/-!
Waiting for a match that stays in its place.

A wait for `n` frames in a row counts frames. A frame is counted if it matches, unless it is passed
over: a match at another place than that of the frame before, which was counted, ends the count but
does not start a new one. The wait ends with the first frame that completes `n` counted ones
(`waitForMatch_counts`).

So a wait never ends too early, but `n` frames in a row that match at one place are missed if the
first of them is passed over.
-/

namespace SetTop

open Act Display

namespace Streak

/-! ### Frames in a row -/

section Frames

variable (rs : List MatchResult)

def MatchesAt (place : Num × Num) (j : Nat) : Prop :=
  ∃ r, rs[j]? = some r ∧ r.matched = true ∧ r.corner = place

/-- The last `n` frames up to frame `k` match, all at one place. -/
def SettledBy (n k : Nat) : Prop :=
  n ≤ k + 1 ∧ ∃ place, ∀ j, k < j + n → j ≤ k → MatchesAt rs place j

/-- A frame is passed over if it matches elsewhere than the frame before, unless that was passed
over itself. -/
def PassedOver : Nat → Prop
  | 0 => False
  | j + 1 => ¬ PassedOver j ∧ ∃ a b, MatchesAt rs a j ∧ MatchesAt rs b (j + 1) ∧ a ≠ b

def Counted (j : Nat) : Prop := (∃ place, MatchesAt rs place j) ∧ ¬ PassedOver rs j

/-- The last `n` frames up to frame `k` are counted. -/
def CountedBy (n k : Nat) : Prop := n ≤ k + 1 ∧ ∀ j, k < j + n → j ≤ k → Counted rs j

variable {rs} {n j k : Nat} {a b place : Num × Num}

lemma MatchesAt.unique (ha : MatchesAt rs a j) (hb : MatchesAt rs b j) : a = b := by
  obtain ⟨r, hr, -, rfl⟩ := ha
  obtain ⟨r', hr', -, rfl⟩ := hb
  rw [hr] at hr'
  cases hr'
  rfl

lemma MatchesAt.lt_length (h : MatchesAt rs place j) : j < rs.length := by
  obtain ⟨r, hr, -⟩ := h
  exact (List.getElem?_eq_some_iff.1 hr).1

lemma Counted.matchesAt (hj : Counted rs j) (hnext : Counted rs (j + 1))
    (h : MatchesAt rs place (j + 1)) : MatchesAt rs place j := by
  obtain ⟨⟨a, ha⟩, hnot⟩ := hj
  by_cases hsame : a = place
  · exact hsame ▸ ha
  · exact absurd ⟨hnot, a, place, ha, h, hsame⟩ hnext.2

lemma not_passedOver_of_matchesAt (h : MatchesAt rs place j)
    (hnext : MatchesAt rs place (j + 1)) : ¬ PassedOver rs (j + 1) := by
  rintro ⟨-, a, b, ha, hb, hne⟩
  exact hne ((ha.unique h).trans (hnext.unique hb))

lemma CountedBy.lt_length (hn : 1 ≤ n) (h : CountedBy rs n k) : k < rs.length := by
  obtain ⟨⟨place, hplace⟩, -⟩ := h.2 k (by omega) le_rfl
  exact hplace.lt_length

lemma CountedBy.settledBy (hn : 1 ≤ n) (h : CountedBy rs n k) : SettledBy rs n k := by
  obtain ⟨hlen, hcounted⟩ := h
  obtain ⟨⟨place, hplace⟩, -⟩ := hcounted k (by omega) le_rfl
  refine ⟨hlen, place, fun j hj hjk => ?_⟩
  -- From the last frame backwards, each frame has the place of the next one.
  induction hjk using Nat.decreasingInduction with
  | self => exact hplace
  | of_succ j hjk ih =>
    exact (hcounted j hj hjk.le).matchesAt (hcounted (j + 1) (by omega) hjk) (ih (by omega))

lemma SettledBy.countedBy_iff (hn : 1 ≤ n) (h : SettledBy rs n k) :
    CountedBy rs n k ↔ ¬ PassedOver rs (k + 1 - n) := by
  obtain ⟨hlen, place, hplace⟩ := h
  constructor
  · intro hcounted
    exact (hcounted.2 (k + 1 - n) (by omega) (by omega)).2
  · intro hfirst
    refine ⟨hlen, fun j hj hjk => ⟨⟨place, hplace j hj hjk⟩, ?_⟩⟩
    obtain rfl | ⟨i, rfl, hi⟩ : j = k + 1 - n ∨ ∃ i, j = i + 1 ∧ k < i + n := by
      by_cases h : j = k + 1 - n
      · exact .inl h
      · exact .inr ⟨j - 1, by omega, by omega⟩
    · exact hfirst
    · exact not_passedOver_of_matchesAt (hplace i hi (by omega)) (hplace (i + 1) hj hjk)

lemma SettledBy.countedBy (hn : 1 ≤ n) (h : SettledBy rs (n + 1) k) : CountedBy rs n k := by
  obtain ⟨hlen, place, hplace⟩ := h
  have hlast : SettledBy rs n k := ⟨by omega, place, fun j hj hjk => hplace j (by omega) hjk⟩
  obtain ⟨i, hi⟩ : ∃ i, k + 1 - n = i + 1 := ⟨k - n, by omega⟩
  rw [hlast.countedBy_iff hn, hi]
  exact not_passedOver_of_matchesAt (hplace i (by omega) (by omega))
    (hplace (i + 1) (by omega) (by omega))

lemma countedBy_zero : CountedBy rs 0 k := ⟨Nat.zero_le _, fun j hj hjk => by omega⟩

lemma countedBy_first : CountedBy rs (n + 1) 0 ↔ n = 0 ∧ Counted rs 0 := by
  constructor
  · rintro ⟨hlen, hcounted⟩
    exact ⟨by omega, hcounted 0 (by omega) le_rfl⟩
  · rintro ⟨rfl, hcounted⟩
    exact ⟨le_rfl, fun j _ hj => Nat.le_zero.1 hj ▸ hcounted⟩

lemma countedBy_succ : CountedBy rs (n + 1) (k + 1) ↔ CountedBy rs n k ∧ Counted rs (k + 1) := by
  constructor
  · rintro ⟨hlen, hcounted⟩
    exact ⟨⟨by omega, fun j hj hjk => hcounted j (by omega) (by omega)⟩,
      hcounted (k + 1) (by omega) le_rfl⟩
  · rintro ⟨⟨hlen, hcounted⟩, hlast⟩
    refine ⟨by omega, fun j hj hjk => ?_⟩
    obtain rfl | hjk := Nat.eq_or_lt_of_le hjk
    · exact hlast
    · exact hcounted j (by omega) (by omega)

end Frames

/-! ### The count -/

def after (rs : List MatchResult) : Streak := rs.foldl (fun s r => s.next r.matched r.corner) {}

lemma after_concat (rs : List MatchResult) (r : MatchResult) :
    after (rs ++ [r]) = (after rs).next r.matched r.corner := by
  rw [after, List.foldl_concat]
  rfl

/-- The corner of the region has integer coordinates. -/
def Pinned (r : MatchResult) : Prop := ∃ x y : Int, r.corner = (.int x, .int y)

lemma samePlace_iff {r r' : MatchResult} (h : Pinned r) (h' : Pinned r') :
    samePlace r.corner r'.corner = true ↔ r.corner = r'.corner := by
  obtain ⟨x, y, hr⟩ := h
  obtain ⟨x', y', hr'⟩ := h'
  simp only [hr, hr', samePlace, Num.eq, Num.compare?, Bool.and_eq_true, beq_iff_eq,
    Option.some.injEq, Int.compare_eq_eq, Prod.mk.injEq, Num.int.injEq]

section Count

variable {rs : List MatchResult} {n k : Nat}

/-- How long the streak is after the first `k` frames. -/
def countAt (rs : List MatchResult) (k : Nat) : Nat := (after (rs.take k)).count

variable {r : MatchResult}

section Next

variable (hr : rs[k]? = some r)

include hr

lemma after_take_succ :
    after (rs.take (k + 1)) = (after (rs.take k)).next r.matched r.corner := by
  rw [List.take_add_one, hr, Option.toList_some, after_concat]

lemma countAt_of_not_matched (h : r.matched = false) : countAt rs (k + 1) = 0 := by
  rw [countAt, after_take_succ hr, h]
  rfl

lemma countAt_of_matched (h : r.matched = true)
    (hgoes : countAt rs k = 0 ∨ samePlace r.corner (after (rs.take k)).place = true) :
    countAt rs (k + 1) = countAt rs k + 1 := by
  rw [countAt, after_take_succ hr, h]
  exact if_pos (by simpa [countAt] using hgoes)

lemma countAt_of_moved (hpos : countAt rs k ≠ 0)
    (hmoved : ¬ samePlace r.corner (after (rs.take k)).place = true) : countAt rs (k + 1) = 0 := by
  rw [countAt, after_take_succ hr]
  exact if_neg (by simp_all [countAt])

lemma counted_iff : Counted rs k ↔ r.matched = true ∧ ¬ PassedOver rs k := by
  refine and_congr_left fun _ => ⟨?_, fun h => ⟨r.corner, r, hr, h, rfl⟩⟩
  rintro ⟨_, r', hr', hmatched, -⟩
  rw [hr] at hr'
  cases hr'
  exact hmatched

lemma passedOver_succ_iff {r' : MatchResult} (hr' : rs[k + 1]? = some r')
    (h : r'.matched = true) : PassedOver rs (k + 1) ↔ Counted rs k ∧ r'.corner ≠ r.corner := by
  constructor
  · rintro ⟨hnot, a, b, ha, hb, hne⟩
    refine ⟨⟨⟨a, ha⟩, hnot⟩, fun hsame => hne ?_⟩
    obtain ⟨_, hr₁, -, rfl⟩ := ha
    obtain ⟨_, hr₂, -, rfl⟩ := hb
    rw [hr] at hr₁
    rw [hr'] at hr₂
    cases hr₁
    cases hr₂
    exact hsame.symm
  · rintro ⟨hcounted, hne⟩
    exact ⟨hcounted.2, r.corner, r'.corner, ⟨r, hr, ((counted_iff hr).1 hcounted).1, rfl⟩,
      ⟨r', hr', h, rfl⟩, hne.symm⟩

end Next

lemma countAt_succ (hrs : ∀ r ∈ rs, Pinned r) (hk : k < rs.length) :
    (Counted rs k → countAt rs (k + 1) = countAt rs k + 1) ∧
      (¬ Counted rs k → countAt rs (k + 1) = 0) := by
  induction k with
  | zero =>
    have hr : rs[0]? = some rs[0] := List.getElem?_eq_getElem hk
    rw [counted_iff hr]
    cases h : rs[0].matched with
    | false => simp [countAt_of_not_matched hr h]
    | true => exact ⟨fun _ => countAt_of_matched hr h (.inl rfl), fun hnot => absurd ⟨rfl, id⟩ hnot⟩
  | succ k ih =>
    have hr : rs[k]? = some rs[k] := List.getElem?_eq_getElem _
    have hr' : rs[k + 1]? = some rs[k + 1] := List.getElem?_eq_getElem hk
    rw [counted_iff hr']
    cases h : rs[k + 1].matched with
    | false => simp [countAt_of_not_matched hr' h]
    | true =>
      obtain ⟨hlonger, hends⟩ := ih (by omega)
      have hplace : samePlace rs[k + 1].corner (after (rs.take (k + 1))).place = true ↔
          rs[k + 1].corner = rs[k].corner := by
        rw [after_take_succ hr]
        exact samePlace_iff (hrs _ (List.getElem_mem _)) (hrs _ (List.getElem_mem _))
      rw [passedOver_succ_iff hr hr' h]
      -- The streak before this frame is empty exactly if the frame before was not counted.
      by_cases hcounted : Counted rs k
      · have hpos : countAt rs (k + 1) ≠ 0 := hlonger hcounted ▸ Nat.succ_ne_zero _
        by_cases hsame : rs[k + 1].corner = rs[k].corner
        · simp [countAt_of_matched hr' h (.inr (hplace.2 hsame)), hsame]
        · simp [countAt_of_moved hr' hpos (mt hplace.1 hsame), hcounted, hsame]
      · simp [countAt_of_matched hr' h (.inl (hends hcounted)), hcounted]

lemma le_countAt_iff (hrs : ∀ r ∈ rs, Pinned r) (hk : k < rs.length) :
    n ≤ countAt rs (k + 1) ↔ CountedBy rs n k := by
  induction k generalizing n with
  | zero =>
    obtain ⟨hlonger, hends⟩ := countAt_succ hrs hk
    have hcount : countAt rs 0 = 0 := rfl
    cases n with
    | zero => exact iff_of_true (Nat.zero_le _) countedBy_zero
    | succ n =>
      rw [countedBy_first]
      by_cases hcounted : Counted rs 0
      · simp [hlonger hcounted, hcount, hcounted]
      · simp [hends hcounted, hcounted]
  | succ k ih =>
    obtain ⟨hlonger, hends⟩ := countAt_succ hrs hk
    cases n with
    | zero => exact iff_of_true (Nat.zero_le _) countedBy_zero
    | succ n =>
      rw [countedBy_succ, ← ih (by omega)]
      by_cases hcounted : Counted rs (k + 1)
      · simp [hlonger hcounted, hcounted]
      · simp [hends hcounted, hcounted]

lemma isLeast_countAt (hrs : ∀ r ∈ rs, Pinned r) (hn : 1 ≤ n)
    (h : IsLeast {k | CountedBy rs n k} k) :
    IsLeast {k | k < rs.length ∧ countAt rs (k + 1) = n} k := by
  obtain ⟨hcounted, hleast⟩ := h
  have hk : k < rs.length := hcounted.lt_length hn
  have hlong : n ≤ countAt rs (k + 1) := (le_countAt_iff hrs hk).2 hcounted
  have hbefore : countAt rs k < n := by
    cases k with
    | zero => exact hn
    | succ k =>
      by_contra hge
      have := hleast ((le_countAt_iff hrs (by omega)).1 (not_lt.1 hge))
      omega
  have hstep : countAt rs (k + 1) ≤ countAt rs k + 1 := by
    obtain ⟨hlonger, hends⟩ := countAt_succ hrs hk
    by_cases hc : Counted rs k
    · exact (hlonger hc).le
    · exact (hends hc).symm ▸ Nat.zero_le _
  refine ⟨⟨hk, by omega⟩, ?_⟩
  rintro j ⟨hj, hcount⟩
  exact hleast ((le_countAt_iff hrs hj).1 hcount.ge)

end Count

end Streak

open Streak

/-! ### Results -/

variable {announce : MatchResult → Act Unit} {s s' : Session}

lemma MatchRun.Placed.pinned {run : MatchRun} {x y right bottom : Int}
    (hplaced : run.Placed x y right bottom) {result : MatchResult} {rest : Option MatchRun}
    (h : (run.step announce).run s = (.ok (result, rest), s')) : Pinned result := by
  obtain ⟨-, -, hregion, -⟩ := step_eq_ok h
  have hw := hplaced.width_pos
  have hh := hplaced.height_pos
  rw [hplaced.origin, Hunt.candidate, Hunt.regionAt_eq] at hregion
  dsimp only [Region.ofInts] at hregion
  rw [← Region.ofInts, Region.translate_ofInts (by omega) (by omega)] at hregion
  exact ⟨_, _, congrArg (fun r : Region => (r.x, r.y)) (Except.ok.inj hregion).symm⟩

lemma matchFrame_ok {template : Template} {frame : Frame} {params : MatchParameters}
    {region : Option Region} {r : MatchResult}
    (h : (matchFrame template frame params region announce).run s = (.ok r, s')) :
    Pinned r ∧ Log.Known s' := by
  rw [matchFrame] at h
  obtain ⟨run, s₁, hstart, h⟩ := bind_eq_ok h
  obtain ⟨⟨result, rest⟩, s₂, hstep, h⟩ := bind_eq_ok h
  obtain ⟨_, s₃, -, h⟩ := bind_eq_ok h
  obtain ⟨x, y, right, bottom, hplaced⟩ := MatchRun.start_ok hstart
  have hpinned := hplaced.pinned hstep
  split at h
  all_goals
    obtain ⟨_, s₄, hdebug, h⟩ := bind_eq_ok h
    cases h
    exact ⟨hpinned, Log.known_of_debug hdebug⟩

namespace Device

variable {s : Session} {rs : List MatchResult} {n : Nat}

lemma searchIn_ok {t : Template} {p : MatchParameters} {region : Option Region} {f : Frame}
    {s' : Session} {r : MatchResult} (h : (searchIn t (some p) region f).run s = (.ok r, s')) :
    Pinned r ∧ Log.Known s' := by
  rw [searchIn] at h
  obtain ⟨r, s₁, hsearch, h⟩ := bind_eq_ok h
  obtain ⟨_, s₂, hmark, h⟩ := bind_eq_ok h
  cases h
  obtain ⟨hpinned, hknown⟩ := matchFrame_ok hsearch
  have hmoves : Act.Moves Log.StaysKnown (markMatch r t.label) :=
    .bind (.ofExcept _) fun _ _ h => h
  exact ⟨hpinned, hmoves.of_run_eq hmark hknown⟩

/-! ### Waiting -/

/-- The look at a frame, in the form in which results are collected. -/
def matchLook (t : Template) (p : MatchParameters) (region : Option Region) (_ : Unit) (f : Frame) :
    Act (Unit × Option MatchResult) :=
  return ((), some (← searchIn t (some p) region f))

lemma isLong_ofNat (streak : Streak) (n : Nat) :
    streak.isLong (.ofNat n) = true ↔ streak.count = n := by
  simp [isLong, Json.ofNat, Json.same, Json.number?, Num.eq, Num.compare?]

def lastResult (past : List MatchResult) : Except Fault MatchResult :=
  past.getLast?.elim (.error (.foreign .unboundLocal "")) .ok

lemma lastResult_take {k : Nat} (hk : k < rs.length) : lastResult (rs.take (k + 1)) = .ok rs[k] := by
  rw [lastResult, List.take_add_one, List.getElem?_eq_getElem hk, Option.toList_some,
    List.getLast?_concat]
  rfl

lemma follows_waitStep (t : Template) (p : MatchParameters) (region : Option Region) (n : Nat) :
    Display.Follows (matchLook t p region) (fun past => (after past).count = n) lastResult
      (fun _ past => (after past, past.getLast?)) (waitStep t p region (.ofNat n)) where
  failed {a past f s s' e} h := by
    rw [matchLook, run_bind] at h
    rcases hrun : (searchIn t (some p) region f).run s with ⟨e' | r, s₁⟩ <;> rw [hrun] at h <;>
      cases h
    exact ⟨_, bind_of_error hrun⟩
  unseen {a a' past f s s'} h := by
    obtain ⟨r, s₁, -, h⟩ := bind_eq_ok h
    cases h
  goesOn {a a' past f s s' r} h hmore := by
    obtain ⟨r, s₁, hrun, h⟩ := bind_eq_ok h
    cases h
    rw [after_concat, ← isLong_ofNat] at hmore
    rw [waitStep, bind_of_ok hrun]
    rw [if_neg hmore, after_concat, List.getLast?_concat]
    rfl
  stops {a a' past f s s' r} h henough := by
    obtain ⟨r, s₁, hrun, h⟩ := bind_eq_ok h
    cases h
    rw [after_concat, ← isLong_ofNat] at henough
    rw [waitStep, bind_of_ok hrun]
    have hdebug := Log.ok_debug (searchIn_ok hrun).2 ("Matched " ++ t.friendlyName)
    rw [if_pos henough, bind_of_ok (Prod.ext hdebug rfl), lastResult, List.getLast?_concat]
    exact ⟨_, rfl⟩

/-- How a wait for `n` frames in a row ends, by the results of all the frames and by what these end
with. -/
structure Answers (rs : List MatchResult) (ending : Except Fault Session) (n : Nat)
    (outcome : Except Fault MatchResult) : Prop where
  found {k : Nat} (h : IsLeast {k | CountedBy rs n k} k) : ∃ r, rs[k]? = some r ∧ outcome = .ok r
  failed {e : Fault} (h : ∀ k, ¬ CountedBy rs n k) (he : ending = .error e) : outcome = .error e
  unseen {s' : Session} (hrs : rs = []) (he : ending = .ok s') :
    outcome = .error (.foreign .unboundLocal "")
  timedOut {s' : Session} (h : ∀ k, ¬ CountedBy rs n k) (hrs : rs ≠ []) (he : ending = .ok s') :
    ∃ text, outcome = .error (.failure .matchTimeout text)

lemma Answers.of_error (hn : 1 ≤ n) (e : Fault) :
    Answers [] (.error e) n (.error e) where
  found h := absurd (h.1.lt_length hn) (Nat.not_lt_zero _)
  failed _ he := by
    cases he
    rfl
  unseen _ he := by cases he
  timedOut _ hrs := absurd rfl hrs

lemma detectMatch_eq (source : TemplateSource) (timeout : Json) (p : MatchParameters)
    (region : Option Region) : detectMatch source timeout (some p) region =
      prepared (announceSearch source) fun t limit =>
        collect timeout limit () (matchLook t p region) := by
  funext limit
  rw [detectMatch]
  congr 1
  refine bind_congr fun r => ?_
  cases r <;> rfl

lemma answers_watch (t : Template) (timeout : Json) (p : MatchParameters) (region : Option Region)
    (hn : 1 ≤ n) (s : Session) :
    Answers (seen timeout (matchLook t p region) () s).1
      (seen timeout (matchLook t p region) () s).2 n
      ((do
        let outcome ← watch timeout ({}, none) (waitStep t p region (.ofNat n))
        concludeWait t timeout outcome : Act MatchResult).run s).1 := by
  obtain ⟨w, s', hrun, hends⟩ := watch_ends (follows_waitStep t p region n) timeout () s
  replace hrun : (watch timeout ({}, none) (waitStep t p region (.ofNat n))).run s =
    (.ok w, s') := hrun
  have hpinned : ∀ r ∈ (seen timeout (matchLook t p region) () s).1, Pinned r := by
    refine forall_mem_looks_of_keeps (fun _ h => ⟨trivial, ?_⟩) trivial
    rintro r rfl
    obtain ⟨r, s₁, hrun, h⟩ := bind_eq_ok h
    cases h
    exact (searchIn_ok hrun).1
  have hlimit {s' : Session} : (seen timeout (matchLook t p region) () s).2 = .ok s' → _ :=
    exists_limit_of_looks
  rw [bind_of_ok hrun]
  generalize seen timeout (matchLook t p region) () s = seen at hends hpinned hlimit
  obtain ⟨rs, ending⟩ := seen
  have hnone (h : ∀ k, ¬ CountedBy rs n k) :
      opening (fun past => (after past).count = n) [] rs = none := by
    refine opening_eq_none_iff.2 fun k hk hcount => h k ((le_countAt_iff hpinned hk).1 ?_)
    exact hcount.ge
  constructor
  · intro k hk
    have hopening : opening (fun past => (after past).count = n) [] rs =
        some ([] ++ rs.take (k + 1)) :=
      opening_of_isLeast (isLeast_countAt hpinned hn hk)
    have hlast := lastResult_take (hk.1.lt_length hn)
    rw [hopening, List.nil_append] at hends
    refine ⟨_, List.getElem?_eq_getElem (hk.1.lt_length hn), ?_⟩
    cases hends with
    | done h =>
      rw [hlast] at h
      exact h.symm
    | refused h =>
      rw [hlast] at h
      cases h
  · rintro e h rfl
    rw [hnone h] at hends
    cases hends
    rfl
  · rintro s' rfl rfl
    cases hends
    rfl
  · rintro s' h hrs rfl
    rw [hnone h] at hends
    cases hends
    obtain ⟨limit, x, hnumber, hx⟩ := hlimit rfl
    obtain ⟨text, htext⟩ :
        ∃ text, matchTimeout t.friendlyName limit = .failure .matchTimeout text := by
      rw [matchTimeout, hx]
      exact ⟨_, rfl⟩
    rw [List.getLast?_eq_some_getLast hrs]
    refine ⟨text, ?_⟩
    show Except.error (matchTimeout t.friendlyName (timeout.number?.getD 0)) = _
    rw [hnumber, Option.getD_some, htext]

/-- A wait for `n` matches in a row ends with the first frame that completes `n` counted ones, and
otherwise as the results themselves end. Counted frames match at one place. Conversely, frames that
match at one place are counted if the first of them is not passed over, which is so for all but the
first of them. -/
theorem waitForMatch_counts {source : TemplateSource} {params : Option MatchParameters}
    {s s₀ s₁ : Session} {p : MatchParameters} {t : Template} {n : Nat} (timeout : Json)
    (region : Option Region)
    (hp : (parametersOr params).run s = (.ok p, s₀))
    (ht : (loadTemplate source).run s₀ = (.ok t, s₁)) (hn : 1 ≤ n) :
    ∃ rs ending,
      Display.Delivers (detectMatch (.loaded t) timeout (some p) region) s₁ rs ending ∧
      Answers rs ending n ((waitForMatch source timeout (.ofNat n) params region).run s).1 ∧
      ∀ k, (CountedBy rs n k → SettledBy rs n k) ∧
        (SettledBy rs n k → (CountedBy rs n k ↔ ¬ PassedOver rs (k + 1 - n))) ∧
        (SettledBy rs (n + 1) k → CountedBy rs n k) := by
  have hframes (rs : List MatchResult) (k : Nat) : (CountedBy rs n k → SettledBy rs n k) ∧
        (SettledBy rs n k → (CountedBy rs n k ↔ ¬ PassedOver rs (k + 1 - n))) ∧
        (SettledBy rs (n + 1) k → CountedBy rs n k) :=
    ⟨CountedBy.settledBy hn, SettledBy.countedBy_iff hn, SettledBy.countedBy hn⟩
  simp only [waitForMatch, detectMatch_eq]
  rw [bind_of_ok hp, bind_of_ok ht]
  rcases hdebug : (Log.debug ("Searching for " ++ t.friendlyName)).run s₁ with ⟨e | ⟨⟩, s₂⟩
  · rw [bind_of_error hdebug]
    have hload : (announceSearch (.loaded t)).run s₁ = (.error e, s₂) :=
      (bind_of_ok (run_pure t s₁)).trans (bind_of_error hdebug)
    exact ⟨[], .error e, Display.delivers_unprepared hload, .of_error hn e, hframes []⟩
  · rw [bind_of_ok hdebug]
    have hload : (announceSearch (.loaded t)).run s₁ = (.ok t, s₂) :=
      (bind_of_ok (run_pure t s₁)).trans (bind_of_ok hdebug)
    exact ⟨_, _, Display.delivers_prepared hload (Display.delivers_collect timeout () _ s₂),
      answers_watch t timeout p region hn s₂, hframes _⟩

/-! ### A match that moves -/

def spot (place : Nat) (time : Int) : Sample :=
  { format := some "BGR", width := 3, height := 1, time := some (.int time)
    data := some (Array.range 9 |>.map fun i => if i / 3 = place then 255 else 9) }

def movingSession : Session :=
  { Hunt.plainSession with
    display := some { source := { description := "", restarts := false }, made := 0 }
    bench.clock := 1
    bench.tick := 0
    bench.feed := [spot 0 1, spot 1 2, spot 1 3, spot 1 4].map fun x => some (.sample x) }

def spotTemplate : Template := { image := ⟨1, 1, some 3, #[255, 255, 255], .byte⟩ }

def spotParameters : MatchParameters :=
  ⟨"sqdiff-normed", .number (.real 0.8), "none", .number (.real 0.5), .number 1⟩

def sighting (r : MatchResult) : Bool × Option (Int × Int) :=
  (r.matched, match r.corner with
    | (.int x, .int y) => some (x, y)
    | _ => none)

def sightings : Except Fault (List MatchResult × Option Fault) → List (Bool × Option (Int × Int))
  | .ok (rs, _) => rs.map sighting
  | .error _ => []

def endsInVain : Except Fault MatchResult → Bool
  | .ok _ => false
  | .error e => isMatchTimeout e

lemma matchesAt_of_sighting {j : Nat} {x y : Int}
    (h : (rs.map sighting)[j]? = some (true, some (x, y))) : MatchesAt rs (.int x, .int y) j := by
  rw [List.getElem?_map, Option.map_eq_some_iff] at h
  obtain ⟨r, hr, hsighting⟩ := h
  obtain ⟨hmatched, hplace⟩ := Prod.mk.inj hsighting
  refine ⟨r, hr, hmatched, ?_⟩
  split at hplace
  · next heq =>
    rw [heq]
    cases hplace
    rfl
  · cases hplace

lemma map_sighting_eq {found : Nat → Act (List MatchResult × Option Fault)}
    {ending : Except Fault Session} {limit : Nat} {seen : List (Bool × Option (Int × Int))}
    (h : Display.Delivers found s rs ending) (hseen : sightings ((found limit).run s).1 = seen)
    (hsome : seen ≠ []) (hlt : seen.length < limit) : rs.map sighting = seen := by
  rcases hfound : ((found limit).run s).1 with e | ⟨l, e⟩
  · rw [hfound] at hseen
    exact absurd hseen.symm hsome
  · rw [hfound] at hseen
    obtain rfl : l.map sighting = seen := hseen
    rw [h.eq_of_length_lt hfound (by simpa using hlt)]

/-- The second and the third frame match at one place, and yet a wait for two matches in a row ends
in vain: the second frame is passed over. -/
theorem moved_match_is_missed : ∃ rs ending,
    Display.Delivers
      (detectMatch (.loaded spotTemplate) (.ofNat 2) (some spotParameters) (some .all))
      movingSession rs ending ∧
    SettledBy rs 2 2 ∧ PassedOver rs 1 ∧ (∀ k, ¬ CountedBy rs 2 k) ∧
    endsInVain ((waitForMatch (.loaded spotTemplate) (.ofNat 2) (.ofNat 2) (some spotParameters)
      (some .all)).run movingSession).1 = true := by
  have hparameters : (parametersOr (some spotParameters)).run movingSession =
      (.ok spotParameters, movingSession) := rfl
  have htemplate : (loadTemplate (.loaded spotTemplate)).run movingSession =
      (.ok spotTemplate, movingSession) := rfl
  obtain ⟨rs, ending, hdelivers, hanswers, hframes⟩ :=
    waitForMatch_counts (.ofNat 2) (some .all) hparameters htemplate (by decide : 1 ≤ 2)
  have hvain : endsInVain ((waitForMatch (.loaded spotTemplate) (.ofNat 2) (.ofNat 2)
      (some spotParameters) (some .all)).run movingSession).1 = true := by decide +kernel
  have hseen : sightings ((detectMatch (.loaded spotTemplate) (.ofNat 2) (some spotParameters)
      (some .all) 9).run movingSession).1 =
        [(true, some (0, 0)), (true, some (1, 0)), (true, some (1, 0))] := by decide +kernel
  have hrs := map_sighting_eq hdelivers hseen (by decide) (by decide)
  have h₀ : MatchesAt rs (.int 0, .int 0) 0 := matchesAt_of_sighting (by rw [hrs]; rfl)
  have h₁ : MatchesAt rs (.int 1, .int 0) 1 := matchesAt_of_sighting (by rw [hrs]; rfl)
  have h₂ : MatchesAt rs (.int 1, .int 0) 2 := matchesAt_of_sighting (by rw [hrs]; rfl)
  refine ⟨rs, ending, hdelivers, ⟨by decide, (.int 1, .int 0), fun j hj hjk => ?_⟩, ?_,
    fun k hk => ?_, hvain⟩
  · obtain rfl | rfl : j = 1 ∨ j = 2 := by omega
    · exact h₁
    · exact h₂
  · exact ⟨id, _, _, h₀, h₁, by simp⟩
  · classical
    have hleast : IsLeast {k | CountedBy rs 2 k} (Nat.find ⟨k, hk⟩) :=
      ⟨Nat.find_spec _, fun _ => Nat.find_min' _⟩
    obtain ⟨r, -, hfound⟩ := hanswers.found hleast
    rw [hfound] at hvain
    cases hvain

end Device

end SetTop
