import SetTop.Matching.Parameters
import SetTop.Proofs.Matching.Packing

/-!
Hidden places at a threshold of zero.

A candidate that matches hides the places around it. For squared differences a hidden place reaches
no threshold. For the two correlations its value is zero, which every threshold above zero tells
from a match (`MatchMethod.Selects`), but a threshold of zero does not. There a hunt that finds
something never comes to a candidate that does not match (`Hunt.Laid.matched_after`).
-/

namespace SetTop

open List Number

/-! ### Parameters -/

namespace MatchParameters

/-- Parameters with values that have a meaning: a known method, a threshold between zero and one,
and what confirmation reads, if there is any. -/
structure Documented (p : MatchParameters) (t : Num) : Prop where
  method : p.matchMethod ∈ matchMethods
  threshold : p.matchThreshold.number? = some t
  proper : t.Proper
  least : t.ge 0 = true
  most : Num.ge 1 t = true
  confirm : p.confirmMethod = "none" ∨
    (∃ limit, p.confirmLimit = .ok limit) ∧ ∃ passes, p.passCount = .ok passes

/-- Whether places that are hidden reach the threshold: for the two correlations a hidden place
counts as zero. -/
def KeepsHidden (p : MatchParameters) (t : Num) : Prop :=
  p.matchMethod ≠ "sqdiff-normed" ∧ t.eq 0 = true

variable {p : MatchParameters} {t : Num}

lemma Documented.exists_method (hp : p.Documented t) :
    ∃ method, MatchMethod.ofName? p.matchMethod = some method ∧
      (method = .squaredDifference ↔ p.matchMethod = "sqdiff-normed") := by
  obtain hmethod := hp.method
  simp only [matchMethods, mem_cons, not_mem_nil, or_false] at hmethod
  rcases hmethod with h | h | h <;>
  · rw [h]
    exact ⟨_, rfl, by decide⟩

lemma thresholdAt_eq_ok {level : Nat} {d : Num} (hthreshold : p.matchThreshold.number? = some t)
    (hminus : t.minus (if level > 0 then .real 0.2 else 0) = .ok d) :
    p.thresholdAt level = .ok (.max 0 d) := by
  rw [thresholdAt, Json.needNumber, hthreshold]
  change (t.minus (if level > 0 then .real 0.2 else 0) >>= fun d => .ok (Num.max 0 d)) = _
  rw [hminus]
  rfl

lemma Documented.cases (hp : p.Documented t) :
    t = 0 ∨ t = 1 ∨ ∃ x, t = .real x ∧ x.isFinite = true := by
  have hleast := hp.least
  have hmost := hp.most
  cases t with
  | int n =>
    have h0 : (Num.int n).ge (.int 0) = true := hleast
    have h1 : (Num.int 1).ge (.int n) = true := hmost
    rw [Num.int_ge_int, decide_eq_true_iff] at h0 h1
    obtain rfl | rfl : n = 0 ∨ n = 1 := by omega
    · exact .inl rfl
    · exact .inr (.inl rfl)
  | real x => exact .inr (.inr ⟨x, rfl, hp.proper⟩)
  | posInf => cases hmost
  | negInf | nan => cases hleast

lemma Documented.exists_thresholdAt (hp : p.Documented t) (level : Nat) :
    ∃ t', p.thresholdAt level = .ok t' := by
  have hminus : ∃ d, t.minus (if level > 0 then .real 0.2 else 0) = .ok d := by
    rcases hp.cases with rfl | rfl | ⟨x, rfl, -⟩ <;> split <;> exact ⟨_, rfl⟩
  obtain ⟨d, hd⟩ := hminus
  exact ⟨_, thresholdAt_eq_ok hp.threshold hd⟩

lemma Documented.thresholdAt_zero (hp : p.Documented t) :
    ∃ t', p.thresholdAt 0 = .ok t' ∧ t'.Proper ∧
      (t.gt 0 = true → t'.gt 0 = true) ∧ (t.gt 0 = false → t' = 0) := by
  rcases hp.cases with rfl | rfl | ⟨x, rfl, hx⟩
  · exact ⟨_, thresholdAt_eq_ok hp.threshold rfl, trivial, id, fun _ => rfl⟩
  · exact ⟨_, thresholdAt_eq_ok hp.threshold rfl, trivial, id, fun h => absurd h (by decide)⟩
  · obtain ⟨hfinite, hticks⟩ := ticks_add_zero hx
    have hminus : (Num.real x).minus 0 = .ok (.real (x + 0.0)) := by
      rw [← ofFloat_eq hfinite]
      rfl
    have hsame : (Num.real (x + 0.0)).gt 0 = (Num.real x).gt 0 := by
      rw [Bool.eq_iff_iff, Num.real_gt_zero_iff hfinite, Num.real_gt_zero_iff hx, hticks]
    refine ⟨_, thresholdAt_eq_ok hp.threshold hminus, ?_⟩
    rw [Num.max, ← hsame]
    split
    · next hgt => exact ⟨hfinite, id, fun hfalse => by rw [hgt] at hfalse; cases hfalse⟩
    · next hgt => exact ⟨trivial, fun htrue => absurd htrue hgt, fun _ => rfl⟩

end MatchParameters

/-! ### Hidden places at a threshold of zero -/

lemma MatchMethod.correlates {method : MatchMethod} (hmethod : method ≠ .squaredDifference) :
    (∀ v, Heatmap.certaintyOf method v = v) ∧ method.hidden = 0.0 ∧
      ∀ v b, method.precedes v b = decide (b < v) := by
  cases method with
  | squaredDifference => contradiction
  | correlation | coefficient => exact ⟨fun _ => rfl, rfl, fun _ _ => rfl⟩

namespace Heatmap

/-- What a scan for large values keeps is no number if one of the values is none, and it is not
below zero if one of them is zero. -/
def Tops (seen : List Float) (best : Option (Nat × Float)) : Prop :=
  match best with
  | none => seen = []
  | some (_, b) =>
    (∀ w ∈ seen, w.isNaN = true → b.isNaN = true) ∧ ((0.0 : Float) ∈ seen → ¬b < 0.0)

lemma Tops.better {method : MatchMethod} (hmethod : method ≠ .squaredDifference)
    {seen : List Float} {best : Option (Nat × Float)} (h : Tops seen best) (v : Float) :
    Tops (seen ++ [v]) (better method.precedes best (v, seen.length)) := by
  obtain ⟨-, -, hprecedes⟩ := MatchMethod.correlates hmethod
  cases best with
  | none =>
    have hnil : seen = [] := h
    rw [hnil]
    refine ⟨fun w hw hnan => ?_, fun hzero => ?_⟩
    · rwa [← mem_singleton.1 hw]
    · rw [← mem_singleton.1 hzero]
      decide
  | some best =>
    obtain ⟨k, b⟩ := best
    obtain ⟨hnan, hzero⟩ := h
    rw [Heatmap.better, hprecedes v b]
    simp only [Bool.or_eq_true, Bool.and_eq_true, decide_eq_true_iff]
    split
    · next htaken =>
      refine ⟨fun w hw hw' => ?_, fun hmem => ?_⟩
      · -- Nothing takes the place of what is no number.
        rcases mem_append.1 hw with hw | hw
        · have hb := hnan w hw hw'
          rcases htaken with hlt | ⟨-, hnumber⟩
          · exact absurd hlt (not_lt_of_isNaN hb v)
          · rw [hb] at hnumber
            cases hnumber
        · rwa [← mem_singleton.1 hw]
      · rcases htaken with hlt | ⟨hv, -⟩
        · rcases mem_append.1 hmem with hmem | hmem
          · exact not_lt_zero_of_lt (hzero hmem) hlt
          · rw [← mem_singleton.1 hmem]
            decide
        · exact not_lt_of_isNaN hv _
    · next hleft =>
      push Not at hleft
      refine ⟨fun w hw hw' => ?_, fun hmem => ?_⟩
      · rcases mem_append.1 hw with hw | hw
        · exact hnan w hw hw'
        · rw [mem_singleton.1 hw] at hw'
          simpa using hleft.2 hw'
      · rcases mem_append.1 hmem with hmem | hmem
        · exact hzero hmem
        · rw [mem_singleton.1 hmem]
          exact hleft.1

lemma tops_extremum {method : MatchMethod} (hmethod : method ≠ .squaredDifference) (m : Heatmap) :
    Tops m.values.toList (m.extremum method.precedes) :=
  extremum_induction m rfl fun _ _ v h => h.better hmethod v

end Heatmap

namespace Hunt

variable {h : Hunt} {y x : Nat}

lemma Laid.matched_next (hl : h.Laid) (hmethod : h.method ≠ .squaredDifference)
    (hzero : h.threshold = 0) (hm : h.best.matched = true) : h.next.best.matched = true := by
  obtain ⟨hcertainty, hhidden, -⟩ := MatchMethod.correlates hmethod
  obtain ⟨y, x, ht⟩ := hl.exists_takes
  obtain ⟨y', x', ht'⟩ := hl.next.exists_takes
  -- The candidate is a number, and so is every value.
  rw [ht.matched_eq, reaches, certainty, hcertainty, hzero, Num.ofFloat_ge_zero_iff] at hm
  have htops := Heatmap.tops_extremum hmethod h.heatmap
  rw [ht.extremum] at htops
  have hnumber {v : Float} (hv : v ∈ h.heatmap.values) : v.isNaN = false := by
    rw [Bool.eq_false_iff]
    intro hnan
    have := htops.1 v (Array.mem_toList_iff.2 hv) hnan
    rw [hm.1] at this
    cases this
  have htops' : Heatmap.Tops h.next.heatmap.values.toList
      (h.next.heatmap.extremum h.next.method.precedes) := Heatmap.tops_extremum hmethod _
  rw [ht'.extremum] at htops'
  have hpresent : (0.0 : Float) ∈ h.next.heatmap.values := by
    rw [← hhidden, ← (ht.next_value y x ht.row ht.column).1 (hl.near_self _)]
    exact hl.next.filled.value_mem ht.row ht.column
  rw [ht'.matched_eq]
  change (Num.ofFloat (Heatmap.certaintyOf h.method (h.next.heatmap.value y' x'))).ge
    h.threshold = true
  rw [hcertainty, hzero, Num.ofFloat_ge_zero_iff]
  refine ⟨?_, htops'.2 (Array.mem_toList_iff.2 hpresent)⟩
  obtain ⟨hnear, hfar⟩ := ht.next_value y' x' ht'.row ht'.column
  by_cases h' : h.Near ⟨x, y⟩ ⟨x', y'⟩
  · rw [hnear h', hhidden]
    decide
  · rw [hfar h']
    exact hnumber (hl.filled.value_mem ht'.row ht'.column)

def after (h : Hunt) : Nat → Hunt
  | 0 => h
  | n + 1 => h.next.after n

lemma exists_of_mem_candidates {h : Hunt} {n : Nat} {c : Candidate} (hc : c ∈ h.candidates n) :
    ∃ k, c = (h.after k).candidate := by
  induction n generalizing h with
  | zero => cases hc
  | succ n ih =>
    rw [candidates] at hc
    split at hc
    · rcases mem_cons.1 hc with rfl | hc
      · exact ⟨0, rfl⟩
      · obtain ⟨k, hk⟩ := ih hc
        exact ⟨k + 1, hk⟩
    · exact ⟨0, mem_singleton.1 hc⟩

lemma after_mem_candidates {h : Hunt} {n : Nat}
    (hmatched : ∀ k, k < n → (h.after k).best.matched = true) :
    (h.after n).candidate ∈ h.candidates (n + 1) := by
  induction n generalizing h with
  | zero =>
    rw [candidates]
    split <;> exact mem_cons_self ..
  | succ n ih =>
    have hfirst : h.best.matched = true := hmatched 0 (Nat.succ_pos n)
    rw [candidates, if_pos hfirst]
    exact mem_cons_of_mem _ (ih fun k hk => hmatched (k + 1) (by omega))

/-- With a correlation and a threshold of zero a hunt that finds something goes on forever. -/
lemma Laid.matched_after {h : Hunt} (hl : h.Laid) (hmethod : h.method ≠ .squaredDifference)
    (hzero : h.threshold = 0) (hm : h.best.matched = true) (n : Nat) :
    (h.after n).best.matched = true := by
  induction n generalizing h with
  | zero => exact hm
  | succ n ih => exact ih hl.next hmethod hzero (hl.matched_next hmethod hzero hm)

end Hunt

end SetTop
