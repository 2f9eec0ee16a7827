import SetTop.Matching.Search
import SetTop.Proofs.Matching.Heatmap

/-!
The candidates of a hunt pack the picture.

A position is open after a step of a hunt if it was open before and does not overlap the candidate
(`Picks.reaches_next_iff`), and everything about the list of candidates follows by induction along
the steps: the regions are disjoint, the certainties fall, and when a candidate does not match any
more, each position that was open at the start overlaps one that was taken.
-/

namespace SetTop.Hunt

open List Number Heatmap

/-- A hunt on the largest level, with one value for each position. -/
structure Laid (h : Hunt) : Prop where
  level : h.level = 0
  width : 0 < h.width
  height : 0 < h.height
  rows : 0 < h.heatmap.height
  columns : 0 < h.heatmap.width
  filled : h.heatmap.Filled
  best : h.best = h.heatmap.best h.method h.threshold

/-- A hunt on the largest level of which some positions may be hidden already. -/
structure Ready (h : Hunt) : Prop extends h.Laid where
  usable : ∀ v ∈ h.heatmap.values, h.method.Usable v
  selects : h.method.Selects h.threshold

variable (h : Hunt)

def certainty (y x : Nat) : Num :=
  .ofFloat (certaintyOf h.method (h.heatmap.value y x))

def reaches (y x : Nat) : Bool := (h.certainty y x).ge h.threshold

/-- Whether the regions at two positions overlap. -/
def Near (p q : Position) : Prop :=
  p.x < q.x + h.width ∧ q.x < p.x + h.width ∧ p.y < q.y + h.height ∧ q.y < p.y + h.height

lemma regionAt_eq (p : Position) :
    h.regionAt p = .ofInts p.x p.y (p.x + h.width) (p.y + h.height) := rfl

variable {h : Hunt} {n : Nat} {c : Candidate}

lemma Laid.intersect_regionAt (hr : h.Laid) (p q : Position) :
    Region.intersect (some (h.regionAt p)) (some (h.regionAt q)) = none ↔ ¬h.Near p q := by
  have hw := hr.width
  have hh := hr.height
  rw [regionAt_eq, regionAt_eq, Region.intersect_ofInts (by omega) (by omega) (by omega) (by omega)]
  rfl

section

variable {h : Hunt} {y x : Nat}

lemma Ready.usable_value (hr : h.Ready) (hy : y < h.heatmap.height) (hx : x < h.heatmap.width) :
    h.method.Usable (h.heatmap.value y x) :=
  hr.usable _ (hr.filled.value_mem hy hx)

lemma Ready.certainty_eq (hr : h.Ready) (hy : y < h.heatmap.height) (hx : x < h.heatmap.width) :
    h.certainty y x = .real (certaintyOf h.method (h.heatmap.value y x)) :=
  ofFloat_eq (hr.usable_value hy hx).isFinite_certaintyOf

lemma Ready.reaches_iff (hr : h.Ready) (hy : y < h.heatmap.height) (hx : x < h.heatmap.width) :
    h.reaches y x = true ↔ h.threshold.AtMost (h.method.merit (h.heatmap.value y x)) := by
  rw [reaches, hr.certainty_eq hy hx,
    Num.real_ge_iff (hr.usable_value hy hx).isFinite_certaintyOf hr.selects.1]
  rfl

lemma upsample_zero (p : Position) : p.upsample 0 = p := by
  simp [Point.upsample]

/-- What the candidate at hand is, and what the step after it does. -/
structure Takes (h : Hunt) (y x : Nat) : Prop where
  row : y < h.heatmap.height
  column : x < h.heatmap.width
  extremum : h.heatmap.extremum h.method.precedes =
    some (y * h.heatmap.width + x, h.heatmap.value y x)
  candidate : h.candidate = ⟨h.reaches y x, h.regionAt ⟨x, y⟩, h.certainty y x⟩
  next_value : ∀ y' x', y' < h.heatmap.height → x' < h.heatmap.width →
    (h.Near ⟨x, y⟩ ⟨x', y'⟩ → h.next.heatmap.value y' x' = h.method.hidden) ∧
    (¬h.Near ⟨x, y⟩ ⟨x', y'⟩ → h.next.heatmap.value y' x' = h.heatmap.value y' x')

lemma Laid.exists_takes (hl : h.Laid) : ∃ y x, h.Takes y x := by
  obtain ⟨y, x, hy, hx, hextremum, hbest⟩ :=
    best_eq h.method h.threshold hl.filled hl.rows hl.columns
  rw [← hl.best] at hbest
  refine ⟨y, x, hy, hx, hextremum, ?_, ?_⟩
  · rw [candidate, hl.level, upsample_zero, hbest]
    rfl
  · intro y' x' hy' hx'
    have hvalue := value_hide h.method h.heatmap (x - (h.width - 1))
      (y - (h.height - 1)) (x + h.width - 1) (y + h.height - 1) hy' hx'
    rw [next, hl.level, upsample_zero, hbest]
    constructor
    · intro hnear
      rw [hvalue, if_pos]
      simp only [Near, Heatmap.Covers] at hnear ⊢
      omega
    · intro hfar
      rw [hvalue, if_neg]
      simp only [Near, Heatmap.Covers] at hfar ⊢
      omega

lemma Laid.next (hl : h.Laid) : h.next.Laid where
  level := hl.level
  width := hl.width
  height := hl.height
  rows := hl.rows
  columns := hl.columns
  filled := filled_generate ..
  best := rfl

lemma Laid.near_self (hl : h.Laid) (p : Position) : h.Near p p := by
  have hw := hl.width
  have hh := hl.height
  simp only [Near]
  omega

namespace Takes

lemma matched_eq (ht : h.Takes y x) : h.best.matched = h.reaches y x :=
  congrArg Candidate.matched ht.candidate

lemma reaches_next_iff (ht : h.Takes y x) (hselects : h.method.Selects h.threshold) {y' x' : Nat}
    (hy : y' < h.heatmap.height) (hx : x' < h.heatmap.width) :
    h.next.reaches y' x' = true ↔ h.reaches y' x' = true ∧ ¬h.Near ⟨x, y⟩ ⟨x', y'⟩ := by
  obtain ⟨hnear, hfar⟩ := ht.next_value y' x' hy hx
  by_cases h' : h.Near ⟨x, y⟩ ⟨x', y'⟩
  · have hnot : h.next.reaches y' x' = false := by
      rw [reaches, certainty, hnear h']
      exact hselects.hidden_ge
    simp [hnot, h']
  · have hsame : h.next.reaches y' x' = h.reaches y' x' := by
      rw [reaches, certainty, hfar h']
      rfl
    simp [hsame, h']

end Takes

/-- The candidate at hand is the best one. -/
structure Picks (h : Hunt) (y x : Nat) : Prop extends h.Takes y x where
  most : ∀ y' x', y' < h.heatmap.height → x' < h.heatmap.width →
    h.method.merit (h.heatmap.value y' x') ≤ h.method.merit (h.heatmap.value y x)

lemma Ready.exists_picks (hr : h.Ready) : ∃ y x, h.Picks y x := by
  obtain ⟨y, x, ht⟩ := hr.exists_takes
  exact ⟨y, x, ht, merit_le_of_extremum hr.filled hr.usable ht.extremum⟩

lemma Ready.next (hr : h.Ready) : h.next.Ready where
  toLaid := hr.toLaid.next
  usable := by
    intro v hv
    obtain ⟨y', x', hy', hx', rfl⟩ := hr.toLaid.next.filled.exists_of_mem hv
    obtain ⟨y, x, hp⟩ := hr.exists_picks
    obtain ⟨hnear, hfar⟩ := hp.next_value y' x' hy' hx'
    by_cases h' : h.Near ⟨x, y⟩ ⟨x', y'⟩
    · exact .inr (hnear h')
    · rw [hfar h']
      exact hr.usable_value hy' hx'
  selects := hr.selects

namespace Picks

variable {y' x' : Nat}

lemma certainty_next (hp : h.Picks y x) (hy : y' < h.heatmap.height) (hx : x' < h.heatmap.width)
    (hfar : ¬h.Near ⟨x, y⟩ ⟨x', y'⟩) : h.next.certainty y' x' = h.certainty y' x' := by
  rw [certainty, (hp.next_value y' x' hy hx).2 hfar]
  rfl

lemma certainty_ge (hp : h.Picks y x) (hr : h.Ready) (hy : y' < h.heatmap.height)
    (hx : x' < h.heatmap.width) : (h.certainty y x).ge (h.certainty y' x') = true := by
  rw [hr.certainty_eq hp.row hp.column, hr.certainty_eq hy hx, Num.real_ge_real_iff
    (hr.usable_value hp.row hp.column).isFinite_certaintyOf
    (hr.usable_value hy hx).isFinite_certaintyOf]
  exact hp.most y' x' hy hx

end Picks

end

/-! ### The list of candidates -/

lemma Ready.induction {motive : (n : Nat) → (h : Hunt) → h.Ready → Prop}
    (zero : ∀ (h : Hunt) (hr : h.Ready), motive 0 h hr)
    (last : ∀ (n : Nat) (h : Hunt) (hr : h.Ready) (y x : Nat), h.Picks y x →
      h.best.matched = false → motive (n + 1) h hr)
    (step : ∀ (n : Nat) (h : Hunt) (hr : h.Ready) (y x : Nat), h.Picks y x →
      h.best.matched = true → motive n h.next hr.next → motive (n + 1) h hr)
    (n : Nat) (h : Hunt) (hr : h.Ready) : motive n h hr := by
  induction n generalizing h with
  | zero => exact zero h hr
  | succ n ih =>
    obtain ⟨y, x, hp⟩ := hr.exists_picks
    cases hm : h.best.matched with
    | false => exact last n h hr y x hp hm
    | true => exact step n h hr y x hp hm (ih h.next hr.next)

def found (n : Nat) (h : Hunt) : List Candidate := (h.candidates n).filter (·.matched)

lemma found_of_matched (hm : h.best.matched = true) (n : Nat) :
    h.found (n + 1) = h.candidate :: h.next.found n := by
  have hc : h.candidate.matched = true := hm
  simp [found, candidates, hm, hc]

lemma found_of_not_matched (hm : h.best.matched = false) (n : Nat) : h.found (n + 1) = [] := by
  have hc : h.candidate.matched = false := hm
  simp [found, candidates, hm, hc]

lemma Ready.exists_of_mem_found (hr : h.Ready) (hc : c ∈ h.found n) :
    ∃ y x, y < h.heatmap.height ∧ x < h.heatmap.width ∧ h.reaches y x = true ∧
      c = ⟨true, h.regionAt ⟨x, y⟩, h.certainty y x⟩ := by
  induction n, h, hr using Ready.induction with
  | zero => cases hc
  | last n h hr y x hp hm =>
    rw [found_of_not_matched hm] at hc
    cases hc
  | step n h hr y x hp hm ih =>
    rw [found_of_matched hm] at hc
    rcases mem_cons.1 hc with rfl | hc
    · rw [hp.matched_eq] at hm
      exact ⟨y, x, hp.row, hp.column, hm, by rw [hp.candidate, hm]⟩
    · obtain ⟨y', x', hy, hx, hopen, hc'⟩ := ih hc
      obtain ⟨hreach, hfar⟩ := (hp.reaches_next_iff hr.selects hy hx).1 hopen
      refine ⟨y', x', hy, hx, hreach, hc'.trans ?_⟩
      rw [hp.certainty_next hy hx hfar]
      rfl

lemma Ready.pairwise_found (hr : h.Ready) (n : Nat) : (h.found n).Pairwise fun a b =>
      Region.intersect (some a.region) (some b.region) = none ∧
        a.certainty.ge b.certainty = true := by
  induction n, h, hr using Ready.induction with
  | zero => exact .nil
  | last n h hr y x hp hm =>
    rw [found_of_not_matched hm]
    exact .nil
  | step n h hr y x hp hm ih =>
    rw [found_of_matched hm]
    refine .cons ?_ ih
    intro c hc
    obtain ⟨y', x', hy, hx, hopen, rfl⟩ := hr.next.exists_of_mem_found hc
    obtain ⟨-, hfar⟩ := (hp.reaches_next_iff hr.selects hy hx).1 hopen
    rw [hp.candidate]
    refine ⟨(hr.intersect_regionAt _ _).2 hfar, ?_⟩
    rw [hp.certainty_next hy hx hfar]
    exact hp.certainty_ge hr hy hx

lemma Ready.exists_meets_found (hr : h.Ready) (hc : c ∈ h.candidates n) (hcm : c.matched = false)
    {y' x' : Nat} (hy : y' < h.heatmap.height) (hx : x' < h.heatmap.width)
    (hreach : h.reaches y' x' = true) :
    ∃ c' ∈ h.found n, Region.intersect (some (h.regionAt ⟨x', y'⟩)) (some c'.region) ≠ none := by
  induction n, h, hr using Ready.induction with
  | zero => cases hc
  | last n h hr y x hp hm =>
    -- The best position is below the threshold, and with it every other one.
    rw [hp.matched_eq, Bool.eq_false_iff, ne_eq, hr.reaches_iff hp.row hp.column] at hm
    rw [hr.reaches_iff hy hx] at hreach
    exact absurd (hreach.mono (hp.most y' x' hy hx)) hm
  | step n h hr y x hp hm ih =>
    rw [found_of_matched hm]
    -- Either the candidate at hand overlaps the position, or the position is open after the step.
    by_cases hnear : h.Near ⟨x, y⟩ ⟨x', y'⟩
    · refine ⟨h.candidate, mem_cons_self .., ?_⟩
      rw [hp.candidate, ne_eq, hr.intersect_regionAt, Classical.not_not]
      exact ⟨hnear.2.1, hnear.1, hnear.2.2.2, hnear.2.2.1⟩
    · rw [candidates, if_pos hm] at hc
      have hlast : c ∈ h.next.candidates n := by
        rcases mem_cons.1 hc with rfl | hc
        · exact absurd hcm (by simp [candidate, hm])
        · exact hc
      obtain ⟨c', hc', hmeet⟩ :=
        ih hlast hy hx ((hp.reaches_next_iff hr.selects hy hx).2 ⟨hreach, hnear⟩)
      exact ⟨c', mem_cons_of_mem _ hc', hmeet⟩

/-! ### The end of a hunt -/

def openCount : Nat :=
  (List.range (h.heatmap.height * h.heatmap.width)).countP fun k =>
    h.reaches (k / h.heatmap.width) (k % h.heatmap.width)

lemma countP_lt_countP {α : Type} {p q : α → Bool} {l : List α} (himp : ∀ a ∈ l, p a → q a)
    {a : α} (ha : a ∈ l) (hp : p a = false) (hq : q a = true) : l.countP p < l.countP q := by
  obtain ⟨l₁, l₂, rfl⟩ := append_of_mem ha
  have h₁ : l₁.countP p ≤ l₁.countP q :=
    countP_mono_left fun b hb => himp b (mem_append_left _ hb)
  have h₂ : l₂.countP p ≤ l₂.countP q :=
    countP_mono_left fun b hb => himp b (mem_append_right _ (mem_cons_of_mem _ hb))
  rw [countP_append, countP_append, countP_cons, countP_cons, hp, hq]
  simp only [Bool.false_eq_true, if_false, if_true]
  omega

lemma Takes.openCount_next_lt {y x : Nat} (ht : h.Takes y x) (hl : h.Laid)
    (hselects : h.method.Selects h.threshold) (hm : h.best.matched = true) :
    h.next.openCount < h.openCount := by
  have hreach : h.reaches y x = true := ht.matched_eq ▸ hm
  refine countP_lt_countP (a := y * h.heatmap.width + x) ?_
    (mem_range.2 (Grid.index_lt ht.row ht.column)) ?_ ?_
  · intro k hk hopen
    obtain ⟨hy, hx⟩ := Grid.lt_of_index_lt (mem_range.1 hk)
    exact ((ht.reaches_next_iff hselects hy hx).1 hopen).1
  · have hclosed : ¬h.next.reaches y x = true := by
      rw [ht.reaches_next_iff hselects ht.row ht.column]
      exact fun h' => h'.2 (hl.near_self _)
    show h.next.reaches ((y * h.heatmap.width + x) / h.heatmap.width)
      ((y * h.heatmap.width + x) % h.heatmap.width) = false
    rw [Grid.index_div y ht.column, Nat.mul_add_mod_of_lt ht.column]
    exact Bool.eq_false_iff.2 hclosed
  · rw [Grid.index_div y ht.column, Nat.mul_add_mod_of_lt ht.column]
    exact hreach

lemma openCount_le : h.openCount ≤ h.heatmap.height * h.heatmap.width :=
  Nat.le_trans countP_le_length (Nat.le_of_eq length_range)

lemma Ready.exists_not_matched (hr : h.Ready) (hn : h.openCount < n) :
    ∃ c ∈ h.candidates n, c.matched = false := by
  induction n, h, hr using Ready.induction with
  | zero => omega
  | last n h hr y x hp hm =>
    rw [candidates, if_neg (by simp [hm])]
    exact ⟨h.candidate, mem_singleton_self _, hm⟩
  | step n h hr y x hp hm ih =>
    have hlt := hp.openCount_next_lt hr.toLaid hr.selects hm
    obtain ⟨c, hc, hcm⟩ := ih (by omega)
    rw [candidates, if_pos hm]
    exact ⟨c, mem_cons_of_mem _ hc, hcm⟩

end SetTop.Hunt
