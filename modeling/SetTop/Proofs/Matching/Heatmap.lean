import SetTop.Matching.Heatmap
import SetTop.Proofs.Image.Places
import SetTop.Proofs.Number.Ticks

/-!
What a heatmap holds at each position, and where it is best.

`best` scans the values in row order and keeps the first that no other one precedes. Of all
positions it gives one of greatest certainty (`best_spec`), as long as every value is a score or
hidden.
-/

/-! ### Certainties and thresholds

A score is compared with other scores as a double, and its certainty with the threshold as a number
of a script. Both orders are orders of ticks: a better score has the greater certainty
(`merit_le_of_not_precedes`), rounding included, and if one certainty reaches a threshold a greater
one does (`Num.AtMost.mono`). No certainty of a hidden place reaches a threshold that selects.
-/

namespace SetTop

open Number Heatmap

namespace Num

/-- Whether what is kept as a double is finite; the infinities have forms of their own. -/
def Proper : Num → Prop
  | .real x => x.isFinite = true
  | _ => True

instance : DecidablePred Proper
  | .real x => inferInstanceAs (Decidable (x.isFinite = true))
  | .int _ | .posInf | .negInf | .nan => .isTrue trivial

/-- Whether the number is at most so many ticks. -/
def AtMost : Num → Int → Prop
  | .int n, k => n * unit ≤ k
  | .real x, k => ticks x ≤ k
  | .negInf, _ => True
  | .posInf, _ => False
  | .nan, _ => False

variable {t : Num} {k : Int} {x y : Float}

lemma AtMost.mono {k' : Int} (h : t.AtMost k) (hle : k ≤ k') : t.AtMost k' := by
  cases t with
  | int | real => exact Int.le_trans h hle
  | negInf => trivial
  | posInf | nan => exact h

lemma ge_eq_true_iff (a b : Num) :
    a.ge b = true ↔ a.compare? b = some .gt ∨ a.compare? b = some .eq := by
  rw [ge, Bool.or_eq_true, beq_iff_eq, beq_iff_eq]

lemma real_ge_real_iff (hx : x.isFinite = true) (hy : y.isFinite = true) :
    (Num.real x).ge (.real y) = true ↔ ticks y ≤ ticks x := by
  have hcompare : compare? (.real x) (.real y) = some (compare (ticks x) (ticks y)) := by
    rw [compare?, Int.compare_eq_ite_lt]
    simp only [lt_iff hx hy, lt_iff hy hx]
  rw [ge_eq_true_iff, hcompare, Option.some.injEq, Option.some.injEq, Int.compare_eq_gt,
    Int.compare_eq_eq]
  omega

lemma real_ge_iff (hx : x.isFinite = true) (ht : t.Proper) :
    (Num.real x).ge t = true ↔ t.AtMost (ticks x) := by
  cases t with
  | int n =>
    rw [ge_eq_true_iff, compare?, compareIntFloat_eq hx, Int.compare_swap, Option.some.injEq,
      Option.some.injEq, Int.compare_eq_gt, Int.compare_eq_eq]
    show _ ↔ n * unit ≤ ticks x
    omega
  | real y => exact real_ge_real_iff hx ht
  | negInf | posInf | nan => simp [ge, compare?, AtMost]

lemma real_gt_zero_iff (hx : x.isFinite = true) : (Num.real x).gt 0 = true ↔ 0 < ticks x := by
  have hcompare : (Num.real x).compare? 0 = some (compareIntFloat 0 x).swap := rfl
  rw [gt, hcompare, compareIntFloat_eq hx, Int.compare_swap, Int.zero_mul, beq_iff_eq,
    Option.some.injEq, Int.compare_eq_gt]

lemma ofFloat_ge_zero_iff (v : Float) : (ofFloat v).ge 0 = true ↔ v.isNaN = false ∧ ¬v < 0.0 := by
  have hunpack : v.toModel.unpack = (Parts.ofBits v.toBits).unpacked := unpack_eq _
  rw [← Bool.not_eq_true, isNaN_iff, lt_iff_compare, unpack_zero]
  cases hparts : Parts.ofBits v.toBits with
  | nan =>
    rw [ofFloat, hunpack, hparts]
    simp [Parts.unpacked, ge, compare?]
  | infinite negative =>
    rw [ofFloat, hunpack, hparts]
    cases negative <;> simp [Parts.unpacked, ge, compare?, signOf, Float.Model.UnpackedFloat.compare]
  | finite negative d =>
    have hfinite : v.isFinite = true := by
      change v.toModel.unpack.isFinite = true
      rw [hunpack, hparts, Parts.unpacked]
      split <;> rfl
    have hzero : ticks 0.0 = 0 := by decide
    have hreal : (Num.real v).ge 0 = true ↔ 0 * unit ≤ ticks v :=
      real_ge_iff hfinite trivial
    rw [← unpack_zero, ← lt_iff_compare, ← isNaN_iff, isNaN_eq_false hfinite, ofFloat_eq hfinite,
      hreal, lt_iff hfinite (by decide), Int.zero_mul, Int.not_lt]
    exact ⟨fun h => ⟨Bool.false_ne_true, h⟩, And.right⟩

lemma sign_of_atMost {o : Ordering} (ht : t.Proper) (hsign : t.compare? 0 = some o) (h : t.AtMost k) :
    (o = .gt → 0 < k) ∧ (o = .eq → 0 ≤ k) := by
  cases t with
  | int n =>
    have hcompare : compare n 0 = o := Option.some.inj hsign
    have hle : n * unit ≤ k := h
    have hunit : (0 : Int) < unit := Int.natCast_pos.2 unit_pos
    rw [← hcompare, Int.compare_eq_gt, Int.compare_eq_eq]
    constructor
    · intro hpos
      have := Int.mul_pos hpos hunit
      omega
    · rintro rfl
      omega
  | real x =>
    have hle : ticks x ≤ k := h
    have hcompare : (compareIntFloat 0 x).swap = o := Option.some.inj hsign
    rw [compareIntFloat_eq ht, Int.compare_swap] at hcompare
    rw [← hcompare, Int.compare_eq_gt, Int.compare_eq_eq]
    omega
  | negInf =>
    have : Ordering.lt = o := Option.some.inj hsign
    rw [← this]
    exact ⟨nofun, nofun⟩
  | posInf | nan => exact h.elim

end Num

namespace MatchMethod

variable (method : MatchMethod)

/-- Whether a threshold tells scores from hidden places. -/
def Selects (t : Num) : Prop :=
  t.Proper ∧ match method with
    | .squaredDifference => t.ge 0 = true
    | _ => t.gt 0 = true

instance (method : MatchMethod) (t : Num) : Decidable (method.Selects t) :=
  match method with
  | .squaredDifference => inferInstanceAs (Decidable (_ ∧ _))
  | .correlation | .coefficient => inferInstanceAs (Decidable (_ ∧ _))

def InRange (v : Float) : Prop :=
  match method with
  | .squaredDifference => 0.0 ≤ v ∧ v ≤ 1.0
  | _ => -1.0 ≤ v ∧ v ≤ 1.0

instance (method : MatchMethod) (v : Float) : Decidable (method.InRange v) :=
  match method with
  | .squaredDifference => inferInstanceAs (Decidable (_ ∧ _))
  | .correlation | .coefficient => inferInstanceAs (Decidable (_ ∧ _))

/-- A score, or the value of a hidden place. -/
def Usable (v : Float) : Prop := method.InRange v ∨ v = method.hidden

def precedes : MatchMethod → Float → Float → Bool
  | .squaredDifference => fun a b => a < b
  | _ => fun a b => b < a

/-- The ticks of the certainty that a value gives. -/
def merit (v : Float) : Int := ticks (certaintyOf method v)

variable {method : MatchMethod} {v b : Float} {t : Num}

lemma Usable.isFinite (h : method.Usable v) : v.isFinite = true := by
  rcases h with h | rfl
  · cases method <;> exact isFinite_of_le_of_le (by decide) (by decide) h.1 h.2
  · cases method <;> decide

lemma Usable.isFinite_certaintyOf (h : method.Usable v) :
    (certaintyOf method v).isFinite = true := by
  cases method with
  | squaredDifference =>
    rcases h with h | rfl
    · exact (ticks_one_sub h.1 h.2).1
    · decide +kernel
  | correlation | coefficient => exact h.isFinite

lemma Selects.not_atMost_hidden (h : method.Selects t) : ¬ t.AtMost (method.merit method.hidden) := by
  intro hmost
  obtain ⟨ht, hsign⟩ := h
  cases method with
  | squaredDifference =>
    -- A hidden place is below zero here, so that a threshold of zero selects as well.
    have hneg : merit .squaredDifference (hidden .squaredDifference) < 0 := by decide +kernel
    rcases (Num.ge_eq_true_iff t 0).1 hsign with hgt | heq
    · have := (Num.sign_of_atMost ht hgt hmost).1 rfl
      omega
    · have := (Num.sign_of_atMost ht heq hmost).2 rfl
      omega
  | correlation => exact absurd ((Num.sign_of_atMost ht (beq_iff_eq.1 hsign) hmost).1 rfl) (by decide)
  | coefficient => exact absurd ((Num.sign_of_atMost ht (beq_iff_eq.1 hsign) hmost).1 rfl) (by decide)

lemma Selects.hidden_ge (h : method.Selects t) :
    (Num.ofFloat (certaintyOf method method.hidden)).ge t = false := by
  have hfinite : (certaintyOf method method.hidden).isFinite = true :=
    Usable.isFinite_certaintyOf (.inr rfl)
  rw [ofFloat_eq hfinite, Bool.eq_false_iff, ne_eq, Num.real_ge_iff hfinite h.1]
  exact h.not_atMost_hidden

lemma precedes_iff (hv : v.isFinite = true) (hb : b.isFinite = true) :
    method.precedes v b = true ↔ match method with
      | .squaredDifference => ticks v < ticks b
      | _ => ticks b < ticks v := by
  cases method with
  | squaredDifference => exact decide_eq_true_iff.trans (lt_iff hv hb)
  | correlation | coefficient => exact decide_eq_true_iff.trans (lt_iff hb hv)

lemma merit_squaredDifference_le (hv : Usable .squaredDifference v) (hb : Usable .squaredDifference b)
    (h : ticks b ≤ ticks v) : merit .squaredDifference v ≤ merit .squaredDifference b := by
  rcases hv with hv | rfl <;> rcases hb with hb | rfl
  · have hround : roundTicks (unit - (ticks v).toNat) ≤ roundTicks (unit - (ticks b).toNat) :=
      roundTicks_mono (by omega)
    have hmv := (ticks_one_sub hv.1 hv.2).2
    have hmb := (ticks_one_sub hb.1 hb.2).2
    show ticks (1.0 - v) ≤ ticks (1.0 - b)
    omega
  · -- A score never lies above the value of a hidden place.
    have hle := (le_iff (Usable.isFinite (.inl hv)) (by decide)).1 hv.2
    have hlt : ticks 1.0 < ticks (hidden .squaredDifference) := by decide +kernel
    omega
  · have hneg : merit .squaredDifference (hidden .squaredDifference) < 0 := by decide +kernel
    have hmb : merit .squaredDifference b = _ := (ticks_one_sub hb.1 hb.2).2
    omega
  · exact Int.le_refl _

lemma merit_le_of_not_precedes (hv : method.Usable v) (hb : method.Usable b)
    (h : method.precedes v b = false) : method.merit v ≤ method.merit b := by
  rw [Bool.eq_false_iff, ne_eq, precedes_iff hv.isFinite hb.isFinite] at h
  cases method with
  | squaredDifference => exact merit_squaredDifference_le hv hb (Int.not_lt.1 h)
  | correlation | coefficient => exact Int.not_lt.1 h

lemma merit_le_of_precedes (hv : method.Usable v) (hb : method.Usable b)
    (h : method.precedes v b = true) : method.merit b ≤ method.merit v := by
  refine merit_le_of_not_precedes hb hv ?_
  rw [precedes_iff hv.isFinite hb.isFinite] at h
  rw [Bool.eq_false_iff, ne_eq, precedes_iff hb.isFinite hv.isFinite]
  cases method <;> exact Int.lt_asymm h

end MatchMethod

end SetTop

namespace SetTop.Heatmap

open Number Grid

def Filled (m : Heatmap) : Prop := m.values.size = m.height * m.width

/-! ### Values and positions -/

lemma filled_generate (h w : Nat) (f : Nat → Nat → Float) : (generate h w f).Filled := by
  simp [Filled, generate]

variable {y x n : Nat} {m : Heatmap} {v : Float} {seen : List Float} {best : Option (Nat × Float)}
  {method : MatchMethod}

lemma value_generate {h w : Nat} (f : Nat → Nat → Float) (hy : y < h) (hx : x < w) :
    (generate h w f).value y x = f y x := by
  simp [value, generate, index_lt hy hx, index_div y hx, Nat.mul_add_mod_of_lt hx]

lemma Filled.value_eq (hm : m.Filled) (hv : m.values[n]? = some v) :
    n / m.width < m.height ∧ n % m.width < m.width ∧ m.value (n / m.width) (n % m.width) = v := by
  obtain ⟨hn, -⟩ := Array.getElem?_eq_some_iff.1 hv
  rw [hm] at hn
  obtain ⟨hy, hx⟩ := lt_of_index_lt hn
  refine ⟨hy, hx, ?_⟩
  rw [value, Nat.mul_comm, Nat.div_add_mod, hv, Option.getD_some]

lemma Filled.value_mem (hm : m.Filled) (hy : y < m.height) (hx : x < m.width) :
    m.value y x ∈ m.values := by
  have hlt : y * m.width + x < m.values.size := by
    rw [hm]
    exact index_lt hy hx
  rw [value, Array.getElem?_eq_getElem hlt]
  exact Array.getElem_mem hlt

lemma Filled.exists_of_mem (hm : m.Filled) (hv : v ∈ m.values) :
    ∃ y x, y < m.height ∧ x < m.width ∧ m.value y x = v := by
  obtain ⟨n, hn, rfl⟩ := Array.mem_iff_getElem.1 hv
  obtain ⟨hy, hx, hval⟩ := hm.value_eq (Array.getElem?_eq_getElem hn)
  exact ⟨_, _, hy, hx, hval⟩

/-! ### The best position -/

/-- One step of the scan for the best value. -/
def better (precedes : Float → Float → Bool) (best : Option (Nat × Float)) (here : Float × Nat) :
    Option (Nat × Float) :=
  match best with
  | none => some (here.2, here.1)
  | some (k, b) =>
    if precedes here.1 b || here.1.isNaN && !b.isNaN then some (here.2, here.1) else some (k, b)

lemma extremum_induction {precedes : Float → Float → Bool}
    {motive : List Float → Option (Nat × Float) → Prop} (m : Heatmap) (nil : motive [] none)
    (step : ∀ seen best v, motive seen best →
      motive (seen ++ [v]) (better precedes best (v, seen.length))) :
    motive m.values.toList (m.extremum precedes) := by
  have hscan {seen rest : List Float} {best : Option (Nat × Float)} (h : motive seen best) :
      motive (seen ++ rest) ((rest.zipIdx seen.length).foldl (better precedes) best) := by
    induction rest generalizing seen best with
    | nil => rwa [List.append_nil]
    | cons v rest ih =>
      have hlen : seen.length + 1 = (seen ++ [v]).length := by simp
      rw [List.append_cons, List.zipIdx_cons, hlen]
      exact ih (step seen best v h)
  exact hscan nil

/-- Whether what a scan has kept is one of the values that were seen. -/
def Kept (seen : List Float) (best : Option (Nat × Float)) : Prop :=
  match best with
  | none => seen = []
  | some (n, v) => seen[n]? = some v

lemma Kept.better (precedes : Float → Float → Bool) (h : Kept seen best) (v : Float) :
    Kept (seen ++ [v]) (better precedes best (v, seen.length)) := by
  have hlast : (seen ++ [v])[seen.length]? = some v := by simp
  cases best with
  | none => exact hlast
  | some best =>
    obtain ⟨k, b⟩ := best
    rw [better]
    split
    · exact hlast
    · have hk : seen[k]? = some b := h
      exact (List.getElem?_append_left (List.getElem?_eq_some_iff.1 hk).1).trans hk

lemma best_eq (method : MatchMethod) (t : Num) (hm : m.Filled) (hheight : 0 < m.height)
    (hwidth : 0 < m.width) : ∃ y x, y < m.height ∧ x < m.width ∧
      m.extremum method.precedes = some (y * m.width + x, m.value y x) ∧
      m.best method t = ⟨(Num.ofFloat (certaintyOf method (m.value y x))).ge t, ⟨x, y⟩,
        Num.ofFloat (certaintyOf method (m.value y x))⟩ := by
  have hkept : Kept m.values.toList (m.extremum method.precedes) :=
    extremum_induction m rfl fun seen best v h => h.better method.precedes v
  have hbest : m.best method t = match m.extremum method.precedes with
      | none => ⟨(Num.ofFloat (certaintyOf method 0.0)).ge t, ⟨-1, -1⟩,
          Num.ofFloat (certaintyOf method 0.0)⟩
      | some (n, v) => ⟨(Num.ofFloat (certaintyOf method v)).ge t, m.position n,
          Num.ofFloat (certaintyOf method v)⟩ := by
    cases method <;> rfl
  cases hext : m.extremum method.precedes with
  | none =>
    -- The scan finds nothing only in a heatmap without positions.
    rw [hext] at hkept
    have hnil : m.values.toList = [] := hkept
    have hsize : m.values.size = 0 := by rw [← Array.length_toList, hnil, List.length_nil]
    rw [hm] at hsize
    exact absurd hsize (Nat.ne_of_gt (Nat.mul_pos hheight hwidth))
  | some best =>
    obtain ⟨n, v⟩ := best
    rw [hext] at hkept hbest
    have hn : m.values[n]? = some v := by
      rw [← Array.getElem?_toList]
      exact hkept
    obtain ⟨hy, hx, hval⟩ := hm.value_eq hn
    refine ⟨n / m.width, n % m.width, hy, hx, ?_, ?_⟩
    · rw [hval, Nat.mul_comm, Nat.div_add_mod]
    · rw [hbest, hval]
      rfl

/-- Whether `best` is a value of greatest certainty among those that were seen. -/
def Leads (method : MatchMethod) (seen : List Float) (best : Option (Nat × Float)) : Prop :=
  match best with
  | none => seen = []
  | some (n, v) => seen[n]? = some v ∧ ∀ w ∈ seen, method.merit w ≤ method.merit v

lemma Leads.better (h : Leads method seen best) (hseen : ∀ w ∈ seen, method.Usable w)
    (hv : method.Usable v) :
    Leads method (seen ++ [v]) (better method.precedes best (v, seen.length)) := by
  have hlast : (seen ++ [v])[seen.length]? = some v := by simp
  -- A value that is no number would be taken whatever it is compared with.
  have hnan : v.isNaN = false := isNaN_eq_false hv.isFinite
  cases best with
  | none =>
    have hnil : seen = [] := h
    refine ⟨hlast, fun w hw => ?_⟩
    rw [hnil, List.nil_append, List.mem_singleton] at hw
    exact Int.le_of_eq (congrArg method.merit hw)
  | some best =>
    obtain ⟨k, b⟩ := best
    obtain ⟨hk, hmost⟩ := h
    have hb : method.Usable b := hseen b (List.mem_of_getElem? hk)
    rw [better, hnan]
    cases hprec : method.precedes v b with
    | true =>
      refine ⟨hlast, fun w hw => ?_⟩
      rcases List.mem_append.1 hw with hw | hw
      · exact Int.le_trans (hmost w hw) (MatchMethod.merit_le_of_precedes hv hb hprec)
      · exact Int.le_of_eq (congrArg method.merit (List.mem_singleton.1 hw))
    | false =>
      refine ⟨?_, fun w hw => ?_⟩
      · rw [List.getElem?_append_left (List.getElem?_eq_some_iff.1 hk).1]
        exact hk
      · rcases List.mem_append.1 hw with hw | hw
        · exact hmost w hw
        · rw [List.mem_singleton.1 hw]
          exact MatchMethod.merit_le_of_not_precedes hv hb hprec

lemma merit_le_of_extremum (hm : m.Filled) (husable : ∀ v ∈ m.values, method.Usable v)
    (hext : m.extremum method.precedes = some (n, v)) (y' x' : Nat) (hy' : y' < m.height)
    (hx' : x' < m.width) : method.merit (m.value y' x') ≤ method.merit v := by
  have hleads : Leads method m.values.toList (m.extremum method.precedes) := by
    refine extremum_induction (motive := fun seen best =>
      (∀ w ∈ seen, method.Usable w) → Leads method seen best) m (fun _ => rfl) ?_
      (by simpa using husable)
    intro seen best v ih hall
    have hseen : ∀ w ∈ seen, method.Usable w := fun w hw => hall w (List.mem_append_left _ hw)
    exact (ih hseen).better hseen (hall v (by simp))
  rw [hext] at hleads
  exact hleads.2 _ (Array.mem_toList_iff.2 (hm.value_mem hy' hx'))

lemma best_spec (t : Num) (hm : m.Filled) (hheight : 0 < m.height) (hwidth : 0 < m.width)
    (husable : ∀ v ∈ m.values, method.Usable v) : ∃ y x, y < m.height ∧ x < m.width ∧
      m.best method t = ⟨(Num.real (certaintyOf method (m.value y x))).ge t, ⟨x, y⟩,
        .real (certaintyOf method (m.value y x))⟩ ∧ ∀ y' x', y' < m.height → x' < m.width →
        method.merit (m.value y' x') ≤ method.merit (m.value y x) := by
  obtain ⟨y, x, hy, hx, hext, hbest⟩ := best_eq method t hm hheight hwidth
  have hfinite := (husable _ (hm.value_mem hy hx)).isFinite_certaintyOf
  refine ⟨y, x, hy, hx, ?_, merit_le_of_extremum hm husable hext⟩
  rw [hbest, ofFloat_eq hfinite]

/-! ### Hiding -/

/-- Whether a position lies in a rectangle that includes both corners. -/
def Covers (x0 y0 x1 y1 : Int) (y x : Nat) : Prop :=
  x0 ≤ x ∧ (x : Int) ≤ x1 ∧ y0 ≤ y ∧ (y : Int) ≤ y1

instance (x0 y0 x1 y1 : Int) (y x : Nat) : Decidable (Covers x0 y0 x1 y1 y x) :=
  inferInstanceAs (Decidable (_ ∧ _))

lemma value_hide (method : MatchMethod) (m : Heatmap) (x0 y0 x1 y1 : Int) (hy : y < m.height)
    (hx : x < m.width) : (m.hide method x0 y0 x1 y1).value y x =
      if Covers x0 y0 x1 y1 y x then method.hidden else m.value y x := by
  rw [hide, value_generate _ hy hx]
  refine ite_congr ?_ (fun _ => rfl) (fun _ => rfl)
  simp [Covers, and_assoc]

end SetTop.Heatmap
