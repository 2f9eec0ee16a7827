import Mathlib
import SetTop.Number.Basic

/-!
Rounding to a double, on whole numbers.

The distance between the two smallest doubles is `2 ^ (-1074)`, and every finite double is a whole
number of such ticks. So rounding to a double is rounding an integer to one of at most 53
significant bits (`round_spec`), without a special case for small numbers.

Rounding integers keeps their order (`roundTicks_mono`): inside one power of two because the
rounding of a quotient does, and across powers of two because these are not rounded at all.
-/

namespace SetTop.Number

open Float.Model Float.Model.UnpackedFloat Format

/-! ### Rounding integers -/

lemma roundHalfEven_eq (n d : Nat) : roundHalfEven n d =
      if 2 * (n % d) < d ∨ 2 * (n % d) = d ∧ n / d % 2 = 0 then n / d else n / d + 1 := by
  simp [roundHalfEven]

lemma roundHalfEven_bounds (n d : Nat) :
    n / d ≤ roundHalfEven n d ∧ roundHalfEven n d ≤ n / d + 1 := by
  rw [roundHalfEven_eq]
  split <;> omega

variable {n n' k m : Nat} {em : ExtendedMantissa} {e : Int}

lemma roundHalfEven_mono (d : Nat) (h : n ≤ n') : roundHalfEven n d ≤ roundHalfEven n' d := by
  have hq : n / d ≤ n' / d := Nat.div_le_div_right h
  rcases Nat.eq_or_lt_of_le hq with hq | hq
  · have hr : n % d ≤ n' % d := by
      have hn := Nat.div_add_mod n d
      have hn' := Nat.div_add_mod n' d
      rw [hq] at hn
      omega
    rw [roundHalfEven_eq, roundHalfEven_eq]
    split <;> split <;> omega
  · -- The greater quotient is at least the other one rounded up.
    have hlow := (roundHalfEven_bounds n' d).1
    have hhigh := (roundHalfEven_bounds n d).2
    omega

lemma roundHalfEven_mul_right (n d : Nat) {c : Nat} (hc : 0 < c) :
    roundHalfEven (n * c) (d * c) = roundHalfEven n d := by
  rw [roundHalfEven_eq, roundHalfEven_eq, Nat.mul_div_mul_right n d hc, Nat.mul_mod_mul_right,
    ← Nat.mul_assoc]
  simp only [Nat.mul_lt_mul_right hc, Nat.mul_left_inj (Nat.pos_iff_ne_zero.1 hc)]

lemma roundHalfEven_one (n : Nat) : roundHalfEven n 1 = n := by
  rw [roundHalfEven_eq, Nat.div_one, if_pos (by omega)]

/-- The number of bits that are rounded away if at most 53 are kept. -/
def grain (n : Nat) : Nat := n.log2 + 1 - 53

/-- The nearest number with at most 53 significant bits, of two the even one. -/
def roundTicks (n : Nat) : Nat := roundHalfEven n (2 ^ grain n) * 2 ^ grain n

lemma roundHalfEven_grain (hn : n ≠ 0) :
    (n < 2 ^ 53 ∧ grain n = 0 ∧ roundHalfEven n (2 ^ grain n) = n) ∨
      (n.log2 = 52 + grain n ∧ 2 ^ 52 ≤ roundHalfEven n (2 ^ grain n) ∧
        roundHalfEven n (2 ^ grain n) ≤ 2 ^ 53) := by
  have hlow : 2 ^ n.log2 ≤ n := Nat.log2_self_le hn
  have hhigh : n < 2 ^ (n.log2 + 1) := Nat.lt_log2_self
  rcases Nat.lt_or_ge n.log2 53 with hsmall | hlarge
  · left
    have hgrain : grain n = 0 := by
      rw [grain]
      omega
    rw [hgrain, Nat.pow_zero, roundHalfEven_one]
    exact ⟨(Nat.log2_lt hn).1 hsmall, rfl, rfl⟩
  · right
    have hlog : n.log2 = 52 + grain n := by
      rw [grain]
      omega
    obtain ⟨hfloor, hceil⟩ := roundHalfEven_bounds n (2 ^ grain n)
    rw [hlog, Nat.pow_add] at hlow
    rw [hlog, Nat.add_right_comm, Nat.pow_add] at hhigh
    have hquot : 2 ^ 52 ≤ n / 2 ^ grain n := (Nat.le_div_iff_mul_le (Nat.two_pow_pos _)).2 hlow
    have hquot' : n / 2 ^ grain n < 2 ^ 53 := (Nat.div_lt_iff_lt_mul (Nat.two_pow_pos _)).2 hhigh
    exact ⟨hlog, by omega, by omega⟩

lemma roundTicks_le (hn : n ≠ 0) : roundTicks n ≤ 2 ^ (n.log2 + 1) := by
  rw [roundTicks]
  rcases roundHalfEven_grain hn with ⟨-, hgrain, hround⟩ | ⟨hlog, -, hround⟩
  · rw [hround, hgrain, Nat.pow_zero, Nat.mul_one]
    exact Nat.le_of_lt Nat.lt_log2_self
  · rw [hlog, Nat.add_right_comm, Nat.pow_add]
    exact Nat.mul_le_mul_right _ hround

lemma le_roundTicks (hn : n ≠ 0) : 2 ^ n.log2 ≤ roundTicks n := by
  rw [roundTicks]
  rcases roundHalfEven_grain hn with ⟨-, hgrain, hround⟩ | ⟨hlog, hround, -⟩
  · rw [hround, hgrain, Nat.pow_zero, Nat.mul_one]
    exact Nat.log2_self_le hn
  · rw [hlog, Nat.pow_add]
    exact Nat.mul_le_mul_right _ hround

lemma log2_le_log2 (hn : n ≠ 0) (h : n ≤ n') : n.log2 ≤ n'.log2 := by
  have hn' : n' ≠ 0 := by omega
  rw [Nat.le_log2 hn']
  exact Nat.le_trans (Nat.log2_self_le hn) h

lemma roundTicks_mono (h : n ≤ n') : roundTicks n ≤ roundTicks n' := by
  rcases Nat.eq_zero_or_pos n with rfl | hpos
  · have hzero : roundTicks 0 = 0 := by decide
    omega
  have hn : n ≠ 0 := by omega
  rcases Nat.eq_or_lt_of_le (log2_le_log2 hn h) with hlog | hlog
  · have hgrain : grain n = grain n' := by rw [grain, grain, hlog]
    rw [roundTicks, hgrain]
    exact Nat.mul_le_mul_right _ (roundHalfEven_mono _ h)
  · -- A power of two lies between the two numbers.
    calc roundTicks n ≤ 2 ^ (n.log2 + 1) := roundTicks_le hn
      _ ≤ 2 ^ n'.log2 := Nat.pow_le_pow_right (by decide) hlog
      _ ≤ roundTicks n' := le_roundTicks (by omega)

/-! ### Shifting with a rest -/

/-- What the two residual bits say about a rest `r` of `2 ^ k`: whether it is at least a half, and
whether it is neither nothing nor a half. -/
def Tells (em : ExtendedMantissa) (r k : Nat) : Prop :=
  (em.roundBit = true ↔ 2 ^ k ≤ 2 * r) ∧ (em.stickyBit = true ↔ 2 * r % 2 ^ k ≠ 0)

lemma Tells.shiftRightOne {r : Nat} (h : Tells em r k) (hr : r < 2 ^ k) :
    Tells em.shiftRightOne (r + em.mantissa % 2 * 2 ^ k) (k + 1) := by
  have hsticky : (em.roundBit || em.stickyBit) = true ↔ r ≠ 0 := by
    rw [Bool.or_eq_true, h.1, h.2]
    constructor
    · rintro (hhalf | hrest) rfl
      · omega
      · simp at hrest
    · intro hne
      rcases Nat.lt_or_ge (2 * r) (2 ^ k) with hlt | hge
      · rw [Nat.mod_eq_of_lt hlt]
        omega
      · exact .inl hge
  have hpow : 2 ^ (k + 1) = 2 * 2 ^ k := by rw [Nat.pow_succ, Nat.mul_comm]
  have hmod : 2 * (r + em.mantissa % 2 * 2 ^ k) % 2 ^ (k + 1) = 2 * r := by
    rw [hpow, Nat.mul_mod_mul_left, Nat.add_mul_mod_self_right, Nat.mod_eq_of_lt hr]
  refine ⟨?_, ?_⟩
  · rw [hpow]
    rcases Nat.mod_two_eq_zero_or_one em.mantissa with hbit | hbit
    · simp [ExtendedMantissa.shiftRightOne, hbit]
      omega
    · simp [ExtendedMantissa.shiftRightOne, hbit]
  · show (em.roundBit || em.stickyBit) = true ↔ _
    rw [hsticky]
    omega

lemma shiftRight_spec (m k : Nat) :
    (ExtendedMantissa.ofMantissaAndAccuracy m .exact >>> k).mantissa = m / 2 ^ k ∧
      Tells (ExtendedMantissa.ofMantissaAndAccuracy m .exact >>> k) (m % 2 ^ k) k := by
  induction k with
  | zero =>
    refine ⟨(Nat.div_one m).symm, ?_⟩
    simp only [Nat.pow_zero, Nat.mod_one]
    show (false = true ↔ 1 ≤ 2 * 0) ∧ (false = true ↔ 0 ≠ 0)
    decide
  | succ k ih =>
    obtain ⟨hquot, htells⟩ := ih
    have hrest : m % 2 ^ (k + 1) = m % 2 ^ k + m / 2 ^ k % 2 * 2 ^ k := by
      rw [Nat.pow_succ, Nat.mod_mul, Nat.mul_comm (2 ^ k)]
    refine ⟨?_, ?_⟩
    · show (ExtendedMantissa.ofMantissaAndAccuracy m .exact >>> k).mantissa / 2 = _
      rw [hquot, Nat.div_div_eq_div_mul, Nat.pow_succ]
    · rw [hrest, ← hquot]
      exact htells.shiftRightOne (Nat.mod_lt _ (Nat.two_pow_pos k))

lemma Tells.roundedMantissa {d : Nat} (hd : d = 2 ^ k) (hquot : em.mantissa = n / d)
    (h : Tells em (n % d) k) : em.roundedMantissa = roundHalfEven n d := by
  have hpos : 0 < d := hd ▸ Nat.two_pow_pos k
  have hlt : n % d < d := Nat.mod_lt n hpos
  rcases em with ⟨q, half, sticky⟩
  simp only [Tells, ← hd] at h hquot
  obtain ⟨hhalf, hsticky⟩ := h
  rw [roundHalfEven_eq]
  have hmod : 2 * (n % d) % d = if 2 * (n % d) < d then 2 * (n % d) else 2 * (n % d) - d := by
    split
    · exact Nat.mod_eq_of_lt ‹_›
    · rw [Nat.mod_eq_sub_mod (by omega), Nat.mod_eq_of_lt (by omega)]
  rw [hmod] at hsticky
  -- Two bits tell four cases apart: no rest, less than a half, a half, and more.
  cases half <;> cases sticky <;>
    simp only [ExtendedMantissa.roundedMantissa, ExtendedMantissa.accuracy,
      Accuracy.roundToNearestEven] <;>
    simp at hhalf hsticky <;> split at hsticky <;> split <;> omega

/-! ### Rounding to a double -/

/-- Whether a mantissa and an exponent are those of a double: at most 53 bits, and fewer only at the
bottom of the exponent range. -/
def Canonical (m : Nat) (e : Int) : Prop :=
  -1074 ≤ e ∧ m < 2 ^ 53 ∧ (e = -1074 ∨ 2 ^ 52 ≤ m)

/-- The number of ticks of `m * 2 ^ e`. -/
def magnitude (m : Nat) (e : Int) : Nat := m * 2 ^ (e + 1074).toNat

lemma targetExponent_eq (t : Int) : binary64.targetExponent t = max (t - 53) (-1074) := rfl

lemma log2_mul_two_pow (hm : 0 < m) (k : Nat) : (m * 2 ^ k).log2 = m.log2 + k := by
  have hlow : 2 ^ m.log2 ≤ m := Nat.log2_self_le (by omega)
  have hhigh : m < 2 ^ (m.log2 + 1) := Nat.lt_log2_self
  have hpos : 0 < m * 2 ^ k := Nat.mul_pos hm (Nat.two_pow_pos k)
  rw [Nat.log2_eq_iff (by omega)]
  constructor
  · rw [Nat.pow_add]
    exact Nat.mul_le_mul_right _ hlow
  · rw [Nat.add_right_comm, Nat.pow_add]
    exact Nat.mul_lt_mul_of_pos_right hhigh (Nat.two_pow_pos k)

lemma targetExponent_totalExponent (hm : 0 < m) (he : -1074 ≤ e) :
    binary64.targetExponent (totalExponent m e) = (grain (magnitude m e) : Int) - 1074 := by
  rw [targetExponent_eq, totalExponent, grain, magnitude, log2_mul_two_pow hm]
  omega

lemma magnitude_decreaseExponent {t : Int} (ht : -1074 ≤ t) :
    magnitude (decreaseExponent m e t).1 (decreaseExponent m e t).2 = magnitude m e := by
  simp only [decreaseExponent, magnitude]
  rcases Int.le_total e t with hle | hle
  · rw [Int.toNat_of_nonpos (by omega)]
    simp
  · rw [Nat.shiftLeft_eq, Nat.mul_assoc, ← Nat.pow_add]
    congr 2
    omega

lemma shiftToTargetExponent_rounded {q g : Nat} (hpos : 0 < q) (hq : q ≤ 2 ^ 53)
    (hlow : g = 0 ∨ 2 ^ 52 ≤ q) :
    ∃ em e, shiftToTargetExponent binary64 q ((g : Int) - 1074) .exact = (em, e) ∧
      Canonical em.mantissa e ∧ magnitude em.mantissa e = q * 2 ^ g := by
  refine ⟨_, _, rfl, ?_⟩
  simp only [targetExponent_eq, totalExponent]
  rcases Nat.eq_or_lt_of_le hq with rfl | hlt
  · -- A carry: the mantissa is `2 ^ 53`, which has one bit too many.
    have hlog : (2 ^ 53 : Nat).log2 = 53 := Nat.log2_two_pow
    have hshift : (max ((53 : Nat) + 1 + ((g : Int) - 1074) - 53) (-1074) - (g - 1074)).toNat
        = 1 := by omega
    rw [hlog, hshift, (shiftRight_spec _ _).1]
    refine ⟨⟨by omega, by decide, .inr (by decide)⟩, ?_⟩
    rw [magnitude, show ((g : Int) - 1074 + (1 : Nat) + 1074).toNat = g + 1 by omega]
    omega
  · have hlog : q.log2 < 53 := (Nat.log2_lt (by omega)).2 hlt
    have hshift : (max (q.log2 + 1 + ((g : Int) - 1074) - 53) (-1074) - (g - 1074)).toNat
        = 0 := by omega
    rw [hshift, (shiftRight_spec _ _).1, Nat.pow_zero, Nat.div_one]
    refine ⟨⟨by omega, hlt, ?_⟩, ?_⟩
    · rcases hlow with rfl | hlow
      · omega
      · exact .inr hlow
    · rw [magnitude]
      congr 2
      omega

lemma roundedMantissa_shiftToTargetExponent (hm : 0 < m) (he : -1074 ≤ e)
    (hle : e ≤ (grain (magnitude m e) : Int) - 1074) :
    ∃ em, shiftToTargetExponent binary64 m e .exact =
        (em, (grain (magnitude m e) : Int) - 1074) ∧
      em.roundedMantissa = roundHalfEven (magnitude m e) (2 ^ grain (magnitude m e)) := by
  have hshift := targetExponent_totalExponent hm he
  generalize hg : grain (magnitude m e) = g at hle hshift
  have hsum : g = (g - 1074 - e).toNat + (e + 1074).toNat := by omega
  refine ⟨ExtendedMantissa.ofMantissaAndAccuracy m .exact >>> (g - 1074 - e).toNat, ?_, ?_⟩
  · rw [shiftToTargetExponent, hshift, shiftToExponent]
    congr 1
    omega
  · obtain ⟨hquot, htells⟩ := shiftRight_spec m (g - 1074 - e).toNat
    rw [htells.roundedMantissa rfl hquot, magnitude]
    have hpow : 2 ^ g = 2 ^ (g - 1074 - e).toNat * 2 ^ (e + 1074).toNat := by
      rw [← Nat.pow_add, ← hsum]
    rw [hpow, roundHalfEven_mul_right _ _ (Nat.two_pow_pos _)]

/-- Rounding a positive number gives the double whose ticks are the rounded ticks. -/
lemma round_spec (hm : 0 < m) (he : -1074 ≤ e) (s : Sign) :
    ∃ m' e' h, UnpackedFloat.round binary64 s m e = .finite s m' e' h ∧ Canonical m' e' ∧
      magnitude m' e' = roundTicks (magnitude m e) := by
  have htarget := targetExponent_totalExponent hm he
  -- The number written with at least as many bits as are kept.
  obtain ⟨m₁, e₁, hdec, hm₁, he₁, hle, hmag⟩ : ∃ m₁ e₁,
      decreaseExponent m e ((grain (magnitude m e) : Int) - 1074) = (m₁, e₁) ∧ 0 < m₁ ∧
        -1074 ≤ e₁ ∧ e₁ ≤ (grain (magnitude m e) : Int) - 1074 ∧
        magnitude m₁ e₁ = magnitude m e := by
    refine ⟨_, _, rfl, ?_, by omega, by omega, magnitude_decreaseExponent (by omega)⟩
    rw [Nat.shiftLeft_eq]
    exact Nat.mul_pos hm (Nat.two_pow_pos _)
  rw [← hmag] at hle ⊢
  obtain ⟨em, hshift, hround⟩ := roundedMantissa_shiftToTargetExponent hm₁ he₁ hle
  have hpos : 0 < magnitude m₁ e₁ := Nat.mul_pos hm₁ (Nat.two_pow_pos _)
  obtain ⟨hq, hq', hlow⟩ : 0 < em.roundedMantissa ∧ em.roundedMantissa ≤ 2 ^ 53 ∧
      (grain (magnitude m₁ e₁) = 0 ∨ 2 ^ 52 ≤ em.roundedMantissa) := by
    rcases roundHalfEven_grain (Nat.pos_iff_ne_zero.1 hpos) with ⟨hlt, hgrain, heq⟩ | ⟨-, h, h'⟩
    · rw [hround, heq]
      exact ⟨hpos, Nat.le_of_lt hlt, .inl hgrain⟩
    · rw [hround]
      exact ⟨by omega, h', .inr h⟩
  obtain ⟨em', e', hshift', hcan, hmag'⟩ := shiftToTargetExponent_rounded hq hq' hlow
  have hne : em'.mantissa ≠ 0 := by
    intro hzero
    rw [hzero, magnitude, Nat.zero_mul] at hmag'
    exact absurd hmag' (Nat.ne_of_lt (Nat.mul_pos hq (Nat.two_pow_pos _)))
  refine ⟨em'.mantissa, e', Nat.pos_of_ne_zero hne, ?_, hcan, ?_⟩
  · rw [UnpackedFloat.round, htarget, hdec]
    dsimp only
    rw [roundWithAccuracy, hshift]
    dsimp only
    rw [hshift']
    rw [dif_neg hne]
  · rw [hmag', hround, roundTicks]

end SetTop.Number
