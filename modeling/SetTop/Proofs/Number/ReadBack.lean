import SetTop.Number.Reading
import SetTop.Proofs.Number.Ticks

/-!
Doubles are read back from their shortest digits.

A decimal that is shorter than the value of a double is taken for its digits only if it is read as
this double. So all that remains is that the value itself is (`bits_decimal`), and that zeros at the
end of a decimal do not count (`bits_mul_pow`).
-/

namespace SetTop.Number

variable {m den k num n : ℕ} {bits : UInt64} {negative : Bool} {d : Dyadic} {x : Float} {c : Decimal}

/-! ### The nearest double -/

lemma nearestBits_eq (num den : ℕ) : nearestBits num den =
    min (grain (num * unit / den) * 2 ^ 52 +
      roundHalfEven (num * unit) (den * 2 ^ grain (num * unit / den))) (2047 * 2 ^ 52) := by
  have hunit : Nat.pow 2 1074 = unit := by decide +kernel
  rw [nearestBits, hunit]
  rfl

lemma nearestBits_mul (num den : ℕ) (hn : 0 < n) :
    nearestBits (num * n) (den * n) = nearestBits num den := by
  rw [nearestBits_eq, nearestBits_eq, Nat.mul_right_comm num, Nat.mul_div_mul_right _ _ hn,
    Nat.mul_right_comm den, roundHalfEven_mul_right _ _ hn]

lemma grain_mul_pow (hm : m < 2 ^ 53) (hnormal : k = 0 ∨ 2 ^ 52 ≤ m) : grain (m * 2 ^ k) = k := by
  rw [grain]
  rcases Nat.eq_zero_or_pos m with rfl | hpos
  · rw [hnormal.resolve_right (by decide)]
    rfl
  · have hlog : m.log2 < 53 := (Nat.log2_lt (by omega)).2 hm
    rw [log2_mul_two_pow hpos]
    rcases hnormal with rfl | hnormal
    · omega
    · have := (Nat.le_log2 (by omega)).2 hnormal
      omega

lemma nearestBits_of_exact (hden : 0 < den) (hm : m < 2 ^ 53) (hnormal : k = 0 ∨ 2 ^ 52 ≤ m)
    (hk : k ≤ 2045) (h : num * unit = m * 2 ^ k * den) : nearestBits num den = k * 2 ^ 52 + m := by
  have hround : roundHalfEven (m * 2 ^ k * den) (den * 2 ^ k) = m := by
    rw [Nat.mul_assoc, Nat.mul_comm (2 ^ k), ← Nat.one_mul (den * 2 ^ k), ← Nat.mul_assoc, Nat.mul_one,
      roundHalfEven_mul_right m 1 (Nat.mul_pos hden (Nat.two_pow_pos k)), roundHalfEven_one]
  rw [nearestBits_eq, h, Nat.mul_div_cancel _ hden, grain_mul_pow hm hnormal, hround]
  exact Nat.min_eq_left (by omega)

/-! ### Sizes -/

lemma lt_pow_decimalLength (n : ℕ) : n < 10 ^ decimalLength n :=
  (Nat.length_toDigits_le_iff (by decide) Nat.length_toDigits_pos).1 (Nat.le_refl _)

lemma decimalLength_le (hk : 0 < k) (hn : n < 10 ^ k) : decimalLength n ≤ k :=
  (Nat.length_toDigits_le_iff (by decide) hk).2 hn

lemma decimalLength_mul_pow (hn : n ≠ 0) (k : ℕ) : decimalLength (10 ^ k * n) = decimalLength n + k := by
  induction k with
  | zero => simp
  | succ k ih =>
    have hpos : 0 < 10 ^ k * n := by positivity
    have hstep : 10 ^ (k + 1) * n = 10 * (10 ^ k * n) := by ring
    rw [← Nat.add_assoc, ← ih, hstep, decimalLength, Nat.toDigits_eq_if (by decide),
      if_neg (by omega), Nat.mul_div_cancel_left _ (by decide), List.length_append]
    rfl

lemma bits_mul_pow (n k : ℕ) (e : ℤ) : (⟨10 ^ k * n, e⟩ : Decimal).bits = (⟨n, e + k⟩ : Decimal).bits := by
  rcases eq_or_ne n 0 with rfl | hn
  · simp [Decimal.bits]
  have hne : 10 ^ k * n ≠ 0 := by positivity
  have hsize : e + ((decimalLength n + k : ℕ) : ℤ) = e + k + decimalLength n := by
    push_cast
    ring
  have hpow (j : ℕ) : Nat.pow 10 j = 10 ^ j := rfl
  simp only [Decimal.bits, hne, hn, false_or, decimalLength_mul_pow hn, hsize, hpow]
  refine if_congr Iff.rfl rfl (if_congr Iff.rfl rfl ?_)
  by_cases he : e ≥ 0
  · rw [if_pos he, if_pos (by omega), show (e + k).toNat = k + e.toNat by omega, Nat.pow_add]
    congr 1
    ring
  rw [if_neg he]
  obtain ⟨j, hj⟩ : ∃ j : ℕ, (-e).toNat = j := ⟨_, rfl⟩
  rw [hj]
  split
  · next hpos =>
    rw [← nearestBits_mul (n * 10 ^ (e + k).toNat) 1 (Nat.pow_pos (n := j) (show 0 < 10 by decide)),
      Nat.one_mul, Nat.mul_assoc, ← Nat.pow_add, show (e + k).toNat + j = k by omega, Nat.mul_comm]
  · next hneg =>
    rw [← nearestBits_mul n (10 ^ (-(e + k)).toNat) (Nat.pow_pos (n := k) (show 0 < 10 by decide)),
      ← Nat.pow_add, show (-(e + k)).toNat + k = j by omega, Nat.mul_comm]

lemma two_pow_le_ten_pow (hk : k ≤ 1200) : 2 ^ k ≤ 10 ^ 400 := by
  calc 2 ^ k ≤ 2 ^ (3 * 400) := Nat.pow_le_pow_right (by decide) hk
    _ = 8 ^ 400 := Nat.pow_mul ..
    _ ≤ 10 ^ 400 := Nat.pow_le_pow_left (by decide) _

lemma bits_decimal (hcan : Canonical d.mant d.exp) (hexp : d.exp ≤ 971) (hm : d.mant ≠ 0) :
    d.decimal.bits = d.bits := by
  obtain ⟨hlow, hlt, hnormal⟩ := hcan
  have hten (j : ℕ) : 10 ^ j = 2 ^ j * 5 ^ j := by rw [← Nat.mul_pow]
  have hexact {num den : ℕ} (hden : 0 < den)
      (h : num * unit = d.mant * 2 ^ (d.exp + 1074).toNat * den) : nearestBits num den = d.bits :=
    nearestBits_of_exact hden hlt (hnormal.imp (by omega) id) (by omega) h
  rw [Dyadic.decimal]
  split
  · next hpos =>
    have hdigits : d.mant * 2 ^ d.exp.toNat ≠ 0 := by positivity
    have hlength : decimalLength (d.mant * 2 ^ d.exp.toNat) ≤ 400 := by
      refine decimalLength_le (by decide) (lt_of_lt_of_le ?_ (two_pow_le_ten_pow (k := 1024) (by decide)))
      rw [show 1024 = 53 + 971 from rfl, Nat.pow_add]
      exact Nat.mul_lt_mul_of_lt_of_le hlt (Nat.pow_le_pow_right (by decide) (by omega))
        (Nat.two_pow_pos _)
    change (⟨d.mant * 2 ^ d.exp.toNat, 0⟩ : Decimal).bits = _
    rw [Decimal.bits, if_neg (by simp only [hdigits, false_or]; omega), if_neg (by dsimp only; omega),
      if_pos (Int.le_refl 0)]
    refine hexact Nat.one_pos ?_
    rw [show (d.exp + 1074).toNat = d.exp.toNat + 1074 by omega, Nat.pow_add]
    change d.mant * 2 ^ d.exp.toNat * 1 * 2 ^ 1074 = _
    ring
  · next hneg =>
    obtain ⟨s, hs⟩ : ∃ s : ℕ, d.exp = -s := ⟨(-d.exp).toNat, by omega⟩
    have hs' : (-d.exp).toNat = s := by omega
    have hdigits : d.mant * 5 ^ s ≠ 0 := by positivity
    have hlength : decimalLength (d.mant * 5 ^ s) ≤ 16 + s := by
      refine decimalLength_le (by omega) ?_
      rw [Nat.pow_add]
      exact Nat.mul_lt_mul_of_lt_of_le (by omega) (Nat.pow_le_pow_left (by decide) s) (by positivity)
    have hlength' : s ≤ 400 + decimalLength (d.mant * 5 ^ s) := by
      refine (Nat.pow_le_pow_iff_right (a := 10) (by decide)).1 ?_
      rw [hten s, Nat.pow_add]
      exact Nat.mul_le_mul (two_pow_le_ten_pow (by omega))
        ((Nat.le_mul_of_pos_left _ (by omega)).trans (lt_pow_decimalLength _).le)
    rw [hs']
    change (⟨d.mant * 5 ^ s, d.exp⟩ : Decimal).bits = _
    rw [Decimal.bits, if_neg (by simp only [hdigits, false_or]; omega), if_neg (by dsimp only; omega),
      if_neg hneg, hs']
    refine hexact (Nat.pow_pos (by decide)) ?_
    change _ = _ * 10 ^ s
    rw [hten s, unit, show 1074 = (d.exp + 1074).toNat + s by omega, Nat.pow_add]
    ring

lemma bits_shortest (hcan : Canonical d.mant d.exp) (hexp : d.exp ≤ 971) :
    (shortest d).bits = d.bits := by
  rw [shortest]
  split
  · next hzero =>
    have hlow := hcan.2.2
    rw [Dyadic.bits, hzero, show (d.exp + 1074).toNat = 0 by omega]
    rfl
  · next hm =>
    dsimp only
    cases hfound : (List.range 17).findSome? fun (n : ℕ) => nearestOnGrid? d (leadingExponent d - n) with
    | none => exact bits_decimal hcan hexp hm
    | some c =>
      obtain ⟨n, -, hgrid⟩ := List.exists_of_findSome?_eq_some hfound
      rw [nearestOnGrid?] at hgrid
      simpa using List.find?_some hgrid

/-! ### Bits -/

open Float.Model Float.Model.UnpackedFloat

lemma toNat_of_ofBits_eq (h : Parts.ofBits bits = .finite negative d) :
    bits.toNat = d.bits + if negative then 2 ^ 63 else 0 := by
  change _ = (d.exp + 1074).toNat * 2 ^ 52 + d.mant + _
  have hlt := bits.toNat_lt
  have hp52 : Nat.pow 2 52 = 2 ^ 52 := rfl
  have hp63 : Nat.pow 2 63 = 2 ^ 63 := rfl
  have hp11 : Nat.pow 2 11 = 2 ^ 11 := rfl
  have htop : bits.toNat / 2 ^ 63 = 0 ∨ bits.toNat / 2 ^ 63 = 1 := by omega
  rw [Parts.ofBits, hp52, hp63, hp11] at h
  rcases htop with htop | htop
  all_goals
    rw [htop] at h
    split at h
    · split at h <;> cases h
    · split at h <;>
      · cases h
        simp only [Nat.reduceBEq, Bool.false_eq_true, if_false, if_true]
        omega

lemma Parts.eq_of_unpacked_eq {p : Parts}
    (hp : ∀ negative' d', p = .finite negative' d' → Canonical d'.mant d'.exp)
    (hd : Canonical d.mant d.exp) (h : p.unpacked = (Parts.finite negative d).unpacked) :
    p = .finite negative d := by
  have hsign {a b : Bool} (h : signOf a = signOf b) : a = b := by
    revert h
    cases a <;> cases b <;> simp [signOf]
  cases p with
  | nan | infinite => rw [Parts.unpacked, Parts.unpacked] at h; split at h <;> cases h
  | finite negative' d' =>
    have hd' := hp negative' d' rfl
    obtain ⟨m, e⟩ := d
    obtain ⟨m', e'⟩ := d'
    rw [Parts.unpacked, Parts.unpacked] at h
    simp only [Canonical] at hd hd' h
    split at h
    · split at h
      · -- a zero has the smallest exponent
        obtain ⟨rfl⟩ := hsign (UnpackedFloat.zero.inj h)
        obtain rfl : m' = 0 := by assumption
        obtain rfl : m = 0 := by assumption
        obtain rfl : e = e' := by omega
        rfl
      · cases h
    · split at h
      · cases h
      · obtain ⟨hs, rfl, rfl⟩ := UnpackedFloat.finite.inj h
        obtain ⟨rfl⟩ := hsign hs
        rfl

lemma toBits_ofBits (h : Parts.ofBits bits = .finite negative d) :
    (Float.ofBits bits).toBits = bits := by
  obtain ⟨hcan, hexp⟩ := Parts.canonical_of_finite h
  have hunpack : (Float.ofBits bits).toModel.unpack = (Parts.finite negative d).unpacked := by
    have hbits : UnpackedFloat.unpack Format.binary64 bits.toBitVec =
        (Parts.finite negative d).unpacked := by
      rw [← h]
      exact unpack_eq _
    change (Float.Model.pack (UnpackedFloat.unpack Format.binary64 bits.toBitVec)).unpack = _
    rw [hbits, Parts.unpacked]
    split
    · cases negative <;> rfl
    · exact unpack_pack hcan hexp
  have hparts : Parts.ofBits (Float.ofBits bits).toBits = .finite negative d := by
    refine Parts.eq_of_unpacked_eq (fun _ _ hp => (Parts.canonical_of_finite hp).1) hcan ?_
    rw [← hunpack]
    exact (unpack_eq _).symm
  apply UInt64.toNat_inj.1
  rw [toNat_of_ofBits_eq hparts, toNat_of_ofBits_eq h]

lemma double_of_bits (hparts : Parts.ofBits x.toBits = .finite negative d) (h : c.bits = d.bits) :
    c.double negative = x := by
  have hbits : c.bits + (if negative = true then Nat.pow 2 63 else 0) = x.toBits.toNat := by
    rw [toNat_of_ofBits_eq hparts, h]
    rfl
  rw [Decimal.double, hbits, UInt64.ofNat_toNat]
  exact Float.toBits_inj.1 (toBits_ofBits hparts)

end SetTop.Number
