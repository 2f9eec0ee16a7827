import SetTop.Proofs.Number.Rounding

/-!
Doubles as whole numbers of ticks.

A finite double is told by its ticks: the order of doubles is the order of their ticks, an integer
is compared with a double by comparing ticks, and the difference of two doubles has the rounded
difference of their ticks. So the distance to one falls as a number between zero and one grows
(`ticks_one_sub`), although it is rounded.
-/

namespace SetTop.Number

open Float.Model Float.Model.UnpackedFloat Format

/-- The ticks of an unpacked number; none for one that is not finite. -/
def unpackedTicks : UnpackedFloat → Int
  | .finite s m e _ => s.apply (magnitude m e)
  | _ => 0

def ticks (x : Float) : Int := unpackedTicks x.toModel.unpack

def unit : Nat := 2 ^ 1074

lemma unit_pos : 0 < unit := by
  decide +kernel

/-! ### Bit patterns -/

variable (b : BitVec 64)

lemma toNat_unpackSign : (@unpackSign binary64 b).toNat = b.toNat / 2 ^ 63 := by
  simp [unpackSign]
  omega

def signOf (negative : Bool) : Sign := if negative then .negative else .positive

def Parts.unpacked : Parts → UnpackedFloat
  | .nan => .notANumber
  | .infinite negative => .infinity (signOf negative)
  | .finite negative d =>
    if h : d.mant = 0 then .zero (signOf negative)
    else .finite (signOf negative) d.mant d.exp (Nat.pos_of_ne_zero h)

lemma signOf_unpackSign :
    Sign.ofBitVec (@unpackSign binary64 b) = signOf (b.toNat / 2 ^ 63 == 1) := by
  have hbit := toNat_unpackSign b
  rw [Sign.ofBitVec, signOf]
  rcases Nat.eq_zero_or_pos (b.toNat / 2 ^ 63) with hzero | hpos
  · rw [if_pos, if_neg]
    · rw [hzero]
      decide
    · exact BitVec.eq_of_toNat_eq (by rw [hbit, hzero]; rfl)
  · have hone : b.toNat / 2 ^ 63 = 1 := by omega
    rw [if_neg]
    · rw [hone]
      rfl
    · intro heq
      rw [heq] at hbit
      simp at hbit
      omega

lemma unpack_eq :
    UnpackedFloat.unpack binary64 b = (Parts.ofBits (UInt64.ofBitVec b)).unpacked := by
  have hmant : (@unpackMantissa binary64 b).toNat = b.toNat % 2 ^ 52 := by
    simp [unpackMantissa]
  have hexp : (@unpackExponent binary64 b).toNat = b.toNat / 2 ^ 52 % 2 ^ 11 := by
    simp [unpackExponent, Nat.shiftRight_eq_div_pow]
  have hm : @unpackMantissa binary64 b = 0#_ ↔ b.toNat % 2 ^ 52 = 0 := by
    rw [BitVec.toNat_eq]
    rfl
  have hinf : @unpackExponent binary64 b = -1#_ ↔ b.toNat / 2 ^ 52 % 2 ^ 11 = 2047 := by
    rw [← hexp, BitVec.toNat_eq]
    rfl
  have hsub : @unpackExponent binary64 b = 0#_ ↔ b.toNat / 2 ^ 52 % 2 ^ 11 = 0 := by
    rw [← hexp, BitVec.toNat_eq]
    rfl
  rw [UnpackedFloat.unpack, Parts.ofBits]
  simp only [signOf_unpackSign, hm, hinf, hsub, hexp, UInt64.toNat_ofBitVec, Nat.pow_eq]
  by_cases h1 : b.toNat / 2 ^ 52 % 2 ^ 11 = 2047
  · rw [if_pos h1]
    split <;> rfl
  rw [if_neg h1, if_neg h1]
  by_cases h2 : b.toNat / 2 ^ 52 % 2 ^ 11 = 0
  · -- Subnormal numbers and zero.
    rw [if_pos h2]
    rw [h2]
    rfl
  · have happend : (1#1 ++ @unpackMantissa binary64 b).toNat
        = 2 ^ 52 + b.toNat % 2 ^ 52 := by
      rw [BitVec.toNat_append, hmant,
        ← Nat.shiftLeft_add_eq_or_of_lt (Nat.mod_lt _ (Nat.two_pow_pos 52))]
      rfl
    rw [if_neg h2, if_neg h2, Parts.unpacked, dif_neg]
    · congr 1
    · exact Nat.ne_of_gt (Nat.add_pos_left (Nat.two_pow_pos 52) _)

variable {negative : Bool} {d : Dyadic} {x y v : Float} {m m' : Nat} {e e' : Int}

lemma Parts.canonical_of_finite {bits : UInt64} (h : Parts.ofBits bits = .finite negative d) :
    Canonical d.mant d.exp ∧ d.exp ≤ 971 := by
  have hfrac : bits.toNat % Nat.pow 2 52 < 2 ^ 52 := Nat.mod_lt _ (Nat.two_pow_pos 52)
  have hbiased : bits.toNat / Nat.pow 2 52 % Nat.pow 2 11 < 2048 := Nat.mod_lt _ (by decide)
  rw [Parts.ofBits] at h
  split at h
  · split at h <;> cases h
  · split at h
    · cases h
      dsimp only [Canonical]
      omega
    · cases h
      have hpow : Nat.pow 2 52 = 2 ^ 52 := rfl
      dsimp only [Canonical]
      omega

lemma unpackedTicks_unpacked (negative : Bool) (d : Dyadic) :
    unpackedTicks (Parts.finite negative d).unpacked =
      (signOf negative).apply (magnitude d.mant d.exp) := by
  rw [Parts.unpacked]
  split
  · next hzero =>
    rw [hzero, magnitude, Nat.zero_mul]
    cases negative <;> rfl
  · rfl

lemma exists_parts (hx : x.isFinite = true) :
    ∃ negative d, Parts.ofBits x.toBits = .finite negative d ∧
      x.toModel.unpack = (Parts.finite negative d).unpacked ∧ Canonical d.mant d.exp ∧ d.exp ≤ 971 ∧
      ticks x = (signOf negative).apply (magnitude d.mant d.exp) := by
  have hunpack : x.toModel.unpack = (Parts.ofBits x.toBits).unpacked := unpack_eq _
  have hfinite : x.toModel.unpack.isFinite = true := hx
  cases hparts : Parts.ofBits x.toBits with
  | nan | infinite => simp [hunpack, hparts, Parts.unpacked, UnpackedFloat.isFinite] at hfinite
  | finite negative d =>
    rw [hparts] at hunpack
    obtain ⟨hcan, hexp⟩ := Parts.canonical_of_finite hparts
    refine ⟨negative, d, rfl, hunpack, hcan, hexp, ?_⟩
    rw [ticks, hunpack, unpackedTicks_unpacked]

/-! ### Order -/

lemma magnitude_lt_of_exp_lt (h : Canonical m e) (h' : Canonical m' e') (he : e < e') :
    magnitude m e < magnitude m' e' := by
  obtain ⟨hlow, hm, -⟩ := h
  have hm' : 2 ^ 52 ≤ m' := h'.2.2.resolve_left (by omega)
  calc m * 2 ^ (e + 1074).toNat < 2 ^ 53 * 2 ^ (e + 1074).toNat :=
        Nat.mul_lt_mul_of_pos_right hm (Nat.two_pow_pos _)
    _ = 2 ^ 52 * 2 ^ ((e + 1074).toNat + 1) := by rw [← Nat.pow_add, ← Nat.pow_add]; congr 1; omega
    _ ≤ 2 ^ 52 * 2 ^ (e' + 1074).toNat :=
        Nat.mul_le_mul_left _ (Nat.pow_le_pow_right (by decide) (by omega))
    _ ≤ m' * 2 ^ (e' + 1074).toNat := Nat.mul_le_mul_right _ hm'

lemma compare_magnitude (h : Canonical m e) (h' : Canonical m' e') :
    (compare e e').then (compare m m') = compare (magnitude m e : Int) (magnitude m' e') := by
  rcases Int.lt_trichotomy e e' with hlt | rfl | hgt
  · have hmag := magnitude_lt_of_exp_lt h h' hlt
    rw [Int.compare_eq_lt.2 hlt, Int.compare_eq_lt.2 (by omega)]
    rfl
  · rw [Int.compare_eq_eq.2 rfl, Ordering.eq_then]
    have hpos : 0 < 2 ^ (e + 1074).toNat := Nat.two_pow_pos _
    rcases Nat.lt_trichotomy m m' with hlt | rfl | hgt
    · have hmag : magnitude m e < magnitude m' e := Nat.mul_lt_mul_of_pos_right hlt hpos
      rw [Nat.compare_eq_lt.2 hlt, Int.compare_eq_lt.2 (by omega)]
    · rw [Nat.compare_eq_eq.2 rfl, Int.compare_eq_eq.2 rfl]
    · have hmag : magnitude m' e < magnitude m e := Nat.mul_lt_mul_of_pos_right hgt hpos
      rw [Nat.compare_eq_gt.2 hgt, Int.compare_eq_gt.2 (by omega)]
  · have hmag := magnitude_lt_of_exp_lt h' h hgt
    rw [Int.compare_eq_gt.2 hgt, Int.compare_eq_gt.2 (by omega)]
    rfl

lemma magnitude_pos (hm : 0 < m) (e : Int) : 0 < magnitude m e :=
  Nat.mul_pos hm (Nat.two_pow_pos _)

lemma magnitude_zero (e : Int) : magnitude 0 e = 0 := Nat.zero_mul _

lemma apply_zero (s : Sign) : s.apply ((0 : Nat) : Int) = 0 := by
  cases s <;> rfl

lemma compare_unpacked {negative' : Bool} {d' : Dyadic} (h : Canonical d.mant d.exp)
    (h' : Canonical d'.mant d'.exp) :
    (Parts.finite negative d).unpacked.compare (Parts.finite negative' d').unpacked =
      some (compare ((signOf negative).apply (magnitude d.mant d.exp))
        ((signOf negative').apply (magnitude d'.mant d'.exp))) := by
  have hcompare := compare_magnitude h h'
  rw [Parts.unpacked, Parts.unpacked]
  -- Zero is compared by the sign of the other number, and not by exponents.
  rcases Nat.eq_zero_or_pos d.mant with hd | hd <;> rcases Nat.eq_zero_or_pos d'.mant with hd' | hd'
  · rw [dif_pos hd, dif_pos hd', hd, hd', magnitude_zero, magnitude_zero, apply_zero, apply_zero]
    rfl
  · have hpos := magnitude_pos hd' d'.exp
    rw [dif_pos hd, dif_neg (Nat.ne_of_gt hd'), hd, magnitude_zero, apply_zero]
    cases negative'
    · exact congrArg some (Int.compare_eq_lt.2 (Int.natCast_pos.2 hpos)).symm
    · exact congrArg some (Int.compare_eq_gt.2 (Int.neg_neg_of_pos (Int.natCast_pos.2 hpos))).symm
  · have hpos := magnitude_pos hd d.exp
    rw [dif_neg (Nat.ne_of_gt hd), dif_pos hd', hd', magnitude_zero, apply_zero]
    cases negative
    · exact congrArg some (Int.compare_eq_gt.2 (Int.natCast_pos.2 hpos)).symm
    · exact congrArg some (Int.compare_eq_lt.2 (Int.neg_neg_of_pos (Int.natCast_pos.2 hpos))).symm
  · have hpos := magnitude_pos hd d.exp
    rw [dif_neg (Nat.ne_of_gt hd), dif_neg (Nat.ne_of_gt hd')]
    cases negative <;> cases negative'
    · exact congrArg some hcompare
    · have hgt : -(magnitude d'.mant d'.exp : Int) < magnitude d.mant d.exp := by omega
      exact congrArg some (Int.compare_eq_gt.2 hgt).symm
    · have hlt : -(magnitude d.mant d.exp : Int) < magnitude d'.mant d'.exp := by omega
      exact congrArg some (Int.compare_eq_lt.2 hlt).symm
    · have hneg (a b : Int) : (compare a b).swap = compare (-a) (-b) := by
        rw [Int.compare_swap, Int.compare_eq_ite_lt, Int.compare_eq_ite_lt]
        simp only [Int.neg_lt_neg_iff]
      exact congrArg some ((congrArg Ordering.swap hcompare).trans (hneg _ _))

lemma compare_eq (hx : x.isFinite = true) (hy : y.isFinite = true) :
    x.toModel.unpack.compare y.toModel.unpack = some (compare (ticks x) (ticks y)) := by
  obtain ⟨_, _, -, hux, hcx, -, htx⟩ := exists_parts hx
  obtain ⟨_, _, -, huy, hcy, -, hty⟩ := exists_parts hy
  rw [hux, huy, compare_unpacked hcx hcy, htx, hty]

lemma le_iff_compare (x y : Float) :
    x ≤ y ↔ (x.toModel.unpack.compare y.toModel.unpack).any (·.isLE) = true :=
  decide_eq_true_iff

lemma lt_iff_compare (x y : Float) :
    x < y ↔ x.toModel.unpack.compare y.toModel.unpack = some .lt := by
  have hlt : x < y ↔ (x.toModel.unpack.compare y.toModel.unpack == some .lt) = true :=
    decide_eq_true_iff
  rw [hlt, beq_iff_eq]

lemma lt_iff (hx : x.isFinite = true) (hy : y.isFinite = true) : x < y ↔ ticks x < ticks y := by
  rw [lt_iff_compare, compare_eq hx hy, ← Int.compare_eq_lt, Option.some.injEq]

lemma le_iff (hx : x.isFinite = true) (hy : y.isFinite = true) : x ≤ y ↔ ticks x ≤ ticks y := by
  rw [le_iff_compare, compare_eq hx hy, ← Int.isLE_compare]
  simp

lemma isFinite_of_le_of_le {z : Float} (hx : x.isFinite = true) (hz : z.isFinite = true) (hxy : x ≤ y)
    (hyz : y ≤ z) : y.isFinite = true := by
  rw [le_iff_compare] at hxy hyz
  show y.toModel.unpack.isFinite = true
  replace hx : x.toModel.unpack.isFinite = true := hx
  replace hz : z.toModel.unpack.isFinite = true := hz
  generalize x.toModel.unpack = u at hx hxy
  generalize z.toModel.unpack = w at hz hyz
  generalize y.toModel.unpack = v at hxy hyz
  cases v with
  | finite | zero => rfl
  | notANumber => cases w <;> simp [UnpackedFloat.compare] at hyz
  | infinity s =>
    cases s with
    | positive => cases w <;> simp [UnpackedFloat.compare, UnpackedFloat.isFinite] at hyz hz
    | negative =>
      cases u with
      | infinity | notANumber => simp [UnpackedFloat.isFinite] at hx
      | zero => simp [UnpackedFloat.compare] at hxy
      | finite s => cases s <;> simp [UnpackedFloat.compare] at hxy

lemma isNaN_eq_false (hx : x.isFinite = true) : x.isNaN = false := by
  replace hx : x.toModel.unpack.isFinite = true := hx
  show x.toModel.unpack.isNaN = false
  cases hu : x.toModel.unpack with
  | notANumber => simp [hu, UnpackedFloat.isFinite] at hx
  | infinity | zero | finite => rfl

lemma isNaN_iff (x : Float) : x.isNaN = true ↔ x.toModel.unpack = .notANumber := by
  change x.toModel.unpack.isNaN = true ↔ _
  cases x.toModel.unpack <;> simp

lemma not_lt_of_isNaN (hx : x.isNaN = true) (y : Float) : ¬x < y := by
  rw [lt_iff_compare, (isNaN_iff x).1 hx]
  simp [UnpackedFloat.compare]

lemma unpack_zero : (0.0 : Float).toModel.unpack = .zero .positive := rfl

lemma not_lt_zero_of_lt {b : Float} (hb : ¬b < 0.0) (hbv : b < v) : ¬v < 0.0 := by
  rw [lt_iff_compare, unpack_zero] at hb ⊢
  rw [lt_iff_compare] at hbv
  intro hv
  refine hb ?_
  generalize b.toModel.unpack = u at hbv ⊢
  generalize v.toModel.unpack = w at hbv hv
  cases w with
  | notANumber | zero => simp [UnpackedFloat.compare] at hv
  | infinity s =>
    cases s with
    | positive => simp [UnpackedFloat.compare] at hv
    | negative =>
      cases u with
      | infinity s => cases s <;> revert hbv <;> decide
      | notANumber | zero => simp [UnpackedFloat.compare] at hbv
      | finite s => cases s <;> simp [UnpackedFloat.compare] at hbv
  | finite s =>
    cases s with
    | positive => simp [UnpackedFloat.compare] at hv
    | negative =>
      cases u with
      | infinity s => cases s <;> simp_all [UnpackedFloat.compare]
      | notANumber | zero => simp [UnpackedFloat.compare] at hbv
      | finite s => cases s <;> simp_all [UnpackedFloat.compare]

/-! ### Numbers of scripts -/

lemma fraction_spec (hd : -1074 ≤ d.exp) :
    ∃ c, 0 < c ∧ d.fraction.1 * c = magnitude d.mant d.exp ∧ d.fraction.2 * c = unit := by
  rw [Dyadic.fraction, magnitude]
  split
  · next hexp =>
    refine ⟨unit, unit_pos, ?_, Nat.one_mul unit⟩
    have hsum : (d.exp + 1074).toNat = d.exp.toNat + 1074 := by omega
    rw [hsum, Nat.pow_add, ← Nat.mul_assoc, unit, Nat.pow_eq]
  · next hexp =>
    refine ⟨2 ^ (d.exp + 1074).toNat, Nat.two_pow_pos _, rfl, ?_⟩
    have hsum : (-d.exp).toNat + (d.exp + 1074).toNat = 1074 := by omega
    have hpow := Nat.pow_add 2 (-d.exp).toNat (d.exp + 1074).toNat
    rw [hsum] at hpow
    rw [unit, hpow, Nat.pow_eq]

lemma compareIntFloat_eq (hx : x.isFinite = true) (n : Int) :
    Num.compareIntFloat n x = compare (n * unit) (ticks x) := by
  obtain ⟨negative, d, hparts, -, hcan, -, hticks⟩ := exists_parts hx
  obtain ⟨c, hc, hnum, hden⟩ := fraction_spec hcan.1
  have hscale (a b : Int) : compare a b = compare (a * c) (b * c) := by
    have hc' : (0 : Int) < c := Int.natCast_pos.2 hc
    rw [Int.compare_eq_ite_lt, Int.compare_eq_ite_lt]
    simp only [Int.mul_lt_mul_right hc']
  rw [Num.compareIntFloat, hparts]
  dsimp only
  rw [hscale, hticks, Int.mul_assoc, ← Int.natCast_mul, hden, ← hnum]
  cases negative
  · rfl
  · show compare _ (-(d.fraction.1 : Int) * c) = compare _ (-((d.fraction.1 * c : Nat) : Int))
    rw [Int.natCast_mul, Int.neg_mul]

lemma ofFloat_eq (hx : x.isFinite = true) : Num.ofFloat x = .real x := by
  obtain ⟨_, _, hparts, -⟩ := exists_parts hx
  rw [Num.ofFloat, hparts]

/-! ### The distance to one -/

lemma ticks_one : ticks 1.0 = unit := by
  decide +kernel

lemma toNat_packComponents (s : Sign) (e : BitVec 11) (m : BitVec 52) :
    (packComponents binary64 s e m).toNat =
      (s.toBitVec.toNat * 2 ^ 11 + e.toNat) * 2 ^ 52 + m.toNat := by
  rw [packComponents, BitVec.toNat_append, BitVec.toNat_append, ← Nat.shiftLeft_add_eq_or_of_lt m.isLt,
    ← Nat.shiftLeft_add_eq_or_of_lt e.isLt, Nat.shiftLeft_eq, Nat.shiftLeft_eq]

lemma ofBits_packComponents {e : Nat} (s : Sign) (he : e < 2047) (hm : m < 2 ^ 52) :
    Parts.ofBits (.ofBitVec (packComponents binary64 s (BitVec.ofNat 11 e)
        (BitVec.ofNat 52 m))) = .finite (s.toBitVec.toNat == 1)
        (if e = 0 then ⟨m, -1074⟩ else ⟨2 ^ 52 + m, (e : Int) - 1075⟩) := by
  have hnat := toNat_packComponents s (BitVec.ofNat 11 e) (BitVec.ofNat 52 m)
  rw [BitVec.toNat_ofNat, BitVec.toNat_ofNat]
    at hnat
  generalize packComponents binary64 s (BitVec.ofNat 11 e) (BitVec.ofNat 52 m) = b at hnat
  have htop : b.toNat / Nat.pow 2 63 = s.toBitVec.toNat := by
    show b.toNat / 2 ^ 63 = _
    omega
  have hexp : b.toNat / Nat.pow 2 52 % Nat.pow 2 11 = e := by
    show b.toNat / 2 ^ 52 % 2 ^ 11 = e
    omega
  have hmant : b.toNat % Nat.pow 2 52 = m := by
    show b.toNat % 2 ^ 52 = m
    omega
  rw [Parts.ofBits, UInt64.toNat_ofBitVec, htop, hexp, hmant, if_neg (by omega)]
  split <;> rfl

lemma unpack_pack {s : Sign} {h : 0 < m} (hcan : Canonical m e) (he : e ≤ 971) :
    (Float.Model.pack (.finite s m e h)).unpack = .finite s m e h := by
  obtain ⟨hlow, hm, hnormal⟩ := hcan
  have hsign : signOf (s.toBitVec.toNat == 1) = s := by cases s <;> rfl
  have hbias : (binary64.exponentBias : Int) = 1023 := rfl
  have hbits : binary64.mantissaBits = 53 := rfl
  have hunpack := unpack_eq (UnpackedFloat.pack binary64 (.finite s m e h))
  refine hunpack.trans ?_
  simp only [UnpackedFloat.pack, hbias]
  rw [if_neg (by omega)]
  rcases Nat.lt_or_ge m (2 ^ 52) with hsmall | hlarge
  · -- A subnormal number, which is packed with the exponent zero.
    have hlog : m.log2 < 52 := (Nat.log2_lt (by omega)).2 hsmall
    have hparts := ofBits_packComponents s (e := 0) (by decide) hsmall
    rw [if_neg (by omega), hparts, if_pos rfl, Parts.unpacked, dif_neg (Nat.ne_of_gt h), hsign]
    simp only [UnpackedFloat.finite.injEq, true_and]
    omega
  · have hlog : m.log2 = 52 := by
      have h1 : m.log2 < 53 := (Nat.log2_lt (by omega)).2 hm
      have h2 : 52 ≤ m.log2 := (Nat.le_log2 (by omega)).2 hlarge
      omega
    -- The leading bit of a normal number is not packed.
    have hmant : BitVec.ofNat 52 m = BitVec.ofNat 52 (m - 2 ^ 52) := by
      apply BitVec.eq_of_toNat_eq
      rw [BitVec.toNat_ofNat, BitVec.toNat_ofNat]
      omega
    have hparts := ofBits_packComponents s (e := (e + 1075).toNat) (m := m - 2 ^ 52) (by omega)
      (by omega)
    rw [if_pos (by omega), show (e + 1023 + ((52 : Nat) : Int)).toNat = (e + 1075).toNat by omega,
      hmant, hparts, if_neg (by omega), Parts.unpacked, dif_neg (by dsimp only; omega), hsign]
    simp only [UnpackedFloat.finite.injEq, true_and]
    omega

lemma ticks_add_zero (hx : x.isFinite = true) :
    (x + 0.0).isFinite = true ∧ ticks (x + 0.0) = ticks x := by
  obtain ⟨negative, d, -, hunpack, hcan, hexp, hticks⟩ := exists_parts hx
  have hadd : (x + 0.0).toModel.unpack = (Float.Model.pack (UnpackedFloat.add binary64
      x.toModel.unpack (.zero .positive))).unpack := rfl
  change (x + 0.0).toModel.unpack.isFinite = true ∧ unpackedTicks (x + 0.0).toModel.unpack = _
  rw [hadd, hunpack, hticks, Parts.unpacked]
  split
  · next hzero =>
    rw [hzero, magnitude_zero]
    cases negative <;> decide
  · next hpos =>
    change (Float.Model.pack (.finite _ _ _ _)).unpack.isFinite = true ∧
      unpackedTicks (Float.Model.pack (.finite _ _ _ _)).unpack = _
    rw [unpack_pack hcan hexp]
    exact ⟨rfl, rfl⟩

lemma sub_positive (h : 0 < m) (h' : 0 < m') (he : -1074 ≤ e) (he' : -1074 ≤ e')
    (hle : magnitude m' e' ≤ magnitude m e) : (magnitude m' e' = magnitude m e ∧
      UnpackedFloat.sub binary64 (.finite .positive m e h) (.finite .positive m' e' h') =
        .zero .positive) ∨
    ∃ m'' e'' h'', UnpackedFloat.sub binary64 (.finite .positive m e h)
        (.finite .positive m' e' h') = .finite .positive m'' e'' h'' ∧ Canonical m'' e'' ∧
      magnitude m'' e'' = roundTicks (magnitude m e - magnitude m' e') := by
  -- Both numbers are written with the smaller exponent, and only then subtracted.
  have halign {a : Nat} {f : Int} (hf : min e e' ≤ f) :
      magnitude (decreaseExponent a f (min e e')).1 (min e e') = magnitude a f := by
    have hmag := magnitude_decreaseExponent (m := a) (e := f) (t := min e e') (by omega)
    have hexp : (decreaseExponent a f (min e e')).2 = min e e' := by
      dsimp only [decreaseExponent]
      omega
    rwa [hexp] at hmag
  have hmag := halign (a := m) (f := e) (by omega)
  have hmag' := halign (a := m') (f := e') (by omega)
  dsimp only [UnpackedFloat.sub, Sign.apply]
  generalize (decreaseExponent m e (min e e')).1 = a at hmag ⊢
  generalize (decreaseExponent m' e' (min e e')).1 = b at hmag' ⊢
  rw [← hmag, ← hmag', magnitude, magnitude] at hle ⊢
  have hba : b ≤ a := Nat.le_of_mul_le_mul_right hle (Nat.two_pow_pos _)
  rw [UnpackedFloat.normalize]
  rcases Nat.eq_or_lt_of_le hba with rfl | hlt
  · left
    rw [Int.compare_eq_eq.2 (by omega)]
    exact ⟨rfl, rfl⟩
  · right
    obtain ⟨m'', e'', h'', hround, hcan, hticks⟩ :=
      round_spec (m := a - b) (e := min e e') (by omega) (by omega) .positive
    refine ⟨m'', e'', h'', ?_, hcan, ?_⟩
    · rw [Int.compare_eq_gt.2 (by omega), show ((a : Int) - b).toNat = a - b by omega]
      exact hround
    · rw [hticks, magnitude, Nat.sub_mul]

lemma unpack_one : (1.0 : Float).toModel.unpack =
    .finite .positive (2 ^ 52) (-52) (Nat.two_pow_pos 52) := by
  rfl

lemma magnitude_one : magnitude (2 ^ 52) (-52) = unit := by
  decide +kernel

lemma roundTicks_unit : roundTicks unit = unit := by
  decide +kernel

lemma one_sub_unpacked (hv : v.isFinite = true) (hzero : 0 ≤ ticks v) (hone : ticks v ≤ unit) :
    (ticks v = unit ∧ UnpackedFloat.sub binary64 (1.0 : Float).toModel.unpack
        v.toModel.unpack = .zero .positive) ∨
    ∃ m e h, UnpackedFloat.sub binary64 (1.0 : Float).toModel.unpack v.toModel.unpack =
        .finite .positive m e h ∧ Canonical m e ∧
      magnitude m e = roundTicks (unit - (ticks v).toNat) := by
  obtain ⟨negative, d, -, hunpack, hcan, -, hticks⟩ := exists_parts hv
  rw [hunpack, Parts.unpacked]
  rcases Nat.eq_zero_or_pos d.mant with hd | hd
  · right
    have hnone : ticks v = 0 := by rw [hticks, hd, magnitude_zero, apply_zero]
    rw [dif_pos hd]
    refine ⟨2 ^ 52, -52, Nat.two_pow_pos 52, rfl, ⟨by decide, by decide, .inr (by decide)⟩, ?_⟩
    rw [hnone, Int.toNat_zero, Nat.sub_zero, roundTicks_unit, magnitude_one]
  · have hpos := magnitude_pos hd d.exp
    have hsign : negative = false := by
      cases negative with
      | false => rfl
      | true =>
        have : ticks v = -(magnitude d.mant d.exp : Int) := hticks
        omega
    have hmag : ticks v = magnitude d.mant d.exp := by
      rw [hticks, hsign]
      rfl
    rw [hmag, ← magnitude_one] at hone
    rw [dif_neg (Nat.ne_of_gt hd), hsign, hmag, ← magnitude_one]
    rcases sub_positive (Nat.two_pow_pos 52) hd (by decide) hcan.1 (Int.ofNat_le.1 hone) with
      ⟨heq, hsub⟩ | hfinite
    · exact .inl ⟨congrArg _ heq, hsub⟩
    · exact .inr hfinite

lemma ticks_one_sub (hzero : 0.0 ≤ v) (hone : v ≤ 1.0) :
    (1.0 - v).isFinite = true ∧ ticks (1.0 - v) = roundTicks (unit - (ticks v).toNat) := by
  have hv : v.isFinite = true := isFinite_of_le_of_le (by decide) (by decide) hzero hone
  rw [le_iff (by decide) hv] at hzero
  rw [le_iff hv (by decide), ticks_one] at hone
  have hsub : (1.0 - v).toModel.unpack = (Float.Model.pack (UnpackedFloat.sub binary64
      (1.0 : Float).toModel.unpack v.toModel.unpack)).unpack := rfl
  rw [ticks]
  show (1.0 - v).toModel.unpack.isFinite = true ∧ _
  rcases one_sub_unpacked hv hzero hone with ⟨heq, hnone⟩ | ⟨m, e, h, hsome, hcan, hmag⟩
  · rw [hsub, hnone, heq, Int.toNat_natCast, Nat.sub_self]
    exact ⟨rfl, by decide⟩
  · -- The result is at most one, so it does not overflow.
    have hexp : e ≤ 971 := by
      have hle : 2 ^ (e + 1074).toNat ≤ unit := calc
        2 ^ (e + 1074).toNat ≤ magnitude m e := Nat.le_mul_of_pos_left _ h
        _ = roundTicks (unit - (ticks v).toNat) := hmag
        _ ≤ roundTicks unit := roundTicks_mono (Nat.sub_le _ _)
        _ = unit := roundTicks_unit
      have hlog : (e + 1074).toNat ≤ unit.log2 := (Nat.le_log2 (Nat.ne_of_gt unit_pos)).2 hle
      have hunit : unit.log2 = 1074 := by decide +kernel
      omega
    rw [hsub, hsome, unpack_pack hcan hexp, ← hmag]
    exact ⟨rfl, rfl⟩

end SetTop.Number
