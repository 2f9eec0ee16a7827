import SetTop.Proofs.Number.ReadBack

/-!
Numbers as they are written.

A numeral is what a written number consists of: a sign, the digits before and behind the point, and
an exponent. Both sides are stated about it. A reader gives the decimal of a numeral, and every text
that a layout makes is that of a numeral with the value of what was laid out. So a double is read
back from its text (`exists_numeral_of_real`), and so is an integer (`exists_numeral_of_int`).
-/

namespace SetTop.Number

open List Text

structure Numeral where
  negative : Bool
  whole : List Char
  /-- the digits behind the point; without any there is no point -/
  part : List Char
  /-- the sign of the exponent, and its digits -/
  exponent : Option (Bool × List Char)
  whole_digits : ∀ c ∈ whole, c.isDigit = true
  part_digits : ∀ c ∈ part, c.isDigit = true
  exponent_digits : ∀ e ∈ exponent, e.2 ≠ [] ∧ ∀ c ∈ e.2, c.isDigit = true
  /-- there is a digit before the point, and a zero there stands alone -/
  leading : whole ≠ [] ∧ (whole.head? = some '0' → whole = ['0'])

namespace Numeral

variable (n : Numeral)

def sign : List Char := if n.negative then ['-'] else []

def fraction : List Char := if n.part = [] then [] else '.' :: n.part

def mark : List Char :=
  match n.exponent with
  | none => []
  | some (negative, ds) => 'e' :: (if negative then '-' else '+') :: ds

def chars : List Char := n.sign ++ (n.whole ++ (n.fraction ++ n.mark))

def power : Int :=
  match n.exponent with
  | none => 0
  | some (negative, ds) =>
    if negative then -(Nat.ofDigitChars 10 ds 0 : Int) else Nat.ofDigitChars 10 ds 0

def decimal : Decimal :=
  ⟨Nat.ofDigitChars 10 (n.whole ++ n.part) 0, n.power - n.part.length⟩

end Numeral

/-! ### Digits -/

section Digits

variable {c : Char} (hc : c.isDigit = true)

include hc

lemma toNat_of_isDigit : 48 ≤ c.toNat ∧ c.toNat ≤ 57 := Char.isDigit_iff_toNat.1 hc

lemma digitValue?_of_isDigit : digitValue? c = some (c.toNat - 48) := by
  have h := toNat_of_isDigit hc
  rw [digitValue?, if_pos]
  simpa [Char.le_def, UInt32.le_iff_toNat_le] using h

lemma isDecimalDigit_of_isDigit : isDecimalDigit c = true := by
  rw [isDecimalDigit, digitValue?_of_isDigit hc]
  rfl

lemma isBlank_of_isDigit : isBlank c = false := by
  have h := toNat_of_isDigit hc
  simp only [isBlank, Bool.or_eq_false_iff, Bool.and_eq_false_iff, decide_eq_false_iff_not,
    beq_eq_false_iff_ne]
  omega

lemma ne_of_isDigit {d : Char} (hd : d.isDigit = false) : c ≠ d := by
  rintro rfl
  rw [hc] at hd
  cases hd

lemma lowerChar_of_isDigit : lowerChar c = c := by
  have h := toNat_of_isDigit hc
  rw [lowerChar, if_pos (by omega), Char.toLower, dif_neg]
  rintro ⟨hA, -⟩
  have : 65 ≤ c.toNat := UInt32.le_iff_toNat_le.1 hA
  omega

end Digits

lemma readDigits?_go {ds : List Char} (hds : ∀ c ∈ ds, c.isDigit = true) (acc : ℕ) :
    readDigits?.go digitValue? 10 acc false ds = some (Nat.ofDigitChars 10 ds acc) := by
  induction ds generalizing acc with
  | nil => rfl
  | cons c ds ih =>
    obtain ⟨hc, hds⟩ := forall_mem_cons.1 hds
    have hne : c ≠ '_' := ne_of_isDigit hc rfl
    rw [readDigits?.go.eq_3 _ _ _ _ _ _ hne, digitValue?_of_isDigit hc, Nat.ofDigitChars_cons,
      Nat.mul_comm 10]
    exact ih hds _

lemma readDigits?_of_digits {ds : List Char} (hne : ds ≠ []) (hds : ∀ c ∈ ds, c.isDigit = true) :
    readDigits? digitValue? 10 ds = some (Nat.ofDigitChars 10 ds 0) := by
  obtain ⟨c, ds, rfl⟩ := exists_cons_of_ne_nil hne
  rw [readDigits?, if_neg (ne_of_isDigit (hds c mem_cons_self) rfl)]
  exact readDigits?_go hds 0

lemma digitRun_append {ds rest : List Char} (hds : ∀ c ∈ ds, c.isDigit = true)
    (hrest : ∀ c ∈ rest.head?, c ≠ '_' ∧ isDecimalDigit c = false) :
    digitRun (ds ++ rest) = (ds, rest) := by
  have hall : ∀ c ∈ ds, (c == '_' || isDecimalDigit c) = true := by
    intro c hc
    rw [isDecimalDigit_of_isDigit (hds c hc), Bool.or_true]
  rw [digitRun, takeWhile_append_of_pos hall, dropWhile_append_of_pos hall]
  cases rest with
  | nil => simp
  | cons c rest =>
    obtain ⟨hgap, hdigit⟩ := hrest c rfl
    simp [hgap, hdigit]

/-! ### Reading -/

lemma trim_of_no_blank {cs : List Char} (h : ∀ c ∈ cs, isBlank c = false) : trim cs = cs := by
  have hself {l : List Char} (hl : ∀ c ∈ l, isBlank c = false) :
      l.dropWhile (fun c => isBlank c && !(28 ≤ c.toNat && c.toNat ≤ 31)) = l := by
    cases l with
    | nil => rfl
    | cons c l => simp [hl c mem_cons_self]
  rw [trim, dropEndWhile, hself h, hself (by simpa using h), reverse_reverse]

lemma takeSign_of_digit {c : Char} (hc : c.isDigit = true) (cs : List Char) :
    takeSign (c :: cs) = (false, c :: cs) := by
  rw [takeSign.eq_3]
  · rintro _ ⟨⟩
    cases hc
  · rintro _ ⟨⟩
    cases hc

lemma readIntWithin_of_sign {limit : ℕ} {negative : Bool} {cs ds : List Char}
    (hsign : takeSign (trim cs) = (negative, ds)) (hne : ds ≠ [])
    (hds : ∀ c ∈ ds, c.isDigit = true) (hlimit : ds.length ≤ limit) :
    readIntWithin limit (String.ofList cs) =
      .ok (if negative then -(Nat.ofDigitChars 10 ds 0 : Int) else Nat.ofDigitChars 10 ds 0) := by
  have hrun : digitRun (ds ++ []) = (ds, []) := digitRun_append hds (by simp)
  rw [append_nil, digitRun, Prod.mk.injEq] at hrun
  have hcount : ds.countP (· ≠ '_') ≤ limit := countP_le_length.trans hlimit
  rw [readIntWithin, String.toList_ofList, hsign]
  dsimp only
  rw [hrun.1, if_neg (by omega), readDigits?_of_digits hne hds]

namespace Numeral

variable (n : Numeral)

lemma exists_whole : ∃ c cs, n.whole = c :: cs ∧ c.isDigit = true := by
  obtain ⟨c, cs, h⟩ := exists_cons_of_ne_nil n.leading.1
  exact ⟨c, cs, h, n.whole_digits c (h ▸ mem_cons_self)⟩

lemma forall_mem_chars {p : Char → Prop} (hdigit : ∀ c, c.isDigit = true → p c)
    (hmark : ∀ c ∈ ['-', '+', '.', 'e'], p c) : ∀ c ∈ n.chars, p c := by
  intro c hc
  simp only [chars, mem_append, sign, fraction, mark] at hc
  rcases hc with hc | hc | hc | hc
  · split at hc
    · exact hmark c (by simp [mem_singleton.1 hc])
    · cases hc
  · exact hdigit c (n.whole_digits c hc)
  · split at hc
    · cases hc
    · rcases mem_cons.1 hc with rfl | hc
      · exact hmark _ (by simp)
      · exact hdigit c (n.part_digits c hc)
  · split at hc
    · cases hc
    · next negative ds hexp =>
      rcases mem_cons.1 hc with rfl | hc
      · exact hmark _ (by simp)
      · rcases mem_cons.1 hc with rfl | hc
        · cases negative <;> exact hmark _ (by simp)
        · exact hdigit c ((n.exponent_digits _ hexp).2 c hc)

lemma takeSign_trim_chars :
    takeSign (trim n.chars) = (n.negative, n.whole ++ (n.fraction ++ n.mark)) := by
  have hblank : ∀ c ∈ n.chars, isBlank c = false :=
    n.forall_mem_chars (fun _ => isBlank_of_isDigit) (by simp [isBlank])
  rw [trim_of_no_blank hblank, chars, sign]
  split
  · next hneg => rw [hneg]; rfl
  · next hpos =>
    obtain ⟨c, cs, hwhole, hc⟩ := n.exists_whole
    rw [nil_append, hwhole, cons_append, takeSign_of_digit hc, Bool.eq_false_iff.2 hpos]

lemma readExponent?_mark : readExponent? n.mark = some n.power := by
  rw [mark, power]
  split
  · rfl
  · next negative ds hexp =>
    obtain ⟨hne, hds⟩ := n.exponent_digits _ hexp
    rw [readExponent?]
    have hsign : takeSign ((if negative then '-' else '+') :: ds) = (negative, ds) := by
      cases negative <;> rfl
    rw [hsign]
    dsimp only
    rw [readDigits?_of_digits hne hds]
    rfl

lemma readDecimal?_chars : readDecimal? (n.whole ++ (n.fraction ++ n.mark)) = some n.decimal := by
  have hmark : ∀ c ∈ n.mark.head?, c ≠ '_' ∧ isDecimalDigit c = false := by
    intro c hc
    rw [mark] at hc
    split at hc
    · cases hc
    · obtain rfl := Option.mem_some_iff.1 hc
      exact ⟨by decide, by decide⟩
  have hfraction : ∀ c ∈ (n.fraction ++ n.mark).head?, c ≠ '_' ∧ isDecimalDigit c = false := by
    rw [fraction]
    split
    · exact hmark
    · rintro c ⟨⟩
      exact ⟨by decide, by decide⟩
  have hwhole : readDigits? digitValue? 10 n.whole = some (Nat.ofDigitChars 10 n.whole 0) :=
    readDigits?_of_digits n.leading.1 n.whole_digits
  have hempty : n.whole.isEmpty = false := by simpa using n.leading.1
  have hplaces : (n.part.filter (· ≠ '_')) = n.part :=
    filter_eq_self.2 fun c hc => by simpa using ne_of_isDigit (n.part_digits c hc) rfl
  rw [decimal, Nat.ofDigitChars_append, Nat.ofDigitChars_eq_ofDigitChars_zero, Nat.mul_comm]
  have hpoint : pointRun (n.fraction ++ n.mark) = (n.part, n.mark) := by
    rw [fraction]
    split
    · next hpart =>
      rw [hpart, nil_append, pointRun.eq_2]
      rintro cs heq
      rw [mark] at heq
      split at heq <;> cases heq
    · exact digitRun_append n.part_digits hmark
  rw [readDecimal?, digitRun_append n.whole_digits hfraction]
  simp only [hpoint, hempty, Bool.false_and, Bool.false_eq_true, if_false, hwhole,
    n.readExponent?_mark, hplaces]
  by_cases hpart : n.part = []
  · simp [hpart]
  · rw [if_neg (by simpa using hpart), readDigits?_of_digits hpart n.part_digits]
    rfl

lemma readFloat?_chars :
    readFloat? (String.ofList n.chars) = some (Num.ofFloat (n.decimal.double n.negative)) := by
  obtain ⟨c, cs, hwhole, hc⟩ := n.exists_whole
  have hlower (cs : List Char) : ∃ l, lower (c :: cs) = c :: l := by
    rw [lower, lower.go, if_neg (ne_of_isDigit hc (by decide)),
      if_neg (ne_of_isDigit hc (by decide)), lowerChar_of_isDigit hc]
    exact ⟨_, rfl⟩
  have hword (l : List Char) {s : String} (hs : s.toList.head?.any (! ·.isDigit) = true) :
      (String.ofList (c :: l) == s) = false := by
    rw [beq_eq_false_iff_ne]
    rintro rfl
    simp [hc] at hs
  rw [readFloat?, String.toList_ofList, takeSign_trim_chars]
  dsimp only
  rw [n.readDecimal?_chars, hwhole, cons_append]
  obtain ⟨l, hl⟩ := hlower (cs ++ (n.fraction ++ n.mark))
  rw [hl, hword l (by decide), hword l (by decide), hword l (by decide)]
  rfl

lemma readIntWithin_chars {limit : ℕ} (hlimit : n.whole.length ≤ limit) (hpart : n.part = [])
    (hexp : n.exponent = none) : readIntWithin limit (String.ofList n.chars) =
      .ok (if n.negative then -(Nat.ofDigitChars 10 n.whole 0 : Int)
        else Nat.ofDigitChars 10 n.whole 0) := by
  refine readIntWithin_of_sign ?_ n.leading.1 n.whole_digits hlimit
  rw [takeSign_trim_chars, fraction, mark, hexp, if_pos hpart, append_nil, append_nil]

end Numeral

/-! ### Writing -/

lemma head?_toDigits {n : ℕ} (hn : n ≠ 0) : (Nat.toDigits 10 n).head? ≠ some '0' := by
  induction n using Nat.strongRecOn with
  | ind n ih =>
    rw [Nat.toDigits_eq_if (by decide)]
    split
    · simpa using hn
    · next hlarge =>
      rw [head?_append_of_ne_nil _ Nat.toDigits_ne_nil]
      exact ih (n / 10) (by omega) (by omega)

lemma isDigit_of_mem_toDigits {n : ℕ} {c : Char} (hc : c ∈ Nat.toDigits 10 n) : c.isDigit = true :=
  Nat.isDigit_of_mem_toDigits (by decide) (by decide) hc

lemma exists_trailing_zeros (cs : List Char) :
    ∃ k, cs = (cs.reverse.dropWhile (· == '0')).reverse ++ replicate k '0' := by
  refine ⟨(cs.reverse.takeWhile (· == '0')).length, ?_⟩
  have hzeros : cs.reverse.takeWhile (· == '0') =
      replicate (cs.reverse.takeWhile (· == '0')).length '0' :=
    eq_replicate_iff.2 ⟨rfl, fun c hc => by simpa using mem_takeWhile_imp hc⟩
  rw [← reverse_replicate, ← hzeros, ← reverse_append, takeWhile_append_dropWhile, reverse_reverse]

lemma exists_significant {c : Decimal} (hc : c.digits = 0 → c.exp = 0) :
    ∃ ds : List Char, dropTrailingZeros (Nat.toDigits 10 c.digits) = ds ∧ ds ≠ [] ∧
      (∀ d ∈ ds, d.isDigit = true) ∧
      (ds.head? = some '0' → ds = ['0'] ∧ c.exp + decimalLength c.digits - 1 = 0) ∧
      c.bits = (⟨Nat.ofDigitChars 10 ds 0, c.exp + decimalLength c.digits - ds.length⟩ : Decimal).bits := by
  by_cases hzero : c.digits = 0
  · refine ⟨['0'], by rw [hzero]; rfl, by simp, by simp , fun _ => ⟨rfl, ?_⟩, ?_⟩
    · rw [hc hzero, hzero]
      rfl
    · simp [Decimal.bits, hzero, Nat.ofDigitChars_cons]
  obtain ⟨k, hk⟩ := exists_trailing_zeros (Nat.toDigits 10 c.digits)
  generalize hkept : ((Nat.toDigits 10 c.digits).reverse.dropWhile (· == '0')).reverse = kept at hk
  have hvalue : c.digits = 10 ^ k * Nat.ofDigitChars 10 kept 0 := by
    conv_lhs => rw [← Nat.ofDigitChars_ten_toDigits (n := c.digits), hk]
    rw [Nat.ofDigitChars_append, Nat.ofDigitChars_replicate_zero]
  have hne : kept ≠ [] := by
    rintro rfl
    exact hzero (by simpa using hvalue)
  refine ⟨kept, ?_, hne, fun d hd => ?_, fun hhead => ?_, ?_⟩
  · rw [dropTrailingZeros, hkept]
    cases kept with
    | nil => exact absurd rfl hne
    | cons => rfl
  · exact isDigit_of_mem_toDigits (hk ▸ mem_append_left _ hd)
  · refine absurd ?_ (head?_toDigits hzero)
    rwa [hk, head?_append_of_ne_nil _ hne]
  · have hlength : c.exp + decimalLength c.digits - kept.length = c.exp + k := by
      rw [decimalLength, hk, length_append, length_replicate]
      push_cast
      ring
    rw [hlength, ← bits_mul_pow, ← hvalue]

lemma Numeral.bits_decimal {n : Numeral} {a k : ℕ} {e : ℤ}
    (hdigits : Nat.ofDigitChars 10 (n.whole ++ n.part) 0 = 10 ^ k * a)
    (hexp : n.power - n.part.length + k = e) : n.decimal.bits = (⟨a, e⟩ : Decimal).bits := by
  rw [← hexp, ← bits_mul_pow, decimal, hdigits]

lemma toList_zeros (k : ℕ) : (zeros k).toList = replicate k '0' := String.toList_ofList

section Writing

variable (negative : Bool) {ds : List Char} {e : ℤ} (hne : ds ≠ [])
    (hds : ∀ d ∈ ds, d.isDigit = true)

include hne hds

lemma exists_numeral_positional (hlead : ds.head? = some '0' → ds = ['0'] ∧ e = 0) :
    ∃ n : Numeral, n.negative = negative ∧ (n.part ≠ [] ∨ n.exponent ≠ none) ∧
      n.decimal.bits = (⟨Nat.ofDigitChars 10 ds 0, e + 1 - ds.length⟩ : Decimal).bits ∧
      n.whole ++ (n.fraction ++ n.mark) = (positional true ds e).toList := by
  have hzeros {k : ℕ} {c : Char} (hc : c ∈ replicate k '0') : c.isDigit = true := by
    rw [(mem_replicate.1 hc).2]
    rfl
  rw [positional]
  split
  · next hneg =>
    refine ⟨⟨negative, ['0'], replicate (-e - 1).toNat '0' ++ ds, none, by simp,
      fun c hc => ?_, by simp, by simp⟩, rfl, .inl (by simp [hne]),
      Numeral.bits_decimal (k := 0) ?_ ?_, ?_⟩
    · exact (mem_append.1 hc).elim hzeros (hds c)
    · simp [Nat.ofDigitChars_cons, Nat.ofDigitChars_append]
    · simp only [Numeral.power, length_append, length_replicate]
      omega
    · simp [Numeral.fraction, Numeral.mark, toList_zeros, hne]
  · next hnonneg =>
    dsimp only
    split
    · next hback =>
      have hlen : ds.length ≤ e.toNat + 1 := by simpa using hback
      refine ⟨⟨negative, ds ++ replicate (e.toNat + 1 - ds.length) '0', ['0'], none,
        fun c hc => ?_, by simp , by simp, by simp [hne], fun hhead => ?_⟩,
        rfl, .inl (by simp), Numeral.bits_decimal (k := e.toNat + 1 - ds.length + 1) ?_ ?_, ?_⟩
      · exact (mem_append.1 hc).elim (hds c) hzeros
      · rw [head?_append_of_ne_nil _ hne] at hhead
        obtain ⟨rfl, rfl⟩ := hlead hhead
        rfl
      · simp [Nat.ofDigitChars_cons, Nat.ofDigitChars_append]
        ring
      · simp only [Numeral.power, length_singleton]
        omega
      · simp [Numeral.fraction, Numeral.mark, toList_zeros, take_of_length_le hlen]
    · next hback =>
      have hlen : e.toNat + 1 < ds.length := by simpa using hback
      refine ⟨⟨negative, ds.take (e.toNat + 1), ds.drop (e.toNat + 1), none,
        fun c hc => hds c (mem_of_mem_take hc), fun c hc => hds c (mem_of_mem_drop hc),
        by simp, by simp [hne], fun hhead => ?_⟩, rfl, .inl (by simpa using hlen),
        Numeral.bits_decimal (k := 0) ?_ ?_, ?_⟩
      · rw [head?_take] at hhead
        rw [(hlead hhead).1] at hlen
        simp at hlen
      · simp
      · simp only [Numeral.power, length_drop]
        omega
      · simp [Numeral.fraction, Numeral.mark, toList_zeros, hlen, Nat.sub_eq_zero_of_le hlen.le]

lemma exists_numeral_scientific :
    ∃ n : Numeral, n.negative = negative ∧ (n.part ≠ [] ∨ n.exponent ≠ none) ∧
      n.decimal.bits = (⟨Nat.ofDigitChars 10 ds 0, e + 1 - ds.length⟩ : Decimal).bits ∧
      n.whole ++ (n.fraction ++ n.mark) = (scientific 2 ds e).toList := by
  obtain ⟨d, ds, rfl⟩ := exists_cons_of_ne_nil hne
  obtain ⟨hd, hds⟩ := forall_mem_cons.1 hds
  have hpadded : (padded 2 e.natAbs).toList =
      replicate (2 - (Nat.toDigits 10 e.natAbs).length) '0' ++ Nat.toDigits 10 e.natAbs := by
    rw [padded, String.toList_append, toList_zeros, String.toList_ofList]
  have hpower : Nat.ofDigitChars 10 (padded 2 e.natAbs).toList 0 = e.natAbs := by
    rw [hpadded, Nat.ofDigitChars_append, Nat.ofDigitChars_replicate_zero, Nat.mul_zero,
      Nat.ofDigitChars_ten_toDigits]
  refine ⟨⟨negative, [d], ds, some (decide (e < 0), (padded 2 e.natAbs).toList),
    by simpa using hd, hds, ?_, by simp⟩, rfl, .inr (by simp),
    Numeral.bits_decimal (k := 0) (by simp) ?_, ?_⟩
  · rintro _ ⟨⟩
    refine ⟨by simp [hpadded], fun c hc => ?_⟩
    rw [hpadded, mem_append] at hc
    rcases hc with hc | hc
    · rw [(mem_replicate.1 hc).2]
      rfl
    · exact isDigit_of_mem_toDigits hc
  · simp only [Numeral.power, length_cons, decide_eq_true_eq]
    split <;> omega
  · by_cases hnil : ds = [] <;>
    · simp [Numeral.fraction, Numeral.mark, scientific, exponentText, hnil]
      split <;> rfl

end Writing

lemma exists_numeral_of_real {x : Float} {negative : Bool} {d : Dyadic}
    (hparts : Parts.ofBits x.toBits = .finite negative d) :
    ∃ n : Numeral, (plainText x).toList = n.chars ∧ (n.part ≠ [] ∨ n.exponent ≠ none) ∧
      readFloat? (String.ofList n.chars) = some (.real x) := by
  obtain ⟨hcan, hsmall⟩ := Parts.canonical_of_finite hparts
  have hbits := bits_shortest hcan hsmall
  have hexp : (shortest d).digits = 0 → (shortest d).exp = 0 := by
    intro hzero
    rw [Decimal.bits, if_pos (.inl hzero), Dyadic.bits] at hbits
    rw [shortest, if_pos (by omega)]
  obtain ⟨ds, hkept, hne, hds, hlead, hvalue⟩ := exists_significant hexp
  obtain ⟨n, hneg, hform, hdecimal, hchars⟩ : ∃ n : Numeral, n.negative = negative ∧
      (n.part ≠ [] ∨ n.exponent ≠ none) ∧ n.decimal.bits = (shortest d).bits ∧
      n.whole ++ (n.fraction ++ n.mark) = (Layout.plain.write (shortest d)).toList := by
    rw [Layout.write, hkept, hvalue]
    rw [show (Nat.toDigits 10 (shortest d).digits).length = decimalLength (shortest d).digits from rfl]
    split
    · simpa [Layout.plain] using exists_numeral_positional negative hne hds hlead
    · simpa [Layout.plain] using exists_numeral_scientific negative hne hds
        (e := (shortest d).exp + decimalLength (shortest d).digits - 1)
  refine ⟨n, ?_, hform, ?_⟩
  · rw [plainText, hparts, Numeral.chars, hchars, Numeral.sign, hneg]
    cases negative <;> simp
  · rw [n.readFloat?_chars, hneg, double_of_bits hparts (hdecimal.trans hbits), Num.ofFloat, hparts]

lemma toList_toString (i : ℤ) :
    (toString i).toList = (if i < 0 then ['-'] else []) ++ Nat.toDigits 10 i.natAbs := by
  cases i with
  | ofNat m =>
    change m.repr.toList = _
    rw [Nat.repr_eq_ofList_toDigits, String.toList_ofList]
    rfl
  | negSucc m =>
    change ("-" ++ (m + 1).repr).toList = _
    rw [if_pos (Int.negSucc_lt_zero m), String.toList_append]
    exact congrArg (['-'] ++ ·) String.toList_ofList

lemma exists_numeral_of_int (i : ℤ) :
    ∃ n : Numeral, (toString i).toList = n.chars ∧ n.part = [] ∧ n.exponent = none ∧
      ∀ limit, decimalLength i.natAbs ≤ limit →
        readIntWithin limit (String.ofList n.chars) = .ok i := by
  have hlead : (Nat.toDigits 10 i.natAbs).head? = some '0' → Nat.toDigits 10 i.natAbs = ['0'] := by
    intro hhead
    by_cases hzero : i.natAbs = 0
    · rw [hzero, Nat.toDigits_zero]
    · exact absurd hhead (head?_toDigits hzero)
  let n : Numeral := ⟨decide (i < 0), Nat.toDigits 10 i.natAbs, [], none,
    fun _ => isDigit_of_mem_toDigits, by simp, by simp, Nat.toDigits_ne_nil, hlead⟩
  refine ⟨n, ?_, rfl, rfl, fun limit hlimit => ?_⟩
  · rw [toList_toString]
    simp [n, Numeral.chars, Numeral.sign, Numeral.fraction, Numeral.mark]
  · rw [n.readIntWithin_chars hlimit rfl rfl]
    simp only [n, Nat.ofDigitChars_ten_toDigits, decide_eq_true_eq]
    congr 1
    split <;> omega

end SetTop.Number
