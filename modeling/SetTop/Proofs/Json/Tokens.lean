import SetTop.Json.Reading
import SetTop.Proofs.Number.Numeral

/-!
Texts and numbers inside structured values.

Everything in quotes is plain ASCII: each character is written by escapes of one or two code units
or by itself, and is read back from them (`takeText?_flatMap`). A number is read back if what
follows it could not be a part of it (`takeNumber?_writeNumber`).
-/

namespace SetTop.Json

open List Number Text
open Number (Numeral)

/-! ### Code units -/

lemma hexDigits_succ {width : ℕ} (hw : 0 < width) (n : ℕ) :
    hexDigits (width + 1) n = hexDigits width (n / 16) ++ [(n % 16).digitChar] := by
  dsimp only [hexDigits]
  rw [Nat.toDigits_eq_if (by decide)]
  split
  · next hsmall =>
    obtain ⟨k, rfl⟩ : ∃ k, width = k + 1 := Nat.exists_eq_succ_of_ne_zero hw.ne'
    rw [Nat.div_eq_of_lt hsmall, Nat.mod_eq_of_lt hsmall]
    simp [replicate_succ']
  · rw [length_append, length_singleton, Nat.add_sub_add_right, append_assoc]

lemma hexDigits_four {n : ℕ} (h : n < 65536) :
    hexDigits 4 n = [(n / 16 / 16 / 16).digitChar, (n / 16 / 16 % 16).digitChar,
      (n / 16 % 16).digitChar, (n % 16).digitChar] := by
  have hfirst : hexDigits 1 (n / 16 / 16 / 16) = [(n / 16 / 16 / 16).digitChar] := by
    rw [hexDigits, Nat.toDigits_of_lt_base (by omega)]
    rfl
  rw [hexDigits_succ (by decide), hexDigits_succ (by decide), hexDigits_succ (by decide), hfirst]
  rfl

lemma plainHexValue?_digitChar : ∀ k < 16, plainHexValue? k.digitChar = some k := by
  decide

lemma takeUnit?_hexDigits {n : ℕ} (h : n < 65536) (rest : List Char) :
    takeUnit? (hexDigits 4 n ++ rest) = some (n, rest) := by
  rw [hexDigits_four h]
  simp only [cons_append, takeUnit?, bind, Option.bind, plainHexValue?_digitChar _ (show n / 16 / 16 / 16 < 16 by omega),
    plainHexValue?_digitChar _ (Nat.mod_lt _ (by decide))]
  congr 2
  omega

lemma takeUnicode?_pair {n m : ℕ} (hn : isHighUnit n = true) (hm : isLowUnit m = true)
    (rest : List Char) : takeUnicode? (hexDigits 4 n ++ (unitEscape m ++ rest)) =
      some (Char.ofNat (65536 + (n - 55296) * 1024 + (m - 56320)), rest) := by
  have hn' : n < 65536 := by
    simp only [isHighUnit, Bool.and_eq_true, decide_eq_true_eq] at hn
    omega
  have hm' : m < 65536 := by
    simp only [isLowUnit, Bool.and_eq_true, decide_eq_true_eq] at hm
    omega
  rw [takeUnicode?, takeUnit?_hexDigits hn', unitEscape]
  simp [hn, hm, takeUnit?_hexDigits hm']

variable (c : Char)

lemma toNat_lt_surrogates_or : c.toNat < 55296 ∨ 57343 < c.toNat ∧ c.toNat < 1114112 := c.valid

lemma takeUnicode?_toNat (rest : List Char) :
    if c.toNat < 65536 then takeUnicode? (hexDigits 4 c.toNat ++ rest) = some (c, rest)
    else takeUnicode? (hexDigits 4 (55296 + (c.toNat - 65536) / 1024) ++
      (unitEscape (56320 + (c.toNat - 65536) % 1024) ++ rest)) = some (c, rest) := by
  have hvalid := toNat_lt_surrogates_or c
  split
  · next hsmall =>
    have hhigh : isHighUnit c.toNat = false := by
      simp only [isHighUnit, Bool.and_eq_false_iff, decide_eq_false_iff_not]
      omega
    have hlow : isLowUnit c.toNat = false := by
      simp only [isLowUnit, Bool.and_eq_false_iff, decide_eq_false_iff_not]
      omega
    rw [takeUnicode?, takeUnit?_hexDigits hsmall]
    simp [hhigh, hlow]
  · next hlarge =>
    have hsum : 65536 + (55296 + (c.toNat - 65536) / 1024 - 55296) * 1024 +
        (56320 + (c.toNat - 65536) % 1024 - 56320) = c.toNat := by omega
    rw [takeUnicode?_pair, hsum, Char.ofNat_toNat]
    · simp only [isHighUnit, Bool.and_eq_true, decide_eq_true_eq]
      omega
    · simp only [isLowUnit, Bool.and_eq_true, decide_eq_true_eq]
      omega

/-! ### Texts -/

lemma takeText?_escapeChar (fuel : ℕ) (done : List Char) (c : Char) (rest : List Char) :
    takeText? (fuel + 1) done (escapeChar c ++ rest) = takeText? fuel (c :: done) rest := by
  rw [escapeChar]
  split_ifs with hquote hback hline hreturn htab hbell hfeed hplain hunit
  · rw [eq_of_beq hquote]; rfl
  · rw [eq_of_beq hback]; rfl
  · rw [eq_of_beq hline]; rfl
  · rw [eq_of_beq hreturn]; rfl
  · rw [eq_of_beq htab]; rfl
  · rw [eq_of_beq hbell]; rfl
  · rw [eq_of_beq hfeed]; rfl
  · have hquote : c ≠ '"' := by simpa using hquote
    have hback : c ≠ '\\' := by simpa using hback
    simp only [Bool.and_eq_true, decide_eq_true_eq] at hplain
    rw [singleton_append, takeText?.eq_6 _ _ _ _ hquote (fun _ h => absurd h hback)
      (fun _ _ h => absurd h hback), if_neg (by omega)]
  · have hread := takeUnicode?_toNat c rest
    rw [if_pos hunit] at hread
    rw [unitEscape, cons_append, cons_append, takeText?, hread]
  · have hread := takeUnicode?_toNat c rest
    rw [if_neg hunit] at hread
    rw [append_assoc, unitEscape, cons_append, cons_append, takeText?, hread]

lemma takeText?_flatMap (cs : List Char) {fuel : ℕ} (hfuel : cs.length < fuel)
    (done rest : List Char) :
    takeText? fuel done (cs.flatMap escapeChar ++ '"' :: rest) =
      some (String.ofList (done.reverse ++ cs), rest) := by
  induction cs generalizing fuel done with
  | nil =>
    obtain ⟨fuel, rfl⟩ := Nat.exists_eq_succ_of_ne_zero hfuel.ne_bot
    rw [append_nil]
    rfl
  | cons c cs ih =>
    obtain ⟨fuel, rfl⟩ : ∃ k, fuel = k + 1 := ⟨fuel - 1, by omega⟩
    rw [flatMap_cons, append_assoc, takeText?_escapeChar, ih (by simpa using hfuel)]
    simp

/-- A character that a terminal shows as itself. -/
def IsPlain : Prop := 32 ≤ c.toNat ∧ c.toNat < 127

instance : DecidablePred IsPlain := fun _ => inferInstanceAs (Decidable (_ ∧ _))

lemma escapeChar_cases : (∃ d, IsPlain d ∧ escapeChar c = ['\\', d]) ∨
      (IsPlain c ∧ c ≠ '"' ∧ c ≠ '\\' ∧ escapeChar c = [c]) ∨
      (∃ n < 65536, escapeChar c = unitEscape n) ∨
      ∃ n < 65536, ∃ m < 65536, escapeChar c = unitEscape n ++ unitEscape m := by
  have hvalid := toNat_lt_surrogates_or c
  generalize hw : escapeChar c = w
  rw [escapeChar] at hw
  split_ifs at hw with hquote hback hline hreturn htab hbell hfeed hplain hunit
  · exact .inl ⟨'"', by decide, hw.symm⟩
  · exact .inl ⟨'\\', by decide, hw.symm⟩
  · exact .inl ⟨'n', by decide, hw.symm⟩
  · exact .inl ⟨'r', by decide, hw.symm⟩
  · exact .inl ⟨'t', by decide, hw.symm⟩
  · exact .inl ⟨'b', by decide, hw.symm⟩
  · exact .inl ⟨'f', by decide, hw.symm⟩
  · exact .inr
      (.inl ⟨by simpa [IsPlain] using hplain, by simpa using hquote, by simpa using hback, hw.symm⟩)
  · exact .inr (.inr (.inl ⟨_, hunit, hw.symm⟩))
  · exact .inr (.inr (.inr ⟨_, by omega, _, by omega, hw.symm⟩))

lemma escapeChar_ne_nil : escapeChar c ≠ [] := by
  rcases escapeChar_cases c with ⟨d, -, h⟩ | ⟨-, -, -, h⟩ | ⟨n, -, h⟩ | ⟨n, -, m, -, h⟩
  all_goals
    rw [h]
    exact cons_ne_nil _ _

lemma length_le_flatMap (cs : List Char) : cs.length ≤ (cs.flatMap escapeChar).length := by
  induction cs with
  | nil => exact Nat.le_refl _
  | cons c cs ih =>
    have := length_pos_of_ne_nil (escapeChar_ne_nil c)
    rw [flatMap_cons, length_append, length_cons]
    omega

/-! ### Numbers -/

/-- What cannot go on with a number that stands in front of it. -/
def EndsNumber (rest : List Char) : Prop :=
  ∀ c ∈ rest.head?, c.isDigit = false ∧ c ≠ '.' ∧ c ≠ 'e' ∧ c ≠ 'E'

lemma takeDigits_append {ds rest : List Char} (hds : ∀ c ∈ ds, c.isDigit = true)
    (hrest : ∀ c ∈ rest.head?, c.isDigit = false) : takeDigits (ds ++ rest) = (ds, rest) := by
  rw [takeDigits, takeWhile_append_of_pos hds, dropWhile_append_of_pos hds]
  cases rest with
  | nil => simp
  | cons c rest => simp [hrest c rfl]

section Numeral

variable (n : Numeral) {rest : List Char}

lemma takeWhole?_append (hrest : ∀ c ∈ rest.head?, c.isDigit = false) :
    takeWhole? (n.whole ++ rest) = some (n.whole, rest) := by
  obtain ⟨c, cs, hwhole, -⟩ := n.exists_whole
  by_cases hzero : c = '0'
  · rw [n.leading.2 (by rw [hwhole, hzero]; rfl)]
    rfl
  · have hrun := takeDigits_append n.whole_digits hrest
    rw [takeWhole?.eq_2, hrun]
    · simp [hwhole]
    · rintro l heq
      rw [hwhole] at heq
      exact hzero (List.cons.inj heq).1

lemma takeFraction_append (hdigit : ∀ c ∈ rest.head?, c.isDigit = false)
    (hpoint : ∀ c ∈ rest.head?, c ≠ '.') :
    takeFraction (n.fraction ++ rest) = (n.fraction, rest) := by
  rw [Numeral.fraction]
  split
  · rw [nil_append, takeFraction.eq_2]
    rintro l rfl
    exact hpoint '.' rfl rfl
  · next hpart =>
    rw [cons_append, takeFraction, takeDigits_append n.part_digits hdigit]
    simp [hpart]

lemma takeExponent_append (hrest : EndsNumber rest) :
    takeExponent (n.mark ++ rest) = (n.mark, rest) := by
  rw [Numeral.mark]
  split
  · cases rest with
    | nil => rfl
    | cons c rest =>
      obtain ⟨-, -, he, hE⟩ := hrest c rfl
      simp [takeExponent, he, hE]
  · next negative ds hexp =>
    obtain ⟨hne, hds⟩ := n.exponent_digits _ hexp
    have hsign : takeSign ['+', '-'] ((if negative then '-' else '+') :: (ds ++ rest)) =
        ([if negative then '-' else '+'], ds ++ rest) := by
      cases negative <;> rfl
    rw [cons_append, cons_append, takeExponent, hsign]
    dsimp only
    rw [takeDigits_append hds fun c hc => (hrest c hc).1]
    simp [hne]

lemma takeSign_chars :
    takeSign ['-'] (n.chars ++ rest) = (n.sign, n.whole ++ (n.fraction ++ (n.mark ++ rest))) := by
  obtain ⟨c, cs, hwhole, hc⟩ := n.exists_whole
  have hminus : c ≠ '-' := ne_of_isDigit hc rfl
  rw [Numeral.chars, Numeral.sign]
  split
  · simp [takeSign]
  · simp [takeSign, hwhole, hminus]

lemma takeNumber?_chars (limit : ℕ) (hrest : EndsNumber rest) :
    takeNumber? limit (n.chars ++ rest) = (if n.part = [] ∧ n.exponent = none then
        (readIntWithin limit (String.ofList n.chars)).toOption.map .int
      else readFloat? (String.ofList n.chars)).map (·, rest) := by
  have hmark : ∀ c ∈ (n.mark ++ rest).head?, c.isDigit = false ∧ c ≠ '.' := by
    rw [Numeral.mark]
    split
    · exact fun c hc => ⟨(hrest c hc).1, (hrest c hc).2.1⟩
    · rintro c ⟨⟩
      exact ⟨rfl, by decide⟩
  have hfraction : ∀ c ∈ (n.fraction ++ (n.mark ++ rest)).head?, c.isDigit = false := by
    rw [Numeral.fraction]
    split
    · exact fun c hc => (hmark c hc).1
    · rintro c ⟨⟩
      rfl
  rw [takeNumber?, takeSign_chars]
  dsimp only
  rw [takeWhole?_append n hfraction]
  simp only [Option.bind_eq_bind, Option.bind_some]
  rw [takeFraction_append n (fun c hc => (hmark c hc).1) fun c hc => (hmark c hc).2,
    takeExponent_append n hrest]
  by_cases hint : n.part = [] ∧ n.exponent = none
  · have hchars : n.sign ++ n.whole = n.chars := by
      simp [Numeral.chars, Numeral.fraction, Numeral.mark, hint]
    rw [if_pos (by simp [Numeral.fraction, Numeral.mark, hint]), if_pos hint, hchars]
    cases readIntWithin limit (String.ofList n.chars) <;> rfl
  · have hform : (n.fraction.isEmpty && n.mark.isEmpty) = false := by
      rw [Numeral.fraction, Numeral.mark]
      by_cases hpart : n.part = []
      · obtain ⟨e, he⟩ := Option.ne_none_iff_exists'.1 fun h => hint ⟨hpart, h⟩
        simp [he]
      · simp [hpart]
    have hchars : n.sign ++ n.whole ++ n.fraction ++ n.mark = n.chars := by simp [Numeral.chars]
    rw [hform, if_neg hint, hchars]
    cases readFloat? (String.ofList n.chars) <;> rfl

end Numeral

/-- Whether a number is written as something to be read back: an integer of at most `limit` digits,
a double that is finite, or one of the special numbers. -/
def NumberFits (limit : ℕ) : Num → Prop
  | .int i => decimalLength i.natAbs ≤ limit
  | .real x => ∃ negative d, Number.Parts.ofBits x.toBits = .finite negative d
  | _ => True

lemma exists_front_chars (n : Numeral) : ∃ c cs, n.chars = c :: cs ∧
      (c.isDigit = true ∨ c = '-' ∧ ∃ d ds, cs = d :: ds ∧ d.isDigit = true) := by
  obtain ⟨c, cs, hwhole, hc⟩ := n.exists_whole
  rw [Numeral.chars, Numeral.sign, hwhole]
  split
  · exact ⟨'-', _, rfl, .inr ⟨rfl, c, _, rfl, hc⟩⟩
  · exact ⟨c, _, rfl, .inl hc⟩

lemma dropFront?_chars (n : Numeral) (rest : List Char) {f g : Char} (hf : f.isDigit = false)
    (hg : g.isDigit = false) (fs : List Char) :
    dropFront? (f :: g :: fs) (n.chars ++ rest) = none := by
  obtain ⟨c, cs, hchars, hc | ⟨rfl, d, ds, rfl, hd⟩⟩ := exists_front_chars n
  · rw [hchars, cons_append, dropFront?, if_neg (ne_of_isDigit hc hf).symm]
  · rw [hchars, cons_append, cons_append, dropFront?, dropFront?,
      if_neg (ne_of_isDigit hd hg).symm, ite_self]

lemma takeAtom?_chars (n : Numeral) (limit : ℕ) (rest : List Char) :
    takeAtom? limit (n.chars ++ rest) =
      (takeNumber? limit (n.chars ++ rest)).map fun (x, rest) => (.number x, rest) := by
  rw [takeAtom?]
  dsimp only
  split
  · next found hfound =>
    -- every word has two characters that are no digits in front
    obtain ⟨⟨w, j⟩, hmem, hw⟩ := exists_of_findSome?_eq_some hfound
    simp only [mem_cons, not_mem_nil, or_false] at hmem
    have hnone : dropFront? w.toList (n.chars ++ rest) = none := by
      rcases hmem with ⟨rfl, -⟩ | ⟨rfl, -⟩ | ⟨rfl, -⟩ | ⟨rfl, -⟩ | ⟨rfl, -⟩ | ⟨rfl, -⟩
      all_goals exact dropFront?_chars n rest rfl rfl _
    rw [hnone] at hw
    cases hw
  · rfl

lemma takeAtom?_writeNumber {limit : ℕ} {x : Num} (hx : NumberFits limit x) {rest : List Char}
    (hrest : EndsNumber rest) :
    takeAtom? limit ((writeNumber x).toList ++ rest) = some (.number x, rest) := by
  cases x with
  | int i =>
    obtain ⟨n, hchars, hpart, hexp, hread⟩ := exists_numeral_of_int i
    change takeAtom? limit ((toString i).toList ++ rest) = _
    rw [hchars, takeAtom?_chars, takeNumber?_chars n limit hrest, if_pos ⟨hpart, hexp⟩, hread limit hx]
    rfl
  | real x =>
    obtain ⟨negative, d, hparts⟩ := hx
    obtain ⟨n, hchars, hform, hread⟩ := exists_numeral_of_real hparts
    change takeAtom? limit ((plainText x).toList ++ rest) = _
    rw [hchars, takeAtom?_chars, takeNumber?_chars n limit hrest, if_neg, hread]
    · rfl
    · rintro ⟨hpart, hexp⟩
      exact hform.elim (· hpart) (· hexp)
  | posInf | negInf | nan => rfl

end SetTop.Json
