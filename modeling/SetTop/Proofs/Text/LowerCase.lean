import Mathlib.Tactic.Lemma
import SetTop.Text.Basic
import SetTop.Text.Case

/-!
Lower case, and the characters that it leaves alone.

No character that a lower-case form is made of is a capital itself, so that a second lowering
changes nothing (`lower_lower`). White space and the punctuation of configuration files have no
lower-case form and are none, so that a text and its lower-case form are punctuated alike
(`patterned_lower`).

Both come from the table of capitals. A set of code points is the number with these bits, which
makes the comparison of two sets of a thousand and more a single operation.
-/

namespace SetTop.Text

open List

/-! ### Sets of numbers -/

/-- A set of numbers, as the bits of one. -/
def bits (ns : List Nat) : Nat := ns.foldr (fun n acc => 1 <<< n ||| acc) 0

variable {ns : List Nat} {n : Nat} {c : Char} {cs : List Char}

lemma testBit_bits (h : n ∈ ns) : (bits ns).testBit n = true := by
  induction ns with
  | nil => cases h
  | cons m ns ih =>
    rw [bits, foldr_cons, ← bits]
    rcases mem_cons.1 h with rfl | h
    · simp
    · simp [ih h]

lemma not_mem_of_bits {ms : List Nat} (h : bits ns &&& bits ms = 0) (hn : n ∈ ns) : n ∉ ms := by
  intro hm
  have hbit : (bits ns &&& bits ms).testBit n = true := by
    rw [Nat.testBit_and, testBit_bits hn, testBit_bits hm]
    rfl
  rw [h, Nat.zero_testBit] at hbit
  cases hbit

/-! ### The table -/

/-- The code points of a run. -/
def CaseRun.points (r : CaseRun) : List Nat :=
  (range ((r.last - r.first) / r.step + 1)).map fun k => r.first + r.step * k

/-- The code point that one of a run is moved to. -/
def CaseRun.lowered (r : CaseRun) (n : Nat) : Nat := (Int.ofNat n + r.delta).toNat

/-- Whether a run has a code point. -/
def CaseRun.has (r : CaseRun) (n : Nat) : Bool :=
  r.first ≤ n && n ≤ r.last && (n - r.first) % r.step == 0

lemma CaseRun.mem_points {r : CaseRun} (h : r.has n) : n ∈ r.points := by
  simp only [has, Bool.and_eq_true, decide_eq_true_eq, beq_iff_eq] at h
  refine mem_map.2 ⟨(n - r.first) / r.step, ?_, ?_⟩
  · exact mem_range.2 (Nat.lt_succ_of_le (Nat.div_le_div_right (by omega)))
  · have := Nat.div_add_mod (n - r.first) r.step
    omega

/-- The code points of all capitals in the table. -/
def capitalPoints : List Nat := capitals.toList.flatMap CaseRun.points

/-- The code points that they are moved to. Zero stands for those that are none. -/
def loweredPoints : List Nat := 0 :: capitals.toList.flatMap fun r => r.points.map r.lowered

/-- The code points of white space and of punctuation. -/
def markPoints : List Nat :=
  range' 9 5 ++ (range' 28 5 ++ (range' 0x2000 11 ++
    [0x85, 0xa0, 0x1680, 0x2028, 0x2029, 0x202f, 0x205f, 0x3000,
      '='.toNat, ':'.toNat, ';'.toNat, '#'.toNat, '['.toNat, ']'.toNat]))

lemma lowered_apart :
    bits loweredPoints &&& bits ('Σ'.toNat :: 'İ'.toNat :: capitalPoints) = 0 := by
  decide +kernel

lemma marks_apart : bits markPoints &&& bits (capitalPoints ++ loweredPoints) = 0 := by
  decide +kernel

/-! ### Characters -/

/-- White space, and the characters that divide or set off parts of a line. -/
def isMark (c : Char) : Bool := isBlank c || ['=', ':', ';', '#', '[', ']'].contains c

lemma ne_of_isMark {m : Char} (hm : isMark m) (hc : isMark c = false) : m ≠ c := by
  rintro rfl
  exact Bool.noConfusion (hm.symm.trans hc)

lemma mem_markPoints (h : isMark c) : c.toNat ∈ markPoints := by
  rw [isMark, Bool.or_eq_true] at h
  rcases h with h | h
  · simp only [isBlank, Bool.or_eq_true, Bool.and_eq_true, decide_eq_true_eq, beq_iff_eq] at h
    -- The three stretches are ranges of the list, and all else stands in it by itself.
    rcases h with (((((((((⟨h, h'⟩ | ⟨h, h'⟩) | h) | h) | h) | ⟨h, h'⟩) | h) | h) | h) | h) | h
    · exact mem_append_left _ (mem_range'_1.2 ⟨h, by omega⟩)
    · exact mem_append_right _ (mem_append_left _ (mem_range'_1.2 ⟨h, by omega⟩))
    · rw [h]; decide
    · rw [h]; decide
    · rw [h]; decide
    · refine mem_append_right _ (mem_append_right _ (mem_append_left _ ?_))
      exact mem_range'_1.2 ⟨h, by omega⟩
    all_goals rw [h]; decide
  · simp only [contains_iff_mem, mem_cons, not_mem_nil, or_false] at h
    rcases h with rfl | rfl | rfl | rfl | rfl | rfl <;> decide

lemma toNat_ofNat (n : Nat) : (Char.ofNat n).toNat = n ∨ (Char.ofNat n).toNat = 0 := by
  by_cases hvalid : n.isValidChar
  · rw [Char.ofNat, dif_pos hvalid]
    exact .inl rfl
  · rw [Char.ofNat, dif_neg hvalid]
    exact .inr rfl

lemma lowerChar_cases (c : Char) :
    lowerChar c = c ∨ c.toNat ∈ capitalPoints ∧ (lowerChar c).toNat ∈ loweredPoints := by
  have hrun {r : CaseRun} (hr : r ∈ capitals.toList) (hc : r.has c.toNat) :
      c.toNat ∈ capitalPoints ∧ (Char.ofNat (r.lowered c.toNat)).toNat ∈ loweredPoints := by
    have hpoint := CaseRun.mem_points hc
    refine ⟨mem_flatMap.2 ⟨r, hr, hpoint⟩, ?_⟩
    rcases toNat_ofNat (r.lowered c.toNat) with hlow | hlow
    · rw [hlow]
      exact mem_cons_of_mem _ (mem_flatMap.2 ⟨r, hr, mem_map.2 ⟨_, hpoint, rfl⟩⟩)
    · rw [hlow]
      exact mem_cons_self
  rw [lowerChar]
  split
  · next hbasic =>
    -- The first run of the table is what the basic letters are lowered by.
    have hfirst : ⟨65, 90, 1, 32⟩ ∈ capitals.toList := mem_of_head? (by rfl)
    have hlower : ∀ n < 128, (Char.ofNat n).toLower = Char.ofNat n ∨
        (⟨65, 90, 1, 32⟩ : CaseRun).has n ∧ (Char.ofNat n).toLower = Char.ofNat (n + 32) := by
      decide
    rcases hlower c.toNat hbasic with h | ⟨hhas, h⟩
    · rw [Char.ofNat_toNat] at h
      exact .inl h
    · rw [Char.ofNat_toNat] at h
      rw [h]
      exact .inr (hrun hfirst hhas)
  · split
    · next r hfind =>
      have hr := Array.mem_of_find?_eq_some hfind
      have hhas := Array.find?_some hfind
      exact .inr (hrun (Array.mem_toList_iff.2 hr) hhas)
    · exact .inl rfl

lemma lowerChar_of_not_mem (h : c.toNat ∉ capitalPoints) : lowerChar c = c :=
  (lowerChar_cases c).resolve_right fun hmem => h hmem.1

lemma isMark_lowerChar (c : Char) : isMark (lowerChar c) = isMark c := by
  rcases lowerChar_cases c with h | ⟨hc, hlow⟩
  · rw [h]
  · have apart {d : Char} (hd : d.toNat ∈ capitalPoints ++ loweredPoints) : isMark d = false := by
      refine Bool.eq_false_iff.2 fun hmark => ?_
      exact not_mem_of_bits marks_apart (mem_markPoints hmark) hd
    rw [apart (mem_append_left _ hc), apart (mem_append_right _ hlow)]

/-- A character that is left alone. -/
def IsLow (c : Char) : Prop := c ≠ 'Σ' ∧ c ≠ 'İ' ∧ lowerChar c = c

instance (c : Char) : Decidable (IsLow c) := inferInstanceAs (Decidable (_ ∧ _ ∧ _))

lemma isLow_lowerChar (hsigma : c ≠ 'Σ') (hdotted : c ≠ 'İ') : IsLow (lowerChar c) := by
  rcases lowerChar_cases c with h | ⟨-, hlow⟩
  · rw [h]
    exact ⟨hsigma, hdotted, h⟩
  · have apart := not_mem_of_bits lowered_apart hlow
    simp only [mem_cons, not_or] at apart
    exact ⟨fun h => apart.1 (by rw [h]), fun h => apart.2.1 (by rw [h]),
      lowerChar_of_not_mem apart.2.2⟩

/-! ### Texts -/

/-- The second text has the white space and the punctuation of the first one, in the same order, and
something for each run of other characters. -/
inductive Patterned : List Char → List Char → Prop
  | nil : Patterned [] []
  | same {c : Char} {a b : List Char} : Patterned a b → Patterned (c :: a) (c :: b)
  | other {c : Char} (ds : List Char) {a b : List Char} (hc : isMark c = false) (hne : ds ≠ [])
      (hds : ∀ d ∈ ds, isMark d = false) : Patterned a b → Patterned (c :: a) (ds ++ b)

namespace Patterned

variable {a b : List Char} (h : Patterned a b)

include h

lemma eq_nil_iff : b = [] ↔ a = [] := by
  cases h with
  | nil => rfl
  | same _ => simp
  | other _ _ hne _ _ => simp [hne]

variable {m : Char}

lemma mem_iff (hm : isMark m) : m ∈ b ↔ m ∈ a := by
  induction h with
  | nil => rfl
  | same _ ih => rw [mem_cons, mem_cons, ih]
  | @other c ds a b hc _ hds _ ih =>
    have hmds : m ∉ ds := fun hmem => ne_of_isMark hm (hds m hmem) rfl
    simp [ih, ne_of_isMark hm hc, hmds]

lemma head?_eq_iff (hm : isMark m) : b.head? = some m ↔ a.head? = some m := by
  cases h with
  | nil | same => rfl
  | @other c ds a b hc hne hds _ =>
    obtain ⟨d, ds, rfl⟩ := exists_cons_of_ne_nil hne
    have hd := ne_of_isMark hm (hds d mem_cons_self)
    simp [(ne_of_isMark hm hc).symm, hd.symm]

lemma getLast?_eq_iff (hm : isMark m) : b.getLast? = some m ↔ a.getLast? = some m := by
  induction h with
  | nil => rfl
  | @same c a b h ih =>
    by_cases ha : a = []
    · rw [ha, h.eq_nil_iff.2 ha]
    · rw [getLast?_cons_of_ne_nil ha, getLast?_cons_of_ne_nil (mt h.eq_nil_iff.1 ha), ih]
  | @other c ds a b hc hne hds h ih =>
    by_cases ha : a = []
    · -- What stands for the last character is no mark, as it is none itself.
      have hlast : m ∉ ds.getLast? := fun h => ne_of_isMark hm (hds m (mem_of_getLast? h)) rfl
      rw [ha, h.eq_nil_iff.2 ha, append_nil]
      exact iff_of_false hlast (by simpa using (ne_of_isMark hm hc).symm)
    · obtain ⟨d, hd⟩ := Option.ne_none_iff_exists'.1
        (mt getLast?_eq_none_iff.1 (mt h.eq_nil_iff.1 ha))
      rw [getLast?_append, hd, Option.some_or, ← hd, getLast?_cons_of_ne_nil ha, ih]

lemma mem_tail (hm : isMark m) (hmem : m ∈ b.tail) : m ∈ a.tail := by
  cases h with
  | nil => exact hmem
  | same h => exact (h.mem_iff hm).1 hmem
  | other ds _ hne hds h =>
    rw [tail_append_of_ne_nil hne] at hmem
    rcases mem_append.1 hmem with hd | hb
    · exact absurd rfl (ne_of_isMark hm (hds m (mem_of_mem_tail hd)))
    · exact (h.mem_iff hm).1 hb

lemma exists_cons (hm : isMark m) (hhead : b.head? = some m) :
    ∃ a' b', a = m :: a' ∧ b = m :: b' ∧ Patterned a' b' := by
  cases h with
  | nil => cases hhead
  | @same c a b h =>
    obtain rfl := Option.some.inj hhead
    exact ⟨a, b, rfl, rfl, h⟩
  | other ds _ hne hds h =>
    obtain ⟨d, ds, rfl⟩ := exists_cons_of_ne_nil hne
    obtain rfl := Option.some.inj hhead
    exact absurd rfl (ne_of_isMark hm (hds d mem_cons_self))

end Patterned

lemma patterned_lowerChar {a b : List Char} (h : Patterned a b) :
    Patterned (c :: a) (lowerChar c :: b) := by
  by_cases hc : isMark c
  · -- A mark is no capital.
    rcases lowerChar_cases c with hsame | ⟨hcapital, -⟩
    · rw [hsame]
      exact .same h
    · exact absurd (mem_append_left _ hcapital)
        (not_mem_of_bits marks_apart (mem_markPoints hc))
  · refine .other [lowerChar c] (by simpa using hc) (by simp) ?_ h
    simpa [isMark_lowerChar] using hc

lemma patterned_lower_go (before cs : List Char) : Patterned cs (lower.go before cs) := by
  induction cs generalizing before with
  | nil => exact .nil
  | cons c cs ih =>
    rw [lower.go]
    split
    · next h =>
      rw [h]
      refine .other [lowerSigma before cs] (by decide) (by simp) ?_ (ih _)
      rw [lowerSigma, forall_mem_singleton]
      split <;> decide
    · split
      · next h =>
        rw [h]
        have hpair : ∀ d ∈ ['i', '\u0307'], isMark d = false :=
          forall_mem_cons.2 ⟨by decide, forall_mem_singleton.2 (by decide)⟩
        exact .other ['i', '\u0307'] (by decide) (by simp) hpair (ih _)
      · exact patterned_lowerChar (ih _)

lemma patterned_lower (cs : List Char) : Patterned cs (lower cs) := patterned_lower_go [] cs

lemma isLow_special : ∀ c ∈ ['ς', 'σ', 'i', '\u0307'], IsLow c := by
  have hall : (['ς', 'σ', 'i', '\u0307'].all fun c => decide (IsLow c)) = true := by decide +kernel
  exact fun c hc => of_decide_eq_true (all_eq_true.1 hall c hc)

lemma isLow_of_mem_lower_go {before : List Char} (h : c ∈ lower.go before cs) : IsLow c := by
  induction cs generalizing before with
  | nil => cases h
  | cons d cs ih =>
    rw [lower.go] at h
    split at h
    · rcases mem_cons.1 h with rfl | h
      · rw [lowerSigma]
        split <;> exact isLow_special _ (by simp)
      · exact ih h
    · split at h
      · rcases mem_cons.1 h with rfl | h
        · exact isLow_special _ (by simp)
        · rcases mem_cons.1 h with rfl | h
          · exact isLow_special _ (by simp)
          · exact ih h
      · next hsigma hdotted =>
        rcases mem_cons.1 h with rfl | h
        · exact isLow_lowerChar hsigma hdotted
        · exact ih h

lemma lower_go_of_isLow (h : ∀ c ∈ cs, IsLow c) (before : List Char) : lower.go before cs = cs := by
  induction cs generalizing before with
  | nil => rfl
  | cons c cs ih =>
    obtain ⟨hsigma, hdotted, hlow⟩ := h c mem_cons_self
    rw [lower.go, if_neg hsigma, if_neg hdotted, hlow, ih fun d hd => h d (mem_cons_of_mem _ hd)]

lemma lower_lower (cs : List Char) : lower (lower cs) = lower cs :=
  lower_go_of_isLow (fun _ => isLow_of_mem_lower_go) []

end SetTop.Text
