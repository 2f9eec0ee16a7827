import Mathlib.Data.List.Chain
import Mathlib.Tactic.SplitIfs
import SetTop.IrBox.Registry
import SetTop.Proofs.Association

/-!
The registry of a proxy as a finite map.

Every operation is said here through two views: the numbers that are taken, and what is found under
a number. The search for a free number gives up after as many steps as there are entries, and this
is late enough (`firstFree_not_mem`): one more number than there are entries cannot all be taken.
-/

namespace SetTop.IrBox

open List Bytes UInt8

def numberData (n : Nat) : Data := [Char.ofNat (n / 256), Char.ofNat (n % 256)]

variable {n : Nat} {d : Data}

lemma bigEndian?_of_lt (hn : n < 65536) :
    bigEndian? n = some [ofNat (n / 256), ofNat (n % 256)] := by
  have h : 0 ≤ (n : Int) ∧ (n : Int).toNat < 65536 := by omega
  rw [bigEndian?, if_pos h, Int.toNat_natCast]

lemma toChars_pair (hn : n < 65536) :
    toChars [ofNat (n / 256), ofNat (n % 256)] = numberData n := by
  simp only [toChars, List.map, numberData, toNat_ofNat']
  rw [Nat.mod_eq_of_lt (by omega), Nat.mod_eq_of_lt (by omega)]

lemma toNat_ofNat_of_lt (hn : n < 256) : (Char.ofNat n).toNat = n := by
  have hvalid : n.isValidChar := Or.inl (by omega)
  rw [Char.ofNat, dif_pos hvalid]
  rfl

lemma bigEndian_numberData {rest : Data} (hn : n < 65536) (hrest : rest.all (·.toNat < 256) = true) :
    (numberData n ++ rest).bigEndian = .ok n := by
  have hhigh : (Char.ofNat (n / 256)).toNat = n / 256 := toNat_ofNat_of_lt (by omega)
  have hlow : (Char.ofNat (n % 256)).toNat = n % 256 := toNat_ofNat_of_lt (by omega)
  have hbytes : (numberData n ++ rest).bytes =
      .ok (ofChars (numberData n ++ rest)) := by
    rw [Data.bytes, if_pos]
    simp only [numberData, cons_append, nil_append, all_cons, hrest,
      Bool.and_true, Bool.and_eq_true, decide_eq_true_eq]
    omega
  unfold Data.bigEndian
  rw [hbytes]
  simp only [bind, Except.bind, ofChars, numberData, cons_append, map_cons, readBigEndian?, fitting, toNat_ofNat', Except.ok.injEq]
  omega

lemma all_lt_of_bigEndian (h : d.bigEndian = .ok n) : d.all (·.toNat < 256) = true := by
  unfold Data.bigEndian Data.bytes at h
  split at h
  · assumption
  · simp [bind, Except.bind] at h

lemma lt_of_bigEndian (h : d.bigEndian = .ok n) : n < 65536 := by
  unfold Data.bigEndian at h
  cases hb : d.bytes with
  | error e => simp [hb, bind, Except.bind] at h
  | ok bs =>
    simp only [hb, bind, Except.bind] at h
    match bs with
    | [] => simp [readBigEndian?, fitting] at h
    | [a] => simp [readBigEndian?, fitting] at h
    | a :: b :: rest =>
      simp only [readBigEndian?, fitting, Except.ok.injEq] at h
      have ha := a.toNat_lt
      have hb := b.toNat_lt
      omega

namespace Registry

/-! ### Numbers that are taken -/

def numbers (r : Registry) : List Nat := r.entries.map (·.1)

/-- No number is taken twice, and none is beyond the largest one. -/
structure Valid (r : Registry) : Prop where
  distinct : r.numbers.Nodup
  bounded : ∀ n ∈ r.numbers, n ≤ maxNumber

lemma valid_empty : Valid {} := ⟨nodup_nil, by simp [numbers]⟩

variable {r r' : Registry} {n k fuel : Nat} {data header : Data}

lemma has_iff_mem : r.has n = true ↔ n ∈ r.numbers := by
  simp [has, numbers]

lemma lookup_eq_none_iff_not_mem : r.entries.lookup n = none ↔ n ∉ r.numbers := by
  simp only [lookup_eq_none_iff, numbers, mem_map, not_exists, not_and]
  constructor
  · intro h e he hn
    have := h e he
    simp [hn] at this
  · intro h e he
    have := h e he
    simpa using fun hn => this hn.symm

lemma has_eraseP (h : k ≠ n) : has { r with entries := r.entries.eraseP (·.1 == n) } k = r.has k := by
  simp only [has]
  induction r.entries with
  | nil => rfl
  | cons e entries ih =>
    rw [eraseP_cons]
    by_cases he : e.1 = n
    · simp [he, Ne.symm h]
    · simp [beq_false_of_ne he, ih]

lemma firstFree_congr (h : ∀ k, n ≤ k → r.has k = r'.has k) :
    r.firstFree fuel n = r'.firstFree fuel n := by
  induction fuel generalizing r r' n with
  | zero => rfl
  | succ fuel ih =>
    rw [firstFree, h n (Nat.le_refl n)]
    congr 1
    refine ih fun k hk => ?_
    rw [has_eraseP (by omega), has_eraseP (by omega), h k (by omega)]

lemma firstFree_succ (r : Registry) (fuel n : Nat) :
    r.firstFree (fuel + 1) n = if r.has n then r.firstFree fuel (n + 1) else n := by
  rw [firstFree]
  congr 1
  exact firstFree_congr fun k hk => has_eraseP (by omega)

lemma mem_of_firstFree_mem (h : r.firstFree fuel n ∈ r.numbers) : ∀ i ≤ fuel, n + i ∈ r.numbers := by
  induction fuel generalizing n with
  | zero =>
    intro i hi
    obtain rfl : i = 0 := by omega
    simpa [firstFree] using h
  | succ fuel ih =>
    rw [firstFree_succ] at h
    split at h
    case isTrue hn =>
      intro i hi
      cases i with
      | zero => exact has_iff_mem.mp hn
      | succ i =>
        have := ih h i (by omega)
        rwa [show n + 1 + i = n + (i + 1) by omega] at this
    case isFalse hn => exact absurd (has_iff_mem.mpr h) hn

lemma firstFree_not_mem (r : Registry) (n : Nat) :
    r.firstFree r.entries.length n ∉ r.numbers := by
  intro h
  have hall := mem_of_firstFree_mem h
  -- It would have passed one number more than there are entries.
  have hsub : List.range' n (r.entries.length + 1) ⊆ r.numbers := by
    intro k hk
    rw [mem_range'_1] at hk
    have := hall (k - n) (by omega)
    rwa [show n + (k - n) = k by omega] at this
  have hnodup : (List.range' n (r.entries.length + 1)).Nodup := nodup_range'
  have hlen := hnodup.length_le_of_subset hsub
  simp only [length_range', numbers, length_map] at hlen
  omega

lemma freshNumber_spec (h : r.freshNumber = some (n, r')) :
    n ∉ r.numbers ∧ n ≤ maxNumber ∧ r'.entries = r.entries := by
  unfold freshNumber at h
  dsimp only at h
  split_ifs at h with hle hle
  all_goals
    obtain ⟨rfl, rfl⟩ := Prod.mk.inj (Option.some.inj h)
    exact ⟨firstFree_not_mem r _, hle, rfl⟩

lemma numbers_freshNumber (h : r.freshNumber = some (n, r')) : r'.numbers = r.numbers := by
  rw [numbers, (freshNumber_spec h).2.2]
  rfl

lemma mem_of_lt_firstFree (hn : n ≤ k) (hk : k < r.firstFree fuel n) : k ∈ r.numbers := by
  induction fuel generalizing n with
  | zero =>
    rw [firstFree] at hk
    omega
  | succ fuel ih =>
    rw [firstFree_succ] at hk
    split at hk
    case isTrue htaken =>
      rcases Nat.eq_or_lt_of_le hn with rfl | hlt
      · exact has_iff_mem.mp htaken
      · exact ih hlt hk
    case isFalse => omega

/-! ### Changing entries -/

lemma entries_put_of_not_mem (p : Option Pending) (h : n ∉ r.numbers) :
    (r.put n p).entries = r.entries ++ [(n, p)] := by
  have hn : r.has n = false := by
    rw [Bool.eq_false_iff]
    exact fun hn => h (has_iff_mem.mp hn)
  simp [put, hn]

lemma lookup_put_of_not_mem (p : Option Pending) (h : n ∉ r.numbers) (k : Nat) :
    (r.put n p).entries.lookup k = if k = n then some p else r.entries.lookup k := by
  rw [entries_put_of_not_mem p h, lookup_append]
  by_cases hk : k = n
  · subst hk
    simp [lookup_eq_none_iff_not_mem.mpr h]
  · have hne : (k == n) = false := beq_false_of_ne hk
    simp [hk, hne, lookup_cons]

lemma Valid.put (hr : r.Valid) (p : Option Pending) (hn : n ∉ r.numbers) (hle : n ≤ maxNumber) :
    (r.put n p).Valid := by
  have hnum : (r.put n p).numbers = r.numbers ++ [n] := by
    simp [numbers, entries_put_of_not_mem p hn]
  constructor
  · rw [hnum, nodup_append]
    refine ⟨hr.distinct, by simp, ?_⟩
    intro a ha b hb hab
    simp only [mem_singleton] at hb
    exact hn (hb ▸ hab ▸ ha)
  · intro k hk
    rw [hnum, mem_append, mem_singleton] at hk
    rcases hk with hk | rfl
    · exact hr.bounded k hk
    · exact hle

lemma Valid.put_fresh (hr : r.Valid) (h : r.freshNumber = some (n, r')) (p : Option Pending) :
    (r'.put n p).Valid := by
  obtain ⟨hn, hle, -⟩ := freshNumber_spec h
  have hnumbers := numbers_freshNumber h
  exact Valid.put ⟨hnumbers ▸ hr.distinct, hnumbers ▸ hr.bounded⟩ p (hnumbers ▸ hn) hle

lemma lookup_put_fresh (h : r.freshNumber = some (n, r')) (p : Option Pending) (k : Nat) :
    (r'.put n p).entries.lookup k = if k = n then some p else r.entries.lookup k := by
  obtain ⟨hn, -, hentries⟩ := freshNumber_spec h
  rw [lookup_put_of_not_mem p (numbers_freshNumber h ▸ hn), hentries]

lemma lookup_forget (r : Registry) (n k : Nat) :
    (r.forget n).entries.lookup k = if k = n then none else r.entries.lookup k := by
  rw [forget, Association.lookup_filter_bne]
  simp only [beq_iff_eq]

lemma numbers_put_fresh (h : r.freshNumber = some (n, r')) (p : Option Pending) :
    (r'.put n p).numbers = r.numbers ++ [n] := by
  obtain ⟨hn, -, hentries⟩ := freshNumber_spec h
  rw [numbers, entries_put_of_not_mem p (numbers_freshNumber h ▸ hn), hentries, map_append]
  rfl

lemma numbers_forget (r : Registry) (n : Nat) :
    (r.forget n).numbers = r.numbers.filter (· != n) := by
  simp only [numbers, filter_map]
  rfl

lemma forget_of_not_mem (h : n ∉ r.numbers) : r.forget n = r := by
  have hkept : r.entries.filter (·.1 != n) = r.entries := by
    refine filter_eq_self.mpr fun e he => ?_
    refine bne_iff_ne.mpr fun hn => h ?_
    exact hn ▸ mem_map_of_mem he
  rw [forget, hkept]

lemma Valid.forget (hr : r.Valid) (n : Nat) : (r.forget n).Valid := by
  have hsub : (r.forget n).numbers.Sublist r.numbers := filter_sublist.map _
  exact ⟨hr.distinct.sublist hsub, fun k hk => hr.bounded k (hsub.subset hk)⟩

lemma Valid.length_le (hr : r.Valid) : r.entries.length ≤ 65536 := by
  have hsub : r.numbers ⊆ List.range 65536 := by
    intro n hn
    have hle := hr.bounded n hn
    rw [maxNumber] at hle
    exact mem_range.mpr (by omega)
  have hlen := hr.distinct.length_le_of_subset hsub
  simpa [numbers] using hlen

lemma Valid.freshNumber_eq_none_iff (hr : r.Valid) :
    r.freshNumber = none ↔ r.entries.length = 65536 := by
  constructor
  · intro h
    -- The second search starts at zero, so it has passed every number.
    have hbeyond : maxNumber < r.firstFree r.entries.length 0 := by
      unfold freshNumber at h
      dsimp only at h
      split at h
      · simp at h
      · split at h
        · simp at h
        · omega
    have hsub : List.range 65536 ⊆ r.numbers := by
      intro k hk
      rw [mem_range] at hk
      rw [maxNumber] at hbeyond
      have hpassed : k < r.firstFree r.entries.length 0 := by omega
      exact mem_of_lt_firstFree (Nat.zero_le k) hpassed
    have hlen := nodup_range.length_le_of_subset hsub
    simp only [length_range, numbers, length_map] at hlen
    have hle := hr.length_le
    omega
  · intro hlen
    cases hfresh : r.freshNumber with
    | none => rfl
    | some found =>
      have hput := (hr.put_fresh hfresh none).length_le
      -- The fresh number would be one more than there are.
      have hcount := congrArg List.length (numbers_put_fresh hfresh none)
      simp only [numbers, length_append, length_map, length_singleton]
        at hcount
      omega

/-! ### What the operations give -/

lemma renumber_bigEndian (data : Data) (hn : n < 65536) :
    renumber data n false = .ok (numberData n ++ data.drop 2) := by
  rw [renumber, if_neg (by decide), bigEndian?_of_lt hn, ← toChars_pair hn]
  rfl

lemma register_spec {client : Nat} {data' : Data} (h : r.register client data = .ok (data', r')) :
    ∃ k n r₁, data.bigEndian = .ok k ∧ r.freshNumber = some (n, r₁) ∧
      r' = r₁.put n (some ⟨client, k⟩) ∧ data' = numberData n ++ data.drop 2 := by
  unfold register at h
  cases hk : data.bigEndian with
  | error e => simp [hk] at h
  | ok k =>
    cases hn : r.freshNumber with
    | none => simp [hk, hn] at h
    | some found =>
      obtain ⟨n, r₁⟩ := found
      have hle := (freshNumber_spec hn).2.1
      rw [maxNumber] at hle
      simp only [hk, hn, renumber_bigEndian data (show n < 65536 by omega),
        Except.ok.injEq, Prod.mk.injEq] at h
      exact ⟨k, n, r₁, rfl, rfl, h.2.symm, h.1.symm⟩

lemma complete_malformed {e : Fault} (h : data.bigEndian = .error e) :
    r.complete header data = (.malformed, r) := by
  simp [complete, h]

lemma complete_unknown (hd : data.bigEndian = .ok n) (hn : r.entries.lookup n = none) :
    r.complete header data = (.unknown n, r) := by
  simp [complete, hd, hn]

lemma complete_pending {p : Pending} (hd : data.bigEndian = .ok n)
    (hn : r.entries.lookup n = some (some p)) (hp : p.number < 65536) : r.complete header data =
      (.deliver p.client (header ++ (numberData p.number ++ data.drop 2)), r.forget n) := by
  simp [complete, hd, hn, renumber_bigEndian data hp]

lemma complete_unknown_snd (h : r.complete header data = (.unknown n, r')) : r' = r := by
  unfold complete at h
  split at h
  · simp at h
  · split at h
    · exact (Prod.mk.inj h).2.symm
    · simp at h
    · split at h
      · simp at h
      · simp at h

lemma complete_snd {h : Data} (hd : data.bigEndian = .ok n) :
    (r.complete h data).2 = r.forget n ∧ (r.complete h data).1 ≠ .malformed := by
  unfold complete
  rw [hd]
  dsimp only
  cases hn : r.entries.lookup n with
  | none => exact ⟨(forget_of_not_mem (lookup_eq_none_iff_not_mem.mp hn)).symm, by simp⟩
  | some p =>
    cases p with
    | none => exact ⟨rfl, by simp⟩
    | some p =>
      dsimp only
      split
      · exact ⟨rfl, by simp⟩
      · exact ⟨rfl, by simp⟩

/-! ### Numbers in turn -/

/-- Whether counting starts again for the next number. -/
def restarts (r : Registry) : Bool := maxNumber < r.firstFree r.entries.length r.counter

lemma le_firstFree (r : Registry) (fuel n : Nat) : n ≤ r.firstFree fuel n := by
  induction fuel generalizing n with
  | zero => exact Nat.le_refl n
  | succ fuel ih =>
    rw [firstFree_succ]
    split
    · exact Nat.le_of_succ_le (ih (n + 1))
    · exact Nat.le_refl n

/-- The next number is the first free one from the counter on, or the first free one of all if there is
none from there on. -/
structure Next (r : Registry) (n : Nat) : Prop where
  le : n ≤ maxNumber
  free : n ∉ r.numbers
  first : ∀ k < n, r.restarts ∨ r.counter ≤ k → k ∈ r.numbers
  goesOn : r.restarts = false → r.counter ≤ n
  spent : r.restarts → ∀ k, r.counter ≤ k → k ≤ maxNumber → k ∈ r.numbers

lemma Valid.exists_next (hr : r.Valid) (hroom : r.entries.length < 65536) :
    ∃ n, r.freshNumber = some (n, { r with counter := n + 1 }) ∧ r.Next n := by
  obtain ⟨⟨n, r'⟩, hfresh⟩ := Option.ne_none_iff_exists'.1
    (mt hr.freshNumber_eq_none_iff.1 (Nat.ne_of_lt hroom))
  have hfree := freshNumber_spec hfresh
  simp only [freshNumber] at hfresh
  split at hfresh
  · next hle =>
    cases hfresh
    have hgoes : r.restarts = false := decide_eq_false (Nat.not_lt.2 hle)
    refine ⟨_, if_pos hle, hle, hfree.1, fun k hk h => ?_, fun _ => le_firstFree .., by simp [hgoes]⟩
    exact mem_of_lt_firstFree (h.resolve_left (by simp [hgoes])) hk
  · next hbeyond =>
    split at hfresh
    · next hle =>
      cases hfresh
      have hrestarts : r.restarts = true := decide_eq_true (Nat.lt_of_not_le hbeyond)
      refine ⟨_, (if_neg hbeyond).trans (if_pos hle), hle, hfree.1,
        fun k hk _ => mem_of_lt_firstFree (Nat.zero_le k) hk, by simp [hrestarts], fun _ k hk hle => ?_⟩
      exact mem_of_lt_firstFree hk (Nat.lt_of_le_of_lt hle (Nat.lt_of_not_le hbeyond))
    · cases hfresh

/-- The numbers that are asked for in turn, each with whether counting starts again for it. Which ones
are taken changes from one to the next. -/
def handOut : Nat → List (List (Nat × Option Pending)) → List (Nat × Bool)
  | _, [] => []
  | counter, entries :: rest =>
    match (⟨counter, entries⟩ : Registry).freshNumber with
    | none => []
    | some (n, r) => (n, restarts ⟨counter, entries⟩) :: handOut r.counter rest

variable {counter : Nat} {taken : List (List (Nat × Option Pending))}

/-- Each number that is handed out is above the one before, unless counting starts again. -/
lemma isChain_handOut (h : ∀ entries ∈ taken, Valid { entries } ∧ entries.length < 65536) :
    (handOut counter taken).length = taken.length ∧
      (∀ a ∈ (handOut counter taken).head?, a.2 ∨ counter ≤ a.1) ∧
      (handOut counter taken).IsChain fun a b => b.2 ∨ a.1 < b.1 := by
  induction taken generalizing counter with
  | nil => simp [handOut]
  | cons entries rest ih =>
    obtain ⟨⟨hvalid, hroom⟩, hrest⟩ := forall_mem_cons.1 h
    have hvalid' : Valid ⟨counter, entries⟩ := ⟨hvalid.distinct, hvalid.bounded⟩
    obtain ⟨n, hfresh, hnext⟩ := hvalid'.exists_next hroom
    obtain ⟨hlength, hhead, hchain⟩ := @ih (n + 1) hrest
    rw [handOut, hfresh]
    refine ⟨congrArg (· + 1) hlength, ?_, isChain_cons.2 ⟨hhead, hchain⟩⟩
    rintro _ ⟨rfl⟩
    cases hrestarts : restarts ⟨counter, entries⟩ with
    | true => exact .inl rfl
    | false => exact .inr (hnext.goesOn hrestarts)

/-- **Fresh numbers.** As long as a number is left, asking for one gives a free one and takes nothing,
and counting starts again once at most. Until it does, the numbers that are handed out increase. -/
theorem fresh_until_restart :
    (∀ r : Registry, r.Valid → r.entries.length < 65536 →
      ∃ n, r.freshNumber = some (n, { r with counter := n + 1 }) ∧ r.Next n) ∧
    ∀ counter taken, (∀ entries ∈ taken, Valid { entries } ∧ entries.length < 65536) →
      (handOut counter taken).length = taken.length ∧
      ∀ stretch, stretch <:+: handOut counter taken → (∀ a ∈ stretch.tail, a.2 = false) →
        (stretch.map Prod.fst).Pairwise (· < ·) := by
  refine ⟨fun r hr => hr.exists_next, fun counter taken h => ?_⟩
  obtain ⟨hlength, -, hchain⟩ := @isChain_handOut counter taken h
  refine ⟨hlength, fun stretch hstretch hgoes => ?_⟩
  have hup : stretch.IsChain fun a b => a.1 < b.1 := by
    have hwithin := List.IsChain.infix hchain hstretch
    refine hwithin.imp_of_mem_tail_imp fun a b _ hb hab => ?_
    exact hab.resolve_left (by simp [hgoes b hb])
  exact (isChain_map_of_isChain (S := (· < ·)) Prod.fst (fun _ _ => id) hup).pairwise

/-- Counting stands behind the largest number and starts again. -/
theorem fresh_behind_largest : ∃ n, (⟨70000, [(0, none), (1, none), (3, none)]⟩ : Registry).freshNumber =
    some (n, ⟨n + 1, [(0, none), (1, none), (3, none)]⟩) ∧
      Next ⟨70000, [(0, none), (1, none), (3, none)]⟩ n :=
  fresh_until_restart.1 ⟨70000, [(0, none), (1, none), (3, none)]⟩ ⟨by decide, by decide⟩ (by decide)

end Registry

end SetTop.IrBox
