import Mathlib.Tactic.Lemma

/-!
Lists of keys and values in which an entry is dropped, is replaced by a new one at the front, or is
changed where it stands, and lists with distinct keys.
-/

namespace SetTop.Association

open List

variable {α β : Type} [BEq α] [LawfulBEq α]

lemma lookup_filter_bne (k q : α) (entries : List (α × β)) :
    (entries.filter (·.1 != k)).lookup q = if q == k then none else entries.lookup q := by
  induction entries with
  | nil => simp
  | cons e rest ih =>
    rw [lookup_cons]
    by_cases he : e.1 = k
    · rw [filter_cons_of_neg (by simpa using he), ih, he]
      cases q == k <;> rfl
    · rw [filter_cons_of_pos (by simpa using he), lookup_cons, ih]
      cases hq : q == e.1 with
      | false => rfl
      | true =>
        -- The entry is found, and its key is not the one that is dropped.
        have hk : (q == k) = false := by
          rw [eq_of_beq hq]
          exact beq_false_of_ne he
        rw [hk]
        rfl

lemma lookup_replace (k q : α) (v : β) (entries : List (α × β)) :
    ((k, v) :: entries.filter (·.1 != k)).lookup q =
      if q == k then some v else entries.lookup q := by
  rw [lookup_cons, lookup_filter_bne]
  cases q == k <;> rfl

lemma lookup_modify (k q : α) (f : β → β) (entries : List (α × β)) :
    (entries.map fun e => if e.1 == k then (e.1, f e.2) else (e.1, e.2)).lookup q =
      if q == k then (entries.lookup q).map f else entries.lookup q := by
  induction entries with
  | nil => simp
  | cons e rest ih =>
    rw [map_cons, lookup_cons, ih]
    by_cases he : e.1 = k
    · rw [lookup_cons, he, beq_self_eq_true, if_pos rfl]
      cases q == k <;> rfl
    · rw [lookup_cons, if_neg (by simpa using he)]
      cases hq : q == e.1 with
      | false => simp only
      | true =>
        have hk : (q == k) = false := by
          rw [eq_of_beq hq]
          exact beq_false_of_ne he
        simp only [hk, Bool.false_eq_true, if_false]

omit [LawfulBEq α] in
lemma lookup_map (q : α) {γ : Type} (f : β → γ) (entries : List (α × β)) :
    (entries.map fun e => (e.1, f e.2)).lookup q = (entries.lookup q).map f := by
  induction entries with
  | nil => rfl
  | cons e rest ih =>
    rw [map_cons, lookup_cons, lookup_cons, ih]
    cases q == e.1 <;> rfl

lemma lookup_isSome_iff (k : α) (entries : List (α × β)) :
    (entries.lookup k).isSome = entries.any (·.1 == k) := by
  induction entries with
  | nil => rfl
  | cons e rest ih =>
    rw [lookup_cons, any_cons, Bool.beq_comm]
    cases h : e.1 == k with
    | false => exact ih
    | true => rfl

variable {k : α} {entries : List (α × β)} {v : β}

lemma lookup_eq_none_of_not_mem (h : k ∉ entries.map Prod.fst) : entries.lookup k = none := by
  refine lookup_eq_none_iff.2 fun e he => bne_iff_ne.2 ?_
  rintro rfl
  exact h (mem_map_of_mem he)

lemma lookup_put (k q : α) (v : β) (entries : List (α × β)) :
    (if entries.any (·.1 == k) then entries.map fun e => if e.1 == k then (e.1, v) else (e.1, e.2)
      else entries ++ [(k, v)]).lookup q = if q == k then some v else entries.lookup q := by
  rw [← lookup_isSome_iff]
  split
  · next h =>
    rw [lookup_modify k q (fun _ => v)]
    cases hq : q == k with
    | false => rfl
    | true =>
      obtain ⟨w, hw⟩ := Option.isSome_iff_exists.1 h
      rw [eq_of_beq hq, hw]
      rfl
  · next h =>
    rw [lookup_append, lookup_cons]
    cases hq : q == k with
    | false => simp
    | true =>
      rw [eq_of_beq hq, Option.not_isSome_iff_eq_none.1 h]
      rfl

lemma lookup_eq_some_of_mem (hkeys : (entries.map Prod.fst).Nodup) (h : (k, v) ∈ entries) :
    entries.lookup k = some v := by
  induction entries with
  | nil => cases h
  | cons e rest ih =>
    rw [map_cons, nodup_cons] at hkeys
    rw [lookup_cons]
    rcases mem_cons.1 h with rfl | h
    · rw [beq_self_eq_true]
    · rw [beq_false_of_ne, ih hkeys.2 h]
      rintro rfl
      exact hkeys.1 (mem_map.2 ⟨_, h, rfl⟩)

lemma mem_of_lookup_eq_some (h : entries.lookup k = some v) : (k, v) ∈ entries := by
  obtain ⟨front, back, rfl, -⟩ := lookup_eq_some_iff.1 h
  exact mem_append_right _ mem_cons_self

end SetTop.Association
