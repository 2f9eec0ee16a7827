import Mathlib.Data.List.TakeWhile
import SetTop.Text.Basic

/-!
Texts without white space at their ends.
-/

namespace SetTop.Text

open List

variable {cs front back : List Char}

/-- The text neither starts nor ends with white space. -/
structure Trimmed (cs : List Char) : Prop where
  head : ∀ c ∈ cs.head?, isBlank c = false
  last : ∀ c ∈ cs.getLast?, isBlank c = false

lemma stripEnd_append_of_blank (hback : ∀ c ∈ back, isBlank c) (cs : List Char) :
    stripEnd (cs ++ back) = stripEnd cs := by
  have hreverse : ∀ c ∈ back.reverse, isBlank c := fun c hc => hback c (mem_reverse.1 hc)
  rw [stripEnd, dropEndWhile, reverse_append, dropWhile_append_of_pos hreverse]
  rfl

lemma stripEnd_of_last (h : ∀ c ∈ cs.getLast?, isBlank c = false) : stripEnd cs = cs := by
  have hself : cs.reverse.dropWhile isBlank = cs.reverse := by
    cases hcs : cs.reverse with
    | nil => rfl
    | cons c rest =>
      have hc : isBlank c = false := by
        apply h
        rw [← head?_reverse, hcs]
        rfl
      exact dropWhile_cons_of_neg (by simp [hc])
  rw [stripEnd, dropEndWhile, hself, reverse_reverse]

lemma exists_stripEnd (cs : List Char) :
    ∃ back, cs = stripEnd cs ++ back ∧ ∀ c ∈ back, isBlank c := by
  refine ⟨(cs.reverse.takeWhile isBlank).reverse, ?_, fun c hc => ?_⟩
  · rw [stripEnd, dropEndWhile, ← reverse_append, takeWhile_append_dropWhile, reverse_reverse]
  · exact mem_takeWhile_imp (mem_reverse.1 hc)

lemma last_stripEnd (cs : List Char) : ∀ c ∈ (stripEnd cs).getLast?, isBlank c = false := by
  intro c hc
  rw [stripEnd, dropEndWhile, getLast?_reverse] at hc
  have := head?_dropWhile_not isBlank cs.reverse
  rw [hc] at this
  simpa using this

@[simp] lemma stripEnd_stripEnd (cs : List Char) : stripEnd (stripEnd cs) = stripEnd cs :=
  stripEnd_of_last (last_stripEnd cs)

lemma stripEnd_append (a b : List Char) :
    stripEnd (a ++ b) = if stripEnd b = [] then stripEnd a else a ++ stripEnd b := by
  obtain ⟨back, hb, hback⟩ := exists_stripEnd b
  split
  · next h =>
    rw [h, nil_append] at hb
    rw [hb, stripEnd_append_of_blank hback]
  · next h =>
    have hlast : ∀ c ∈ (a ++ stripEnd b).getLast?, isBlank c = false := by
      obtain ⟨d, hd⟩ := Option.ne_none_iff_exists'.1 (mt getLast?_eq_none_iff.1 h)
      rw [getLast?_append, hd, Option.some_or, ← hd]
      exact last_stripEnd b
    conv => lhs; rw [hb, ← append_assoc]
    rw [stripEnd_append_of_blank hback, stripEnd_of_last hlast]

lemma Trimmed.strip_eq (h : Trimmed cs) (hfront : ∀ c ∈ front, isBlank c)
    (hback : ∀ c ∈ back, isBlank c) : strip (front ++ (cs ++ back)) = cs := by
  rw [strip, stripStart, dropWhile_append_of_pos hfront]
  cases cs with
  | nil =>
    rw [nil_append, dropWhile_eq_nil_iff.2 hback]
    rfl
  | cons c rest =>
    have hc : isBlank c = false := h.head c rfl
    rw [cons_append, dropWhile_cons_of_neg (by simp [hc]), ← cons_append,
      stripEnd_append_of_blank hback, stripEnd_of_last h.last]

lemma trimmed_strip (cs : List Char) : Trimmed (strip cs) := by
  refine ⟨fun c hc => ?_, last_stripEnd _⟩
  -- Dropping at the end leaves the first character, if it leaves anything.
  obtain ⟨back, hback, -⟩ := exists_stripEnd (stripStart cs)
  have hhead : (stripStart cs).head? = some c := by
    rw [hback, head?_append]
    rw [strip] at hc
    rw [hc]
    rfl
  have := head?_dropWhile_not isBlank cs
  rw [← stripStart, hhead] at this
  simpa using this

lemma exists_strip (cs : List Char) :
    ∃ front back, cs = front ++ (strip cs ++ back) ∧ (∀ c ∈ front, isBlank c) ∧
      ∀ c ∈ back, isBlank c := by
  obtain ⟨back, hback, hblank⟩ := exists_stripEnd (stripStart cs)
  refine ⟨cs.takeWhile isBlank, back, ?_, fun c hc => mem_takeWhile_imp hc, hblank⟩
  rw [strip, ← hback, stripStart, takeWhile_append_dropWhile]

end SetTop.Text
