import Mathlib.Tactic.Lemma
import SetTop.Text.Basic

/-!
Lines that have ended, and the one that has not.

Every text is some lines, each with its line feed, and a rest without one. The decomposition is
computed by `ended` and `unended`, and a text that continues another goes on from the rest
(`ended_append`).
-/

namespace SetTop.Text

open List

/-- The lines of a text that have ended, and what stands behind them. -/
def splitEnded : List Char → List (List Char) × List Char
  | [] => ([], [])
  | c :: cs =>
    if c = '\n' then ([c] :: (splitEnded cs).1, (splitEnded cs).2)
    else match splitEnded cs with
      | ([], rest) => ([], c :: rest)
      | (line :: more, rest) => ((c :: line) :: more, rest)

variable (cs : List Char)

def ended : List (List Char) := (splitEnded cs).1

def unended : List Char := (splitEnded cs).2

/-- A line with its line feed. -/
def IsEnded (line : List Char) : Prop := ∃ body, line = body ++ ['\n'] ∧ '\n' ∉ body

variable {body : List Char}

section Line

variable (h : '\n' ∉ body) (rest : List Char)

include h

lemma splitEnded_of_not_mem : splitEnded body = ([], body) := by
  induction body with
  | nil => rfl
  | cons c cs ih =>
    rw [splitEnded, if_neg (ne_of_not_mem_cons h).symm, ih (not_mem_of_not_mem_cons h)]

lemma splitEnded_line :
    splitEnded (body ++ '\n' :: rest) = ((body ++ ['\n']) :: ended rest, unended rest) := by
  induction body with
  | nil => rfl
  | cons c cs ih =>
    rw [cons_append, splitEnded, if_neg (ne_of_not_mem_cons h).symm, ih (not_mem_of_not_mem_cons h)]
    rfl

lemma ended_of_not_mem : ended body = [] := by
  rw [ended, splitEnded_of_not_mem h]

lemma unended_of_not_mem : unended body = body := by
  rw [unended, splitEnded_of_not_mem h]

lemma ended_line : ended (body ++ '\n' :: rest) = (body ++ ['\n']) :: ended rest := by
  rw [ended, splitEnded_line h]

lemma unended_line : unended (body ++ '\n' :: rest) = unended rest := by
  rw [unended, splitEnded_line h]

end Line

lemma lineInduction {motive : List Char → Prop} (rest : ∀ body, '\n' ∉ body → motive body)
    (line : ∀ body cs, '\n' ∉ body → motive cs → motive (body ++ '\n' :: cs)) (cs : List Char) :
    motive cs := by
  induction h : cs.length using Nat.strongRecOn generalizing cs with
  | ind n ih =>
    by_cases hmem : '\n' ∈ cs
    · obtain ⟨body, more, rfl, hbody⟩ := eq_append_cons_of_mem hmem
      refine line body more hbody (ih more.length ?_ more rfl)
      rw [← h, length_append, length_cons]
      omega
    · exact rest cs hmem

@[simp] lemma flatten_ended : (ended cs).flatten ++ unended cs = cs := by
  induction cs using lineInduction with
  | rest body hbody => simp [ended_of_not_mem hbody, unended_of_not_mem hbody]
  | line body cs hbody ih => simp [ended_line hbody, unended_line hbody, ih]

lemma not_mem_unended : '\n' ∉ unended cs := by
  induction cs using lineInduction with
  | rest body hbody => rwa [unended_of_not_mem hbody]
  | line body cs hbody ih => rwa [unended_line hbody]

variable {cs part : List Char} {ls parts : List (List Char)} {sep : Char}

lemma isEnded_of_mem_ended {line : List Char} (h : line ∈ ended cs) : IsEnded line := by
  induction cs using lineInduction with
  | rest body hbody => simp [ended_of_not_mem hbody] at h
  | line body cs hbody ih =>
    rw [ended_line hbody] at h
    rcases mem_cons.1 h with rfl | h
    · exact ⟨body, rfl, hbody⟩
    · exact ih h

lemma splitEnded_append (p q : List Char) : ended (p ++ q) = ended p ++ ended (unended p ++ q) ∧
      unended (p ++ q) = unended (unended p ++ q) := by
  induction p using lineInduction with
  | rest body hbody => simp [ended_of_not_mem hbody, unended_of_not_mem hbody]
  | line body cs hbody ih =>
    rw [append_assoc, cons_append, ended_line hbody, ended_line hbody, unended_line hbody,
      unended_line hbody, ih.1, ih.2]
    exact ⟨rfl, rfl⟩

lemma ended_append (p q : List Char) : ended (p ++ q) = ended p ++ ended (unended p ++ q) :=
  (splitEnded_append p q).1

lemma splitEnded_flatten_append (hls : ∀ line ∈ ls, IsEnded line) (cs : List Char) :
    ended (ls.flatten ++ cs) = ls ++ ended cs ∧ unended (ls.flatten ++ cs) = unended cs := by
  induction ls with
  | nil => exact ⟨rfl, rfl⟩
  | cons line ls ih =>
    obtain ⟨body, rfl, hbody⟩ := hls line (by simp)
    obtain ⟨hended, hunended⟩ := ih fun l hl => hls l (by simp [hl])
    rw [flatten_cons, append_assoc, append_assoc, singleton_append,
      ended_line hbody, unended_line hbody, hended, hunended]
    exact ⟨rfl, rfl⟩

lemma ended_flatten (hls : ∀ line ∈ ls, IsEnded line) : ended ls.flatten = ls := by
  have h := (splitEnded_flatten_append hls []).1
  have hnil : ended [] = [] := ended_of_not_mem (by simp)
  rwa [append_nil, hnil, append_nil] at h

lemma lines_go_rest (h : '\n' ∉ body) (current : List Char) : lines.go current body =
      if current.reverse ++ body = [] then [] else [current.reverse ++ body] := by
  induction body generalizing current with
  | nil => cases current <;> simp [lines.go]
  | cons c cs ih =>
    rw [lines.go, if_neg (ne_of_not_mem_cons h).symm, ih (not_mem_of_not_mem_cons h)]
    simp

lemma lines_go_line (h : '\n' ∉ body) (current rest : List Char) :
    lines.go current (body ++ '\n' :: rest) =
      (current.reverse ++ (body ++ ['\n'])) :: lines.go [] rest := by
  induction body generalizing current with
  | nil => simp [lines.go]
  | cons c cs ih =>
    rw [cons_append, lines.go, if_neg (ne_of_not_mem_cons h).symm, ih (not_mem_of_not_mem_cons h)]
    simp

lemma lines_eq : lines cs = ended cs ++ if unended cs = [] then [] else [unended cs] := by
  rw [lines]
  induction cs using lineInduction with
  | rest body hbody =>
    rw [lines_go_rest hbody, ended_of_not_mem hbody, unended_of_not_mem hbody]
    rfl
  | line body cs hbody ih =>
    rw [lines_go_line hbody, ended_line hbody, unended_line hbody, ih]
    rfl

lemma lines_line (h : '\n' ∉ body) : lines (body ++ ['\n']) = [body ++ ['\n']] := by
  rw [lines_eq, ended_line h, unended_line h]
  rfl

lemma lines_flatten (hls : ∀ line ∈ ls, IsEnded line) : lines ls.flatten = ls := by
  have hunended := (splitEnded_flatten_append hls []).2
  have hnil : unended [] = [] := unended_of_not_mem (by simp)
  rw [append_nil, hnil] at hunended
  rw [lines_eq, ended_flatten hls, hunended, if_pos rfl, append_nil]

lemma dropEndWhile_line (h : '\n' ∉ body) : dropEndWhile (· == '\n') (body ++ ['\n']) = body := by
  have hself : body.reverse.dropWhile (· == '\n') = body.reverse := by
    cases hbody : body.reverse with
    | nil => rfl
    | cons c cs =>
      have hc : c ∈ body := mem_reverse.1 (hbody ▸ mem_cons_self ..)
      refine dropWhile_cons_of_neg ?_
      rw [beq_iff_eq]
      rintro rfl
      exact h hc
  rw [dropEndWhile, reverse_append, reverse_singleton, singleton_append,
    dropWhile_cons_of_pos (by decide), hself, reverse_reverse]

/-! ### Cutting at a character -/

lemma splitAtChar_ne_nil (sep : Char) (cs : List Char) : splitAtChar sep cs ≠ [] := by
  cases cs with
  | nil => simp [splitAtChar]
  | cons c cs =>
    rw [splitAtChar]
    split
    · simp
    · split <;> simp

lemma join_splitAtChar (sep : Char) (cs : List Char) : join [sep] (splitAtChar sep cs) = cs := by
  induction cs with
  | nil => rfl
  | cons c cs ih =>
    rw [splitAtChar]
    split
    · next hnil => exact absurd hnil (splitAtChar_ne_nil sep cs)
    · next part rest hsplit =>
      rw [hsplit] at ih
      split
      · next hsep => simp [join, ih, hsep]
      · cases rest with
        | nil | cons => simpa [join] using ih

lemma join_eq_intercalate (sep : List Char) (parts : List (List Char)) :
    join sep parts = sep.intercalate parts := by
  induction parts with
  | nil => rfl
  | cons p parts ih =>
    cases parts with
    | nil => simp [join]
    | cons q parts => rw [join, ih, intercalate_cons_cons]

lemma join_concat (sep : List Char) (h : parts ≠ []) (p : List Char) :
    join sep (parts ++ [p]) = join sep parts ++ (sep ++ p) := by
  induction parts with
  | nil => exact absurd rfl h
  | cons q parts ih =>
    cases parts with
    | nil => simp [join]
    | cons r parts =>
      rw [cons_append, cons_append, join, ← cons_append, ih (by simp), join]
      simp

lemma splitAtText_singleton (sep : Char) {fuel : Nat} {current : List Char} (hfuel : cs.length < fuel)
    (h : splitAtChar sep cs = part :: parts) :
    splitAtText [sep] fuel current cs = (current.reverse ++ part) :: parts := by
  induction cs generalizing fuel current part parts with
  | nil =>
    obtain ⟨fuel, rfl⟩ := Nat.exists_eq_add_one.2 (Nat.lt_of_le_of_lt (Nat.zero_le _) hfuel)
    obtain ⟨rfl, rfl⟩ := List.cons.inj h
    simp [splitAtText]
  | cons c cs ih =>
    obtain ⟨fuel, rfl⟩ := Nat.exists_eq_add_one.2 (Nat.lt_of_le_of_lt (Nat.zero_le _) hfuel)
    have hfuel : cs.length < fuel := by simpa using hfuel
    obtain ⟨part', parts', hcs⟩ := exists_cons_of_ne_nil (splitAtChar_ne_nil sep cs)
    rw [splitAtChar, hcs] at h
    dsimp only at h
    by_cases hc : c = sep
    · rw [if_pos hc] at h
      obtain ⟨rfl, rfl⟩ := List.cons.inj h
      simp [splitAtText, dropFront?, hc, ih hfuel hcs]
    · rw [if_neg hc] at h
      obtain ⟨rfl, rfl⟩ := List.cons.inj h
      simp [splitAtText, dropFront?, Ne.symm hc, ih hfuel hcs]

lemma splitOn_singleton (sep : Char) (cs : List Char) : splitOn [sep] cs = splitAtChar sep cs := by
  obtain ⟨part, parts, hcs⟩ := exists_cons_of_ne_nil (splitAtChar_ne_nil sep cs)
  rw [splitOn, splitAtText_singleton sep (Nat.lt_succ_self _) hcs, hcs]
  rfl

lemma splitAtChar_of_not_mem (h : '\n' ∉ body) : splitAtChar '\n' body = [body] := by
  induction body with
  | nil => rfl
  | cons c cs ih =>
    rw [splitAtChar, ih (not_mem_of_not_mem_cons h)]
    exact if_neg (ne_of_not_mem_cons h).symm

lemma splitAtChar_line (h : '\n' ∉ body) (rest : List Char) :
    splitAtChar '\n' (body ++ '\n' :: rest) = body :: splitAtChar '\n' rest := by
  induction body with
  | nil =>
    obtain ⟨part, parts, hrest⟩ := exists_cons_of_ne_nil (splitAtChar_ne_nil '\n' rest)
    rw [nil_append, splitAtChar, hrest]
    rfl
  | cons c cs ih =>
    rw [cons_append, splitAtChar, ih (not_mem_of_not_mem_cons h)]
    exact if_neg (ne_of_not_mem_cons h).symm

lemma splitAtChar_eq : splitAtChar '\n' cs = (ended cs).map List.dropLast ++ [unended cs] := by
  induction cs using lineInduction with
  | rest body hbody =>
    rw [splitAtChar_of_not_mem hbody, ended_of_not_mem hbody, unended_of_not_mem hbody]
    rfl
  | line body cs hbody ih =>
    rw [splitAtChar_line hbody, ended_line hbody, unended_line hbody, ih]
    simp

lemma not_mem_of_mem_splitAtChar (h : part ∈ splitAtChar sep cs) : sep ∉ part := by
  induction cs generalizing part with
  | nil => simp [mem_singleton.1 h]
  | cons c cs ih =>
    obtain ⟨first, rest, hcs⟩ := exists_cons_of_ne_nil (splitAtChar_ne_nil sep cs)
    rw [hcs] at ih
    rw [splitAtChar, hcs] at h
    dsimp only at h
    split at h
    · rcases mem_cons.1 h with rfl | h
      · simp
      · exact ih h
    · next hc =>
      rcases mem_cons.1 h with rfl | h
      · simp [Ne.symm hc, ih mem_cons_self]
      · exact ih (mem_cons_of_mem _ h)

lemma flatten_splitAtChar : ((splitAtChar '\n' cs).map (· ++ ['\n'])).flatten = cs ++ ['\n'] := by
  induction cs using lineInduction with
  | rest body hbody => simp [splitAtChar_of_not_mem hbody]
  | line body cs hbody ih => simp [splitAtChar_line hbody, ih]

/-! ### Cutting in two -/

lemma cut?_append (h : sep ∉ body) (rest : List Char) :
    cut? sep (body ++ sep :: rest) = some (body, rest) := by
  induction body with
  | nil => simp [cut?]
  | cons c cs ih =>
    simp [cut?, (ne_of_not_mem_cons h).symm, ih (not_mem_of_not_mem_cons h)]

lemma cut?_of_not_mem (h : sep ∉ body) : cut? sep body = none := by
  induction body with
  | nil => rfl
  | cons c cs ih =>
    simp [cut?, (ne_of_not_mem_cons h).symm, ih (not_mem_of_not_mem_cons h)]

lemma cutLast?_of_not_mem (h : sep ∉ body) : cutLast? sep body = none := by
  rw [cutLast?, cut?_of_not_mem (by simpa using h)]
  rfl

lemma exists_last_of_mem (h : sep ∈ body) : ∃ front rest, body = front ++ sep :: rest ∧ sep ∉ rest := by
  obtain ⟨rest, front, hreverse, hrest⟩ := eq_append_cons_of_mem (mem_reverse.2 h)
  refine ⟨front.reverse, rest.reverse, ?_, by simpa using hrest⟩
  rw [← reverse_reverse body, hreverse]
  simp

end SetTop.Text
