import Mathlib.Data.List.Intervals
import Mathlib.Data.List.TakeWhile
import SetTop.Text.Pattern

/-!
Where a pattern can end.

A plain pattern is made of fixed texts, runs of characters and parts that may be missing. `ends` lists
where it can end, the preferred end first, and a run takes the first one that suits what follows
(`run_eq_findSome?`). Text that follows only adds ends that lie in it (`filter_ends_append`). So a
match at the start of a text is a match of the whole of a beginning of it (`exists_matchStart`).
-/

namespace SetTop.Pattern

open Spot

/-! ### Fixed texts and runs of characters

A fixed text leaves no choice, and a run of characters only how long it is. The places where a run can
end are those up to the first character that is not in its set, the furthest one first.
-/

section Runs

variable {s : Spot} {next : Spot → Option Spot} (set : CharSet)

@[simp] lemma advance_zero (s : Spot) : s.advance 0 = s := by simp [advance]

lemma advance_stepOver {c : Char} {rest : List Char} (h : s.rest = c :: rest) (n : Nat) :
    (s.stepOver c rest).advance n = s.advance (n + 1) := by
  simp [advance, stepOver, h]

lemma run_one (c : Char) (rest : List Char) (h : s.rest = c :: rest) :
    (Pattern.one set).run s next = if set.has c then next (s.stepOver c rest) else none := by
  rw [run, h]

lemma run_one_nil (h : s.rest = []) : (Pattern.one set).run s next = none := by
  rw [run, h]

lemma run_text (text : String) : (Pattern.text text).run s next =
      if text.toList.isPrefixOf s.rest then next (s.advance text.toList.length) else none := by
  rw [Pattern.text]
  induction text.toList generalizing s with
  | nil => simp [run]
  | cons c cs ih =>
    rw [List.foldr_cons, run]
    cases hrest : s.rest with
    | nil => simp [run_one_nil _ hrest]
    | cons x rest =>
      rw [run_one _ x rest hrest, ih, advance_stepOver hrest]
      by_cases hc : c = x
      · simp [CharSet.has, hc, stepOver]
      · simp [CharSet.has, hc]

lemma rounds_one {least fuel count : Nat} {last : Option Nat} (hcount : least ≤ count)
    (hfuel : s.rest.length < fuel) (hlast : ∀ n, last = some n → s.rest.length < n) :
    rounds (run (.one set)) least none true next fuel count last s =
      (List.range ((s.rest.takeWhile set.has).length + 1)).reverse.findSome?
        fun n => next (s.advance n) := by
  induction fuel generalizing s count last with
  | zero => omega
  | succ fuel ih =>
    have hmay : mayRepeat none last count s = true := by
      have hne : last ≠ some s.rest.length := fun h => Nat.lt_irrefl _ (hlast _ h)
      simp [mayRepeat, hne]
    rw [rounds, if_neg (by omega)]
    simp only [hmay, Option.orElse_eq_or]
    cases hrest : s.rest with
    | nil => simp [run_one_nil _ hrest]
    | cons c rest =>
      rw [run_one _ c rest hrest]
      by_cases hc : set.has c = true
      · have hstep : (s.stepOver c rest).rest = rest := rfl
        have hshorter : rest.length < fuel := by
          rw [hrest, List.length_cons] at hfuel
          omega
        rw [if_pos hc, List.takeWhile_cons, if_pos hc, List.range_succ_eq_map,
          ih (by omega) (hstep ▸ hshorter) (by simp [hstep])]
        simp only [advance_stepOver hrest, List.reverse_cons, List.findSome?_append,
          ← List.map_reverse, List.findSome?_map, List.findSome?_singleton]
        rfl
      · simp [hc]

lemma run_oneOrMore : (oneOrMore set).run s next =
      (List.range (s.rest.takeWhile set.has).length).reverse.findSome?
        fun n => next (s.advance (n + 1)) := by
  rw [oneOrMore, run, roundLimit, rounds, if_pos Nat.zero_lt_one]
  cases hrest : s.rest with
  | nil => simp [run_one_nil _ hrest]
  | cons c rest =>
    rw [run_one _ c rest hrest]
    by_cases hc : set.has c = true
    · have hstep : (s.stepOver c rest).rest = rest := rfl
      rw [if_pos hc, rounds_one set (Nat.le_refl 1) (by rw [hstep]; simp; omega) (by simp), hstep,
        List.takeWhile_cons, if_pos hc, List.length_cons]
      simp only [advance_stepOver hrest]
    · simp [hc]

lemma run_optional (p : Pattern) : (optional p).run s next = (p.run s next).or (next s) := by
  have hround (last : Option Nat) (t : Spot) :
      rounds (run p) 0 (some 1) true next (s.rest.length + 1) 1 last t = next t := by
    simp [rounds, mayRepeat]
  have hlimit : roundLimit 0 s = s.rest.length + 1 + 1 := by rw [roundLimit, Nat.zero_add]
  have hmay : mayRepeat (some 1) none 0 s = true := rfl
  rw [optional, run, hlimit, rounds, if_neg (Nat.lt_irrefl 0)]
  simp only [hmay, if_true, Option.orElse_eq_or]
  rw [funext (hround _)]

end Runs

/-! ### All ends -/

/-- Whether a pattern is made of fixed texts, runs of characters and parts that may be missing. -/
def isPlain : Pattern → Bool
  | .empty => true
  | .one _ => true
  | .both a b => a.isPlain && b.isPlain
  | .either a b => a.isPlain && b.isPlain
  | .group _ p => p.isPlain
  | .repeated (.one _) 0 none .greedy => true
  | .repeated (.one _) 1 none .greedy => true
  | .repeated p 0 (some 1) .greedy => p.isPlain
  | _ => false

/-- How many characters a match passes, and the groups that it finds, the last one first. -/
abbrev End := Nat × List (String × List Char)

/-- Where a plain pattern can end in a text, the preferred end first. -/
def ends : Pattern → List Char → List End
  | .empty, _ => [(0, [])]
  | .one set, cs => if cs.head?.any set.has then [(1, [])] else []
  | .both a b, cs =>
    (ends a cs).flatMap fun e => (ends b (cs.drop e.1)).map fun f => (e.1 + f.1, f.2 ++ e.2)
  | .either a b, cs => ends a cs ++ ends b cs
  | .group name p, cs => (ends p cs).map fun e => (e.1, (name, cs.take e.1) :: e.2)
  | .repeated (.one set) 0 none .greedy, cs =>
    (List.range ((cs.takeWhile set.has).length + 1)).reverse.map (·, [])
  | .repeated (.one set) 1 none .greedy, cs =>
    (List.range (cs.takeWhile set.has).length).reverse.map (· + 1, [])
  | .repeated p 0 (some 1) .greedy, cs => ends p cs ++ [(0, [])]
  | _, _ => []

/-- The place where a match ends. -/
def after (s : Spot) (e : End) : Spot := { s.advance e.1 with found := e.2 ++ s.found }

lemma after_after (s : Spot) (e f : End) : after (after s e) f = after s (e.1 + f.1, f.2 ++ e.2) := by
  simp [after, advance, List.take_add]

lemma remember_after (name : String) (s : Spot) (e : End) :
    remember name s (after s e) = after s (e.1, (name, s.rest.take e.1) :: e.2) := by
  have htake : s.rest.take (s.rest.length - (s.rest.length - e.1)) = s.rest.take e.1 := by
    rw [Nat.sub_sub_eq_min, Nat.min_comm, ← List.take_eq_take_min]
  simp [remember, after, advance, htake]

lemma findSome?_flatMap {α β γ : Type} (l : List α) (f : α → List β) (g : β → Option γ) :
    (l.flatMap f).findSome? g = l.findSome? fun a => (f a).findSome? g := by
  induction l with
  | nil => rfl
  | cons a l ih =>
    rw [List.flatMap_cons, List.findSome?_append, List.findSome?_cons, ih]
    cases (f a).findSome? g <;> rfl

lemma run_eq_findSome? {p : Pattern} (hp : p.isPlain = true) (s : Spot) (next : Spot → Option Spot) :
    p.run s next = (p.ends s.rest).findSome? fun e => next (after s e) := by
  have hzero (s : Spot) : after s (0, []) = s := by simp [after]
  fun_induction isPlain p generalizing s next with
  | case1 => rw [run, ends, List.findSome?_singleton, hzero]
  | case2 set =>
    cases hrest : s.rest with
    | nil => simp [run_one_nil _ hrest, ends]
    | cons c rest =>
      have hstep : after s (1, []) = s.stepOver c rest := by
        simp [after, advance, stepOver, hrest]
      rw [run_one _ _ _ hrest, ends, List.head?_cons, Option.any_some]
      split
      · rw [List.findSome?_singleton, hstep]
      · rfl
  | case3 a b iha ihb =>
    rw [Bool.and_eq_true] at hp
    rw [run, ends, iha hp.1, findSome?_flatMap]
    refine congrArg (fun f => (a.ends s.rest).findSome? f) (funext fun e => ?_)
    rw [ihb hp.2, List.findSome?_map]
    exact congrArg (fun f => (b.ends (s.rest.drop e.1)).findSome? f)
      (funext fun f => congrArg next (after_after s e f))
  | case4 a b iha ihb =>
    rw [Bool.and_eq_true] at hp
    rw [run, ends, Option.orElse_eq_or, iha hp.1, ihb hp.2, List.findSome?_append]
  | case5 name p ih =>
    rw [run, ends, ih hp, List.findSome?_map]
    exact congrArg (fun f => (p.ends s.rest).findSome? f)
      (funext fun e => congrArg next (remember_after name s e))
  | case6 set =>
    rw [ends, List.findSome?_map]
    exact rounds_one set (Nat.le_refl 0) (by rw [roundLimit]; omega) (by simp)
  | case7 set =>
    rw [ends, List.findSome?_map]
    exact run_oneOrMore set
  | case8 p ih =>
    rw [ends, List.findSome?_append, List.findSome?_singleton, ← ih hp]
    exact run_optional p
  | case9 => cases hp

/-! ### Text that follows -/

lemma filter_range_lt (k m : Nat) : (List.range k).filter (· < m) = List.range (min k m) := by
  rw [← List.Ico.zero_bot, List.Ico.filter_lt, List.Ico.zero_bot]

lemma length_takeWhile_append (q : Char → Bool) (cs more : List Char) :
    (cs.takeWhile q).length = min ((cs ++ more).takeWhile q).length cs.length := by
  induction cs with
  | nil => simp
  | cons c cs ih =>
    by_cases hc : q c = true
    · simp only [List.cons_append, List.takeWhile_cons_of_pos hc, List.length_cons]
      omega
    · simp [hc]

lemma flatMap_filter {α β : Type} (l : List α) (q : α → Bool) (f : α → List β) :
    (l.filter q).flatMap f = l.flatMap fun a => if q a then f a else [] := by
  induction l with
  | nil => rfl
  | cons a l ih => by_cases h : q a = true <;> simp [h, ih]

lemma filter_ends_append {p : Pattern} (hp : p.isPlain = true) (cs more : List Char) :
    (p.ends (cs ++ more)).filter (·.1 ≤ cs.length) = p.ends cs := by
  fun_induction isPlain p generalizing cs with
  | case1 => rfl
  | case2 set =>
    cases cs with
    | nil => simp [ends]
    | cons c cs =>
      rw [ends, ends, List.cons_append, List.head?_cons, List.head?_cons]
      split <;> simp
  | case3 a b iha ihb =>
    rw [Bool.and_eq_true] at hp
    rw [ends, ends, List.filter_flatMap, ← iha hp.1 cs, flatMap_filter]
    refine List.flatMap_congr fun e _ => ?_
    by_cases he : e.1 ≤ cs.length
    · rw [if_pos (decide_eq_true he), List.filter_map, List.drop_append_of_le_length he,
        ← ihb hp.2 (cs.drop e.1)]
      have hbound : (fun f : End => decide (e.1 + f.1 ≤ cs.length)) =
          fun f => decide (f.1 ≤ (cs.drop e.1).length) := by
        refine funext fun f => decide_eq_decide.2 ?_
        rw [List.length_drop]
        omega
      exact congrArg _ (congrArg (List.filter · _) hbound)
    · rw [if_neg (by simpa using he), List.filter_eq_nil_iff]
      intro g hg
      obtain ⟨f, -, rfl⟩ := List.mem_map.1 hg
      exact fun h => he (Nat.le_trans (Nat.le_add_right _ _) (of_decide_eq_true h))
  | case4 a b iha ihb =>
    rw [Bool.and_eq_true] at hp
    rw [ends, ends, List.filter_append, iha hp.1, ihb hp.2]
  | case5 name p ih =>
    rw [ends, ends, List.filter_map, ← ih hp cs]
    refine List.map_congr_left fun e he => ?_
    have hle : e.1 ≤ cs.length := by simpa using (List.mem_filter.1 he).2
    rw [List.take_append_of_le_length hle]
  | case6 set =>
    rw [ends, ends, List.filter_map, length_takeWhile_append set.has cs more,
      ← Nat.add_min_add_right, ← filter_range_lt]
    simp [Function.comp_def, Nat.lt_succ_iff]
  | case7 set =>
    rw [ends, ends, List.filter_map, List.filter_reverse, length_takeWhile_append set.has cs more,
      ← filter_range_lt]
    rfl
  | case8 p ih =>
    rw [ends, ends, List.filter_append, ih hp]
    rfl
  | case9 => cases hp

/-! ### Matching at the start -/

section Matching

variable {p : Pattern} {cs front : List Char}

section Plain

variable (hp : p.isPlain = true)

include hp

lemma matchStart_eq_map (cs : List Char) :
    p.matchStart cs = (p.ends cs).head?.map (after (startOf cs)) := by
  rw [matchStart, run_eq_findSome? hp, startOf]
  cases p.ends cs <;> rfl

lemma matchesWhole_iff : p.matchesWhole cs = true ↔ ∃ e ∈ p.ends cs, cs.length ≤ e.1 := by
  rw [matchesWhole, run_eq_findSome? hp]
  simp [after, startOf, advance]

lemma le_length_of_mem_ends {e : End} (he : e ∈ p.ends cs) : e.1 ≤ cs.length := by
  rw [← filter_ends_append hp cs [], List.mem_filter] at he
  exact of_decide_eq_true he.2

/-- A match at the start of a text is one of a beginning that it matches whole, and of this beginning
alone it makes the same. -/
lemma exists_matchStart {t : Spot} (h : p.matchStart cs = some t) :
    ∃ front, cs = front ++ t.rest ∧ p.matchesWhole front = true ∧
      p.matchStart front = some { t with rest := [] } := by
  rw [matchStart_eq_map hp] at h
  obtain ⟨e, he, rfl⟩ := Option.map_eq_some_iff.1 h
  obtain ⟨more, hmore⟩ := List.head?_eq_some_iff.1 he
  have hle : e.1 ≤ cs.length := le_length_of_mem_ends hp (List.mem_of_head? he)
  have hlength : (cs.take e.1).length = e.1 := List.length_take_of_le hle
  have hfirst : (p.ends (cs.take e.1)).head? = some e := by
    rw [← filter_ends_append hp _ (cs.drop e.1), List.take_append_drop, hlength, hmore]
    simp
  refine ⟨cs.take e.1, ?_, (matchesWhole_iff hp).2 ⟨e, List.mem_of_head? hfirst, ?_⟩, ?_⟩
  · simp [after, advance, startOf]
  · rw [hlength]
  · rw [matchStart_eq_map hp, hfirst]
    simp [after, advance, startOf, List.take_take]

lemma matchStart_append (more : List Char)
    (h : (p.matchStart front).isSome = true) : (p.matchStart (front ++ more)).isSome = true := by
  rw [matchStart_eq_map hp, Option.isSome_map, List.isSome_head?] at h ⊢
  intro hnil
  rw [← filter_ends_append hp front more, hnil] at h
  exact h rfl

lemma matchStart_isSome_iff :
    (p.matchStart cs).isSome = true ↔ ∃ front, front <+: cs ∧ p.matchesWhole front = true := by
  constructor
  · intro h
    obtain ⟨t, ht⟩ := Option.isSome_iff_exists.1 h
    obtain ⟨front, hcs, hwhole, -⟩ := exists_matchStart hp ht
    exact ⟨front, ⟨t.rest, hcs.symm⟩, hwhole⟩
  · rintro ⟨front, ⟨more, rfl⟩, hwhole⟩
    obtain ⟨e, he, -⟩ := (matchesWhole_iff hp).1 hwhole
    refine matchStart_append hp more ?_
    rw [matchStart_eq_map hp, Option.isSome_map, List.isSome_head?]
    exact List.ne_nil_of_mem he

end Plain

end Matching

/-! ### Fields

A field is a run of characters with a blank behind it. If the blank is not in the set of the run, then
the blank tells where the run ends, and no choice is left.
-/

/-- The field that a text begins with, and what follows the blank. -/
def field? (set : CharSet) (cs : List Char) : Option (List Char × List Char) :=
  if cs.takeWhile set.has ≠ [] ∧ (cs.dropWhile set.has).head? = some ' ' then
    some (cs.takeWhile set.has, (cs.dropWhile set.has).tail)
  else none

lemma field?_append {set : CharSet} {word : List Char} (hne : word ≠ [])
    (hword : ∀ c ∈ word, set.has c = true) (hblank : set.has ' ' = false) (rest : List Char) :
    field? set (word ++ ' ' :: rest) = some (word, rest) := by
  have htake : (word ++ ' ' :: rest).takeWhile set.has = word := by
    rw [List.takeWhile_append_of_pos hword, List.takeWhile_cons, hblank]
    simp
  have hdrop : (word ++ ' ' :: rest).dropWhile set.has = ' ' :: rest := by
    rw [List.dropWhile_append_of_pos hword, List.dropWhile_cons, hblank]
    simp
  rw [field?, htake, hdrop, if_pos ⟨hne, rfl⟩]
  rfl

lemma findSome?_range_reverse {β : Type} {f : Nat → Option β} {m : Nat} (h : ∀ n < m, f n = none) :
    (List.range (m + 1)).reverse.findSome? f = f m := by
  have hnone : (List.range m).reverse.findSome? f = none := by simpa using h
  rw [List.range_succ, List.reverse_append, List.reverse_singleton, List.findSome?_append,
    List.findSome?_singleton, hnone, Option.or_none]

lemma run_blank_after (s : Spot) (e : End) (next : Spot → Option Spot) :
    (Pattern.one (.char ' ')).run (after s e) next =
      if (s.rest.drop e.1).head? = some ' ' then next (after s (e.1 + 1, e.2)) else none := by
  rw [run_eq_findSome? rfl]
  change (if (s.rest.drop e.1).head?.any (' ' == ·) then [(1, [])] else []).findSome? _ = _
  cases (s.rest.drop e.1).head? with
  | none => rfl
  | some c =>
    by_cases hc : ' ' = c
    · subst hc
      simp [after_after]
    · simp [hc, Ne.symm hc]

lemma run_field (mark : List Char → List (String × List Char)) {p : Pattern} {set : CharSet}
    (hp : p.isPlain = true) (hblank : set.has ' ' = false)
    (hends : ∀ cs, p.ends cs = (List.range (cs.takeWhile set.has).length).reverse.map
      fun n => (n + 1, mark (cs.take (n + 1)))) (s : Spot) (next : Spot → Option Spot) :
    p.run s (fun t => (Pattern.one (.char ' ')).run t next) = (field? set s.rest).bind fun found =>
      next (after s (found.1.length + 1, mark found.1)) := by
  have hsplit := List.takeWhile_append_dropWhile (p := set.has) (l := s.rest)
  rw [run_eq_findSome? hp, hends, List.findSome?_map, field?]
  cases hrun : s.rest.takeWhile set.has with
  | nil => rfl
  | cons c word =>
    rw [hrun] at hsplit
    have htake : s.rest.take (word.length + 1) = c :: word := by rw [← hsplit]; simp
    have hdrop : s.rest.drop (word.length + 1) = s.rest.dropWhile set.has := by
      rw [← List.append_cancel_left_eq (c :: word), hsplit, ← htake, List.take_append_drop]
    -- inside the run there is no blank
    have hinside : ∀ n < word.length, (s.rest.drop (n + 1)).head? ≠ some ' ' := by
      intro n hn hhead
      rw [List.head?_drop, ← hsplit, List.getElem?_append_left (by simpa using hn)] at hhead
      have hmem : ' ' ∈ s.rest.takeWhile set.has := hrun ▸ List.mem_of_getElem? hhead
      rw [List.mem_takeWhile_imp hmem] at hblank
      cases hblank
    rw [List.length_cons, findSome?_range_reverse]
    · rw [Function.comp_apply, run_blank_after, htake, hdrop]
      by_cases hhead : (s.rest.dropWhile set.has).head? = some ' '
      · rw [if_pos hhead, if_pos ⟨List.cons_ne_nil _ _, hhead⟩]
        rfl
      · rw [if_neg hhead, if_neg fun h => hhead h.2]
        rfl
    · intro n hn
      rw [Function.comp_apply, run_blank_after, if_neg (hinside n hn)]

end SetTop.Pattern
