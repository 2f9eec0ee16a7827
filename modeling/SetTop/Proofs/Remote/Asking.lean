import SetTop.Proofs.Text.Ends
import SetTop.Remote.Relay

/-!
How a relay understands a request.

A request is one line, with the name of a control and a key. The relay takes for the key what it reads
of it as a word, and so it presses the front of a key in which another character stands.
-/

namespace SetTop.Relay

open Pattern String

/-- The word that a key begins with. -/
def wordFront (key : String) : List Char := key.toList.takeWhile CharSet.word.has

variable (control key : String)

/-- The key that the relay presses when it is asked for one. -/
def pressed? : Option String :=
  if control.toList = [] ∨ wordFront key = [] then none else some (ofList (wordFront key))

def line : List Char :=
  "SEND_ONCE ".toList ++ (control.toList ++ ' ' :: key.toList)

lemma request_eq : Lirc.request control key = "SEND_ONCE " ++ control ++ " " ++ key ++ "\n" := rfl

lemma toList_request : (Lirc.request control key).toList = line control key ++ ['\n'] := by
  have hblank : " ".toList = [' '] := rfl
  have hend : "\n".toList = ['\n'] := rfl
  rw [request_eq, toList_append, toList_append, toList_append,
    toList_append, hblank, hend]
  unfold line
  simp only [List.append_assoc, List.cons_append, List.nil_append]

variable {control key : String}

lemma word_blank : CharSet.word.has ' ' = false := by decide +kernel

lemma word_newline : CharSet.word.has '\n' = false := by decide +kernel

lemma pressed?_eq_some_self_iff : pressed? control key = some key ↔
    control ≠ "" ∧ key ≠ "" ∧ ∀ c ∈ key.toList, CharSet.word.has c = true := by
  have hempty (s : String) : s ≠ "" ↔ s.toList ≠ [] := not_congr toList_eq_nil_iff.symm
  have hfront : wordFront key = key.toList ↔ ∀ c ∈ key.toList, CharSet.word.has c = true :=
    List.takeWhile_eq_self_iff
  rw [← hfront, pressed?, hempty, hempty]
  constructor
  · intro h
    split at h
    · cases h
    · rename_i hne
      rw [not_or] at hne
      have hself := congrArg toList (Option.some.inj h)
      rw [toList_ofList] at hself
      exact ⟨hne.1, hself ▸ hne.2, hself⟩
  · rintro ⟨hcontrol, hkey, hself⟩
    rw [hself, if_neg (not_or.2 ⟨hcontrol, hkey⟩), ofList_toList]

example : pressed? "stbt" "KEY OK" = some "KEY" := by decide +kernel

lemma run_word (s : Spot) (next : Spot → Spot) : (oneOrMore .word).run s (fun t => some (next t)) =
      if s.rest.takeWhile CharSet.word.has = [] then none
      else some (next (s.advance (s.rest.takeWhile CharSet.word.has).length)) := by
  rw [run_oneOrMore]
  cases s.rest.takeWhile CharSet.word.has with
  | nil => rfl
  | cons c word =>
    rw [List.length_cons, List.range_succ, List.reverse_append]
    rfl

lemma group_key (s : Spot) :
    ((group "key" (oneOrMore .word)).run s some).bind (·.group? "key") =
      if s.rest.takeWhile CharSet.word.has = [] then none
      else some (ofList (s.rest.takeWhile CharSet.word.has)) := by
  change ((oneOrMore .word).run s fun t => some (Spot.remember "key" s t)).bind _ = _
  have hremember (n : Nat) : Spot.remember "key" s (s.advance n) = after s (n, [("key", s.rest.take n)]) :=
    remember_after "key" s (n, [])
  rw [run_word, hremember, ← List.prefix_iff_eq_take.1 (List.takeWhile_prefix _)]
  split <;> rfl

lemma command?_line (hname : ∀ c ∈ control.toList, CharSet.word.has c = true) :
    command? (line control key) = pressed? control key := by
  obtain ⟨s, hs, hrest⟩ : ∃ s : Spot,
      (startOf (line control key)).advance "SEND_ONCE ".toList.length = s ∧
        s.rest = control.toList ++ ' ' :: key.toList :=
    ⟨_, rfl, List.drop_left⟩
  have hfront : "SEND_ONCE ".toList.isPrefixOf (startOf (line control key)).rest = true :=
    List.isPrefixOf_iff_prefix.2 (List.prefix_append _ _)
  have hrun : commandPattern.matchStart (line control key) =
      (field? .word s.rest).bind fun found => (group "key" (oneOrMore .word)).run
        (after s (found.1.length + 1, [("ctrl", found.1)])) some := by
    change (text "SEND_ONCE ").run (startOf (line control key)) (fun u =>
      (group "ctrl" (oneOrMore .word)).run u fun t => (one (.char ' ')).run t
        fun v => (group "key" (oneOrMore .word)).run v some) = _
    rw [run_text, hs]
    refine run_field (fun w => [("ctrl", w)]) rfl word_blank (fun cs => ?_) s _
    rw [ends, oneOrMore, ends, List.map_map]
    rfl
  rw [command?, hrun, hrest, pressed?]
  by_cases hcontrol : control.toList = []
  · rw [hcontrol, List.nil_append, field?, List.takeWhile_cons, word_blank]
    rfl
  · have hleft : (after s (control.toList.length + 1, [("ctrl", control.toList)])).rest = key.toList := by
      simp [after, Spot.advance, hrest]
    rw [field?_append hcontrol hname word_blank, Option.bind_some, group_key, hleft, wordFront]
    simp only [hcontrol, false_or]

end SetTop.Relay
