import SetTop.Proofs.State.Cutting
import SetTop.Proofs.State.Views

/-!
Lines that fail.

A line fails if it is malformed or if one of its changes has no object to go into. The lines behind
it are carried out as behind any other line. But its changes are made one by one, and those in front
of the one that fails stay made: the state is as it was before the line only if they come to nothing
(`failed_line_keeps_changes`).
-/

namespace SetTop.State

open List

open Text (ended)

/-- The state after one change, if it can be made. -/
def change (state : Json) (c : String × Json) : Option Json := setAt (wayOf c.1) c.2 state

/-- Whether carrying out a line fails. -/
def fails (state : Json) (line : List Char) : Bool :=
  match readLine line with
  | .changes c => !(makeChanges state (inOrder c)).2
  | .other => false
  | .malformed => true

section

variable {line : List Char} {c : Changes} (h : readLine line = .changes c) (state : Json)

include h

lemma effect_of_changes : effect state line = (makeChanges state (inOrder c)).1 := by
  rw [effect, h]

lemma fails_of_changes : fails state line = !(makeChanges state (inOrder c)).2 := by
  rw [fails, h]

end

lemma isOther_of_fails {state : Json} {line : List Char} (h : fails state line = true) :
    isOther line = false := by
  rw [fails] at h
  rw [isOther]
  cases hread : readLine line with
  | other =>
    rw [hread] at h
    cases h
  | changes | malformed => rfl

/-! ### Changes that cannot be made -/

lemma setAt_eq_none_iff {way : List String} (hway : way ≠ []) (value state : Json) :
    setAt way value state = none ↔
      ∀ fields, partAt? way.dropLast state ≠ some (.object fields) := by
  induction way generalizing state with
  | nil => exact absurd rfl hway
  | cons k way ih =>
    cases way with
    | nil => cases state <;> simp [setAt, partAt?]
    | cons k' way =>
      rw [dropLast_cons_of_ne_nil (by simp), partAt?]
      cases state with
      | object fields =>
        rw [setAt.eq_3 _ _ _ _ (by simp), Json.field?]
        cases fields.lookup k with
        | none => simp
        | some inner => simpa using ih (by simp) inner
      | _ => simp [setAt, Json.field?]

lemma makeChanges_eq_false {state state' : Json} {changes : Changes}
    (h : makeChanges state changes = (state', false)) :
    ∃ made c unmade, changes = made ++ c :: unmade ∧ made.foldlM change state = some state' ∧
      change state' c = none := by
  induction changes generalizing state with
  | nil => cases h
  | cons c changes ih =>
    obtain ⟨way, value⟩ := c
    rw [makeChanges] at h
    cases hset : setAt (splitAtCharacter '.' way) value state with
    | none =>
      rw [hset] at h
      cases h
      exact ⟨[], (way, value), changes, rfl, rfl, hset⟩
    | some state₁ =>
      rw [hset] at h
      obtain ⟨made, c, unmade, rfl, hmade, hc⟩ := ih h
      refine ⟨(way, value) :: made, c, unmade, rfl, ?_, hc⟩
      rw [foldlM_cons, change, hset]
      exact hmade

/-! ### Lines behind a line that fails -/

lemma heeded_append {front : List (List Char)} (hfront : front.any isOther = false)
    (back : List (List Char)) : heeded (front ++ back) = front ++ heeded back := by
  induction front with
  | nil => rfl
  | cons line front ih =>
    obtain ⟨hline, hrest⟩ := Bool.or_eq_false_iff.1 hfront
    rw [cons_append, heeded, hline, ih hrest]
    rfl

/-- **What a line that fails leaves behind.** The lines behind it are carried out from the state
that it leaves. That is the state before it, if the line is malformed. Otherwise the changes in
front of the first one that has no object to go into stay made, and so the state is as it was
exactly if they come to nothing. -/
theorem failed_line_keeps_changes (r : Receiver) {text line : List Char}
    {front back : List (List Char)} (hlines : ended (r.pending ++ text) = front ++ line :: back)
    (hfront : front.any isOther = false) (hfails : fails (front.foldl effect r.state) line = true) :
    let before := front.foldl effect r.state
    let after := effect before line
    (r.write text).1 = ⟨(heeded back).foldl effect after, kept (r.pending ++ text)⟩ ∧
      (readLine line = .malformed ∧ after = before ∨
        ∃ c made failing unmade, readLine line = .changes c ∧
          inOrder c = made ++ failing :: unmade ∧
          made.foldlM change before = some after ∧
          (∀ fields, partAt? (wayOf failing.1).dropLast after ≠ some (.object fields)) ∧
          (after = before ↔ made.foldlM change before = some before)) := by
  intro before after
  refine ⟨?_, ?_⟩
  · rw [Receiver.write_eq, hlines, heeded_append hfront, heeded, isOther_of_fails hfails,
      foldl_append]
    rfl
  cases hread : readLine line with
  | other => simp [fails, hread] at hfails
  | malformed =>
    refine .inl ⟨rfl, ?_⟩
    show effect before line = before
    rw [effect, hread]
  | changes c =>
    have hafter : after = (makeChanges before (inOrder c)).1 := effect_of_changes hread before
    have hfalse : (makeChanges before (inOrder c)).2 = false := by
      simpa [fails_of_changes hread] using hfails
    have hmake : makeChanges before (inOrder c) = (after, false) := Prod.ext hafter.symm hfalse
    obtain ⟨made, failing, unmade, horder, hmade, hfailing⟩ := makeChanges_eq_false hmake
    refine .inr ⟨c, made, failing, unmade, rfl, horder, hmade, ?_, ?_⟩
    · exact (setAt_eq_none_iff (wayOf_ne_nil failing.1) failing.2 after).1 hfailing
    · rw [hmade, Option.some.injEq]

/-- The names of what a message changes. -/
def Incoming.names : Incoming → List String
  | .changes c => c.map Prod.fst
  | _ => []

lemma inOrder_pair {a b : String × Json} (h : a.1.length ≤ b.1.length) :
    inOrder [a, b] = [a, b] := by
  simp [inOrder, mergeSort, h]

def halfGood : List Char :=
  "\x7b\"state_change\": \x7b\"changes\": \x7b\"fan\": 1, \"tv.power\": 1\x7d\x7d\x7d\r\n".toList

lemma makeChanges_halfGood : ∃ c value, readLine halfGood = .changes c ∧
    makeChanges (.object []) (inOrder c) = (.object [("fan", value)], false) := by
  have hnames : (readLine halfGood).names = ["fan", "tv.power"] := by decide +kernel
  have hfan : splitAtCharacter '.' "fan" = ["fan"] := by decide +kernel
  have hpower : splitAtCharacter '.' "tv.power" = ["tv", "power"] := by decide +kernel
  cases hread : readLine halfGood with
  | other | malformed => simp [hread, Incoming.names] at hnames
  | changes c =>
    obtain ⟨fan, power, rfl⟩ : ∃ fan power, c = [("fan", fan), ("tv.power", power)] := by
      simpa [hread, Incoming.names, map_eq_cons_iff] using hnames
    refine ⟨_, fan, rfl, ?_⟩
    rw [inOrder_pair (show "fan".length ≤ "tv.power".length by decide)]
    show makeChanges (.object [("fan", fan)]) [("tv.power", power)] = _
    rw [makeChanges, hpower]
    rfl

/-- The first change of the message stays made, and the line behind it is carried out. -/
theorem half_good_message_is_half_made :
    fails (.object []) halfGood = true ∧
      ∃ value, effect (.object []) halfGood = .object [("fan", value)] ∧
        (Receiver.write {} (halfGood ++ lamp)).1 =
          ⟨effect (.object [("fan", value)]) lamp, []⟩ := by
  obtain ⟨c, value, hread, hmade⟩ := makeChanges_halfGood
  have hfails : fails (.object []) halfGood = true := by
    rw [fails_of_changes hread, hmade]
    rfl
  have heffect : effect (.object []) halfGood = .object [("fan", value)] := by
    rw [effect_of_changes hread, hmade]
  have hlines : ended ([] ++ (halfGood ++ lamp)) = [] ++ halfGood :: [lamp] := by decide +kernel
  have hheeded : heeded [lamp] = [lamp] := by decide +kernel
  have hkept : kept ([] ++ (halfGood ++ lamp)) = [] := by
    have hplain : ([halfGood, lamp].any isOther) = false := by decide +kernel
    have hnone : Text.unended ([] ++ (halfGood ++ lamp)) = [] := by decide +kernel
    rw [kept, hlines, nil_append, hplain, hnone]
    rfl
  obtain ⟨hwrite, -⟩ := failed_line_keeps_changes {} hlines rfl hfails
  refine ⟨hfails, value, heffect, hwrite.trans ?_⟩
  rw [hheeded, foldl_cons, foldl_nil, foldl_nil, heffect, hkept]

end SetTop.State
