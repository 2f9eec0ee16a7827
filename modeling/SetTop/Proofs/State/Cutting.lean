import SetTop.Proofs.Text.Lines
import SetTop.State.Receiver

/-!
A receiver and the ways of cutting a text.

A line that has not ended waits for the rest of it, so a cut inside a line makes no difference. A
line of another type does: it ends the piece it arrives in, and what stood behind it there is never
heard of again. What a receiver hears is thus a part of the text, given by `heard`, and the state is
the effect of the lines in that part. It is the whole text exactly if every line of another type is
the last of its piece.
-/

namespace SetTop.State

open List Text Receiver
open Text (ended unended)

/-- The state after a line: changes are made, and any other line is skipped. -/
def effect (state : Json) (line : List Char) : Json :=
  match readLine line with
  | .changes c => (makeChanges state (inOrder c)).1
  | _ => state

/-- Whether a line is a message of another type. -/
def isOther (line : List Char) : Bool :=
  match readLine line with
  | .other => true
  | _ => false

/-- The lines up to the first of another type, with it. -/
def heeded : List (List Char) → List (List Char)
  | [] => []
  | line :: rest => if isOther line then [line] else line :: heeded rest

/-- What is left for later of a text: nothing if a line of another type is in it. -/
def kept (text : List Char) : List Char := if (ended text).any isOther then [] else unended text

/-- The part of a text that a receiver hears, behind what it kept, if it arrives in pieces. -/
def heard (pending : List Char) : List (List Char) → List Char
  | [] => pending
  | piece :: rest =>
    (heeded (ended (pending ++ piece))).flatten ++ heard (kept (pending ++ piece)) rest

def Receiver.writeAll (r : Receiver) (pieces : List (List Char)) : Receiver :=
  pieces.foldl (fun r piece => (r.write piece).1) r

/-! ### One piece -/

variable {ls front : List (List Char)} {text line : List Char}

lemma heeded_of_any_eq_false (h : ls.any isOther = false) : heeded ls = ls := by
  induction ls with
  | nil => rfl
  | cons line ls ih =>
    obtain ⟨hline, hls⟩ := Bool.or_eq_false_iff.1 h
    rw [heeded, hline, ih hls]
    rfl

lemma exists_heeded (h : ls.any isOther = true) :
    ∃ front line back, ls = front ++ line :: back ∧ isOther line = true ∧
      front.any isOther = false ∧ heeded ls = front ++ [line] := by
  induction ls with
  | nil => cases h
  | cons line ls ih =>
    cases hline : isOther line with
    | true => exact ⟨[], line, ls, rfl, hline, rfl, by rw [heeded, hline]; rfl⟩
    | false =>
      rw [any_cons, hline] at h
      obtain ⟨front, other, back, rfl, hother, hfront, hheeded⟩ := ih h
      refine ⟨line :: front, other, back, rfl, hother, ?_, ?_⟩
      · rw [any_cons, hline, hfront]
        rfl
      · rw [heeded, hline, hheeded]
        rfl

lemma isPrefix_heeded (ls : List (List Char)) : heeded ls <+: ls := by
  cases h : ls.any isOther with
  | false => exact ⟨[], by rw [heeded_of_any_eq_false h, append_nil]⟩
  | true =>
    obtain ⟨front, line, back, rfl, -, -, hheeded⟩ := exists_heeded h
    rw [hheeded]
    exact ⟨back, by simp⟩

namespace Receiver

lemma obey_eq (state : Json) {ls : List (List Char)} {rest : List Char}
    (hls : ∀ line ∈ ls, Text.IsEnded line) (hrest : '\n' ∉ rest) :
    (obey ⟨state, []⟩ (ls ++ if rest = [] then [] else [rest])).1 =
      ⟨(heeded ls).foldl effect state, if ls.any isOther then [] else rest⟩ := by
  induction ls generalizing state with
  | nil =>
    have hlast : rest.getLast? ≠ some '\n' := fun h => hrest (mem_of_getLast? h)
    by_cases hnil : rest = []
    · rw [hnil]
      rfl
    · rw [if_neg hnil, nil_append, obey, if_pos hlast]
      rfl
  | cons line ls ih =>
    obtain ⟨body, hbody, -⟩ := hls line (by simp)
    have hlast : ¬line.getLast? ≠ some '\n' := by simp [hbody]
    have hnext (state : Json) := ih state fun l hl => hls l (by simp [hl])
    rw [cons_append, obey, if_neg hlast]
    cases hread : readLine line with
    | other => simp [heeded, isOther, effect, hread]
    | malformed => simpa [heeded, isOther, effect, hread] using hnext state
    | changes c =>
      simpa [heeded, isOther, effect, hread] using hnext (makeChanges state (inOrder c)).1

lemma write_eq (r : Receiver) (text : List Char) : (r.write text).1 =
      ⟨(heeded (ended (r.pending ++ text))).foldl effect r.state, kept (r.pending ++ text)⟩ := by
  rw [write, lines_eq]
  exact obey_eq _ (fun _ => isEnded_of_mem_ended) (not_mem_unended _)

end Receiver

lemma not_mem_kept (text : List Char) : '\n' ∉ kept text := by
  rw [kept]
  split
  · simp
  · exact not_mem_unended text

lemma heeded_lines (h : line ∈ heeded (ended text)) : Text.IsEnded line :=
  isEnded_of_mem_ended ((isPrefix_heeded _).subset h)

/-! ### All pieces -/

lemma Receiver.writeAll_eq (r : Receiver) (h : '\n' ∉ r.pending) (pieces : List (List Char)) :
    r.writeAll pieces = ⟨(ended (heard r.pending pieces)).foldl effect r.state,
        unended (heard r.pending pieces)⟩ := by
  induction pieces generalizing r with
  | nil =>
    rw [heard, ended_of_not_mem h, unended_of_not_mem h]
    rfl
  | cons piece pieces ih =>
    have hnext : r.writeAll (piece :: pieces) = ((r.write piece).1).writeAll pieces := rfl
    have hlines : ∀ line ∈ heeded (ended (r.pending ++ piece)), Text.IsEnded line :=
      fun _ => heeded_lines
    have hsplit := splitEnded_flatten_append hlines (heard (kept (r.pending ++ piece)) pieces)
    rw [hnext, write_eq, ih _ (not_mem_kept _), heard, hsplit.1, hsplit.2, foldl_append]

/-! ### When everything is heard -/

/-- Every line of another type is the last of the piece that it ends in. -/
def OthersEndPieces (pending : List Char) (pieces : List (List Char)) : Prop :=
  ∀ front line back, ended (pending ++ pieces.flatten) = front ++ line :: back →
    isOther line = true →
    ∃ n, pending ++ (pieces.take n).flatten = front.flatten ++ line

variable {pending piece : List Char} {pieces : List (List Char)}

lemma ne_flatten_append (h : '\n' ∉ pending) (hline : line ∈ ended text) :
    pending ≠ front.flatten ++ line := by
  rintro rfl
  obtain ⟨body, rfl, -⟩ := isEnded_of_mem_ended hline
  exact h (by simp)

lemma othersEndPieces_cons (h : '\n' ∉ pending) : OthersEndPieces pending (piece :: pieces) ↔
      (∀ front line back, ended (pending ++ piece) = front ++ line :: back → isOther line = true →
        pending ++ piece = front.flatten ++ line) ∧
      OthersEndPieces (unended (pending ++ piece)) pieces := by
  have htext : ended (pending ++ (piece :: pieces).flatten) =
      ended (pending ++ piece) ++ ended (unended (pending ++ piece) ++ pieces.flatten) := by
    rw [flatten_cons, ← append_assoc, ended_append]
  have hbuf := flatten_ended (pending ++ piece)
  constructor
  · intro hall
    refine ⟨fun front line back hsplit hother => ?_, fun front line back hsplit hother => ?_⟩
    · have hmem : line ∈ ended (pending ++ piece) := by simp [hsplit]
      obtain ⟨n, hn⟩ := hall front line
        (back ++ ended (unended (pending ++ piece) ++ pieces.flatten))
        (by rw [htext, hsplit, append_assoc, cons_append]) hother
      cases n with
      | zero => exact absurd (by simpa using hn) (ne_flatten_append h hmem)
      | succ n =>
        rw [hsplit] at hbuf
        rw [take_succ_cons, flatten_cons, ← append_assoc, ← hbuf] at hn
        have hnone : back.flatten = [] ∧ unended (pending ++ piece) = [] := by
          have := congrArg List.length hn
          simp only [flatten_append, flatten_cons, length_append] at this
          exact ⟨eq_nil_of_length_eq_zero (by omega), eq_nil_of_length_eq_zero (by omega)⟩
        rw [← hbuf, hnone.2]
        simp [hnone.1]
    · have hmem : line ∈ ended (unended (pending ++ piece) ++ pieces.flatten) := by simp [hsplit]
      obtain ⟨n, hn⟩ := hall (ended (pending ++ piece) ++ front) line back
        (by rw [htext, hsplit, append_assoc]) hother
      cases n with
      | zero =>
        have hzero : pending = (ended (pending ++ piece) ++ front).flatten ++ line := by
          simpa using hn
        exact absurd hzero (ne_flatten_append h hmem)
      | succ n =>
        refine ⟨n, (append_right_inj (ended (pending ++ piece)).flatten).1 ?_⟩
        rw [← append_assoc]
        simpa using hn
  · rintro ⟨hfirst, hrest⟩ front line back hsplit hother
    rw [htext] at hsplit
    rcases append_eq_append_iff.1 hsplit with ⟨front', rfl, hlater⟩ | ⟨inner, hnow, hlater⟩
    · obtain ⟨n, hn⟩ := hrest front' line back hlater hother
      refine ⟨n + 1, ?_⟩
      rw [take_succ_cons, flatten_cons, ← append_assoc, ← hbuf, append_assoc, hn]
      simp
    · cases inner with
      | nil =>
        obtain ⟨n, hn⟩ := hrest [] line back (by simpa using hlater.symm) hother
        refine ⟨n + 1, ?_⟩
        rw [take_succ_cons, flatten_cons, ← append_assoc, ← hbuf, append_assoc, hn, hnow]
        simp
      | cons l inner =>
        obtain ⟨rfl, -⟩ := List.cons.inj hlater
        exact ⟨1, by simpa using hfirst front line inner hnow hother⟩

lemma length_heard_le (pending : List Char) (pieces : List (List Char)) :
    (heard pending pieces).length ≤ (pending ++ pieces.flatten).length := by
  induction pieces generalizing pending with
  | nil => simp [heard]
  | cons piece pieces ih =>
    have hbuf := congrArg List.length (flatten_ended (pending ++ piece))
    obtain ⟨back, hback⟩ := isPrefix_heeded (ended (pending ++ piece))
    have hkept : (kept (pending ++ piece)).length ≤ (unended (pending ++ piece)).length := by
      rw [kept]
      split <;> simp
    have hnext := ih (kept (pending ++ piece))
    rw [← hback] at hbuf
    simp only [heard, flatten_append, flatten_cons, length_append] at hbuf hnext ⊢
    omega

lemma flatten_ended_append_inj {buf xs ys : List Char} :
    (ended buf).flatten ++ xs = buf ++ ys ↔ xs = unended buf ++ ys := by
  have hbuf : buf ++ ys = (ended buf).flatten ++ (unended buf ++ ys) := by
    rw [← append_assoc, flatten_ended]
  rw [hbuf, append_right_inj]

lemma eq_of_concat_eq {front' back : List (List Char)} {line' : List Char}
    (hfront : front.any isOther = false) (hother : isOther line' = true)
    (h : front ++ [line] = front' ++ line' :: back) : front' = front ∧ line' = line := by
  rcases eq_nil_or_concat back with rfl | ⟨init, last, rfl⟩
  · obtain ⟨rfl, hline⟩ := append_inj' h rfl
    exact ⟨rfl, (singleton_inj.1 hline).symm⟩
  · have h' : front ++ [line] = (front' ++ line' :: init) ++ [last] := by simpa using h
    obtain ⟨rfl, -⟩ := append_inj' h' rfl
    rw [any_append, any_cons, hother] at hfront
    simp at hfront

/-- A text is heard as a whole exactly if no piece goes on behind a line of another type. -/
lemma heard_eq_iff (h : '\n' ∉ pending) :
    heard pending pieces = pending ++ pieces.flatten ↔ OthersEndPieces pending pieces := by
  induction pieces generalizing pending with
  | nil =>
    refine iff_of_true (by simp [heard]) fun front line back hsplit _ => ?_
    rw [flatten_nil, append_nil, ended_of_not_mem h] at hsplit
    exact absurd hsplit.symm (by simp)
  | cons piece pieces ih =>
    rw [othersEndPieces_cons h, ← ih (not_mem_unended _), heard, flatten_cons,
      ← append_assoc, kept]
    generalize pending ++ piece = buf
    cases hany : (ended buf).any isOther with
    | false =>
      rw [heeded_of_any_eq_false hany, flatten_ended_append_inj]
      refine (and_iff_right fun front line back hsplit hother => ?_).symm
      rw [hsplit, any_append, any_cons, hother] at hany
      simp at hany
    | true =>
      obtain ⟨front, line, back, hsplit, hother, hfront, hheeded⟩ := exists_heeded hany
      have hbuf : buf = front.flatten ++ line ++ (back.flatten ++ unended buf) := by
        have := flatten_ended buf
        rw [hsplit] at this
        simpa using this.symm
      rw [hheeded, if_pos rfl]
      constructor
      · intro hheard
        have hlen := congrArg List.length hheard
        have hle := length_heard_le [] pieces
        have hbuflen := congrArg List.length hbuf
        simp only [flatten_append, flatten_cons, flatten_nil, length_append,
          length_nil] at hlen hle hbuflen
        have hopen : unended buf = [] := eq_nil_of_length_eq_zero (by omega)
        have hback : back.flatten = [] := eq_nil_of_length_eq_zero (by omega)
        rw [hback, hopen, append_nil, append_nil] at hbuf
        have hnone : back = [] := by
          cases back with
          | nil => rfl
          | cons l back =>
            have hmem : l ∈ ended buf := by simp [hsplit]
            obtain ⟨body, rfl, -⟩ := isEnded_of_mem_ended hmem
            simp at hback
        refine ⟨fun front' line' back' hsplit' hother' => ?_, ?_⟩
        · rw [hsplit, hnone] at hsplit'
          obtain ⟨rfl, rfl⟩ := eq_of_concat_eq hfront hother' hsplit'
          exact hbuf
        · rw [hbuf] at hheard
          rw [hopen]
          simpa using hheard
      · rintro ⟨hfirst, hrest⟩
        have hwhole := hfirst front line back hsplit hother
        have hopen : unended buf = [] := by
          have := congrArg List.length (hwhole.symm.trans hbuf)
          simp only [length_append] at this
          exact eq_nil_of_length_eq_zero (by omega)
        rw [hopen] at hrest
        rw [hrest, hwhole]
        simp

/-- The state is the effect, in order, of the lines that were heard. All lines are heard exactly if
every line of another type ends its piece, and then the cuts make no difference. -/
theorem state_eq_effect_of_heard (state : Json) (pieces : List (List Char)) :
    Receiver.writeAll { state := state } pieces =
        ⟨(ended (heard [] pieces)).foldl effect state, unended (heard [] pieces)⟩ ∧
      (heard [] pieces = pieces.flatten ↔ OthersEndPieces [] pieces) ∧
      ∀ pieces', pieces'.flatten = pieces.flatten → OthersEndPieces [] pieces →
        OthersEndPieces [] pieces' →
        Receiver.writeAll { state := state } pieces' =
          Receiver.writeAll { state := state } pieces := by
  have hnew : '\n' ∉ ([] : List Char) := by simp
  have hstate (pieces : List (List Char)) := writeAll_eq { state := state } hnew pieces
  have hwhole (pieces : List (List Char)) :
      heard [] pieces = pieces.flatten ↔ OthersEndPieces [] pieces := heard_eq_iff hnew
  refine ⟨hstate pieces, hwhole pieces, fun pieces' hsame hends hends' => ?_⟩
  rw [hstate, hstate, (hwhole pieces).2 hends, (hwhole pieces').2 hends', hsame]

def greeting : List Char := "\x7b\"hello\": 1\x7d\r\n".toList

def lamp : List Char :=
  "\x7b\"state_change\": \x7b\"changes\": \x7b\"lamp\": 1\x7d\x7d\x7d\r\n".toList

/-- Cut inside the second line the text has the same effect as line by line, but in one piece the
change behind the greeting is lost. -/
theorem greeting_drops_lamp :
    Receiver.writeAll {} [greeting, lamp.take 9, lamp.drop 9] =
      Receiver.writeAll {} [greeting, lamp] ∧
      ((Receiver.writeAll {} [greeting, lamp]).state.field? "lamp").isSome = true ∧
      ((Receiver.writeAll {} [greeting ++ lamp]).state.field? "lamp").isSome = false := by
  refine ⟨?_, by decide +kernel, by decide +kernel⟩
  obtain ⟨-, hwhole, hcuts⟩ := state_eq_effect_of_heard (.object []) [greeting, lamp]
  refine hcuts _ (by decide +kernel) (hwhole.1 (by decide +kernel)) ?_
  exact (state_eq_effect_of_heard (.object []) _).2.1.1 (by decide +kernel)

end SetTop.State
