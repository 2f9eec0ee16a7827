import SetTop.Proofs.Act
import SetTop.Proofs.Text.Lines
import SetTop.Wire.Link

/-!
Texts that arrive in pieces.

How a text is cut on its way is not up to the reader. `Stream.Cut text chunks` says that the chunks are
the text, cut anywhere into pieces that are not empty. A reader that wants so many characters gets
them from every cut, and what is left is a cut of the rest of the text. A reader that wants lines gets
those of the text.
-/

namespace SetTop

open List Text

namespace Stream

/-- The chunks are a text, cut into pieces that are not empty. -/
def Cut (text : List Char) (chunks : List Chunk) : Prop :=
  ∃ pieces : List (List Char), chunks = pieces.map some ∧ [] ∉ pieces ∧ pieces.flatten = text

variable {text : List Char} {chunks : List Chunk} {reason : StreamEnd}

lemma cut_nil_right : Cut text [] ↔ text = [] := by
  constructor
  · rintro ⟨pieces, hpieces, -, rfl⟩
    rw [map_eq_nil_iff.1 hpieces.symm, flatten_nil]
  · rintro rfl
    exact ⟨[], rfl, not_mem_nil, rfl⟩

lemma cut_cons {chunk : Chunk} : Cut text (chunk :: chunks) ↔
      ∃ c rest, chunk = some c ∧ c ≠ [] ∧ text = c ++ rest ∧ Cut rest chunks := by
  constructor
  · rintro ⟨pieces, hpieces, hfull, rfl⟩
    cases pieces with
    | nil => cases hpieces
    | cons c pieces =>
      obtain ⟨rfl, rfl⟩ := List.cons.inj hpieces
      rw [mem_cons, not_or] at hfull
      exact ⟨c, pieces.flatten, rfl, Ne.symm hfull.1, rfl, pieces, rfl, hfull.2, rfl⟩
  · rintro ⟨c, _, rfl, hc, rfl, pieces, rfl, hfull, rfl⟩
    exact ⟨c :: pieces, rfl, by simp [hfull, Ne.symm hc], rfl⟩

lemma Cut.single (h : text ≠ []) : Cut text [some text] :=
  cut_cons.2 ⟨text, [], rfl, h, by simp, cut_nil_right.2 rfl⟩

lemma Cut.receiveExactly {front rest : List Char} (h : Cut (front ++ rest) chunks) :
    ∃ left, Stream.receiveExactly front.length chunks = (.ok front, left) ∧ Cut rest left := by
  induction chunks generalizing front with
  | nil =>
    obtain ⟨rfl, rfl⟩ := append_eq_nil_iff.1 (cut_nil_right.1 h)
    exact ⟨[], rfl, h⟩
  | cons chunk chunks ih =>
    obtain ⟨c, more, rfl, hc, htext, hmore⟩ := cut_cons.1 h
    cases front with
    | nil => exact ⟨_, rfl, h⟩
    | cons x front =>
      rw [length_cons, Stream.receiveExactly, if_neg (by simpa using hc)]
      split
      · -- the front is a part of the first piece
        rename_i hlong
        obtain ⟨c', rfl⟩ : x :: front <+: c :=
          prefix_of_prefix_length_le (prefix_append _ _) ⟨more, htext.symm⟩
            (Nat.le_of_lt hlong)
        rw [append_assoc, append_cancel_left_eq] at htext
        have hc' : c' ≠ [] := by
          rintro rfl
          simp at hlong
        rw [← length_cons, take_left, drop_left]
        exact ⟨_, rfl, cut_cons.2 ⟨c', more, rfl, hc', htext, hmore⟩⟩
      · -- the first piece is a part of the front
        rename_i hshort
        obtain ⟨front', hfront⟩ : c <+: x :: front :=
          prefix_of_prefix_length_le ⟨more, htext.symm⟩ (prefix_append _ _)
            (Nat.le_of_not_lt hshort)
        rw [← hfront, append_assoc, append_cancel_left_eq] at htext
        obtain ⟨left, hread, hleft⟩ := ih (htext ▸ hmore)
        have hcount : front.length + 1 - c.length = front'.length := by
          rw [← length_cons, ← hfront, length_append, Nat.add_sub_cancel_left]
        rw [hcount, hread, ← hfront]
        exact ⟨left, rfl, hleft⟩

/-- Chunks from which nothing more can be read, and why. -/
inductive Ends : List Chunk → StreamEnd → Prop
  | finished : Ends [] .closed
  | shut (more : List Chunk) : Ends (some [] :: more) .closed
  | silent (more : List Chunk) : Ends (none :: more) .paused

/-- All that is heard is a text, in pieces. -/
def Heard (text : List Char) (chunks : List Chunk) (reason : StreamEnd) : Prop :=
  ∃ pieces after, Cut text pieces ∧ Ends after reason ∧ chunks = pieces ++ after

lemma cutRecords_newline (cs : List Char) :
    cutRecords ['\n'] cs = ((ended cs).map List.dropLast, unended cs) := by
  rw [cutRecords, splitOn_singleton, splitAtChar_eq]
  simp

lemma recordsFrom_heard {buffer : List Char} (hbuffer : '\n' ∉ buffer) (h : Heard text chunks reason) :
    recordsFrom ['\n'] buffer chunks = ((ended (buffer ++ text)).map List.dropLast, reason) := by
  obtain ⟨pieces, after, hcut, hends, rfl⟩ := h
  induction pieces generalizing buffer text with
  | nil =>
    rw [cut_nil_right.1 hcut, append_nil, ended_of_not_mem hbuffer]
    cases hends with
    | finished | shut | silent => rfl
  | cons piece pieces ih =>
    obtain ⟨c, more, rfl, hc, rfl, hmore⟩ := cut_cons.1 hcut
    rw [cons_append, recordsFrom, if_neg (by simpa using hc), cutRecords_newline,
      ← append_assoc, ended_append (buffer ++ c), map_append]
    dsimp only
    rw [ih (not_mem_unended _) hmore]

lemma Cut.all (h : Cut text chunks) : Stream.all chunks = text := by
  obtain ⟨pieces, rfl, -, rfl⟩ := h
  simp [Stream.all, Function.comp_def]

end Stream

namespace Net

/-- What the peer of a connection has still to say. -/
def heard (s : Session) (n : Nat) : List Chunk :=
  ((s.bench.links[n]?).getD { peer := {} }).peer.chunks

lemma heard_reading {α : Type} (n : Nat) (f : List Chunk → α × List Chunk) (s : Session) :
    (reading n f).run s = (.ok (f (heard s n)).1, ((setChunks n (f (heard s n)).2).run s).2) := rfl

variable {n : Nat} {s : Session}

lemma heard_setChunks {chunks : List Chunk} (h : s.bench.links[n]? = none → chunks = []) :
    heard ((setChunks n chunks).run s).2 n = chunks := by
  change ((((s.bench.links.modify n fun l =>
    { l with peer := { l.peer with chunks := chunks } })[n]?).getD { peer := {} }).peer.chunks) = chunks
  rw [List.getElem?_modify_eq]
  cases hlink : s.bench.links[n]? with
  | none => exact (h hlink).symm
  | some l => rfl

lemma receiveExactly_cut {front rest : List Char} (h : Stream.Cut (front ++ rest) (heard s n)) :
    ∃ s', (receiveExactly n front.length).run s = (.ok front, s') ∧ Stream.Cut rest (heard s' n) := by
  obtain ⟨left, hread, hleft⟩ := h.receiveExactly
  have hnone : s.bench.links[n]? = none → left = [] := by
    intro hlink
    have hsilent : heard s n = [] := by rw [heard, hlink]; rfl
    rw [hsilent] at h hread
    obtain ⟨rfl, rfl⟩ := append_eq_nil_iff.1 (Stream.cut_nil_right.1 h)
    exact (Prod.mk.inj hread).2.symm
  refine ⟨((setChunks n left).run s).2, ?_, ?_⟩
  · rw [receiveExactly, Act.bind_of_ok (heard_reading n _ s), hread]
    rfl
  · rwa [heard_setChunks hnone]

end Net

end SetTop
