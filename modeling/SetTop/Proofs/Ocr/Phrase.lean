import Mathlib.Data.List.DropRight
import Mathlib.Order.Bounds.Basic
import SetTop.Ocr.Phrase
import SetTop.Proofs.Text.Trim

/-!
Finding a phrase among the words of a document.

The words of a document are the pieces of text of its elements, without the white space around them;
white space alone is no word (`words_ok`). A phrase that occurs among them is found where it occurs
first. But the words at the end are compared with as much of the phrase as there are words left, so
that the beginning of the phrase at the very end is taken for the whole (`findPhrase_spec`).
-/

namespace SetTop.Ocr

open List Markup Word

/-! ### The first place that agrees -/

section Search

variable {phrase : List String} {ws : List Word} {i j : Nat}

lemma agree_iff (h : ws.length ≤ phrase.length) :
    agree phrase ws = true ↔ ws.map (·.text) = phrase.take ws.length := by
  induction ws generalizing phrase with
  | nil => simp [agree]
  | cons w ws ih =>
    cases phrase with
    | nil => simp at h
    | cons p phrase =>
      have hrest : agree phrase ws = true ↔ ws.map (·.text) = phrase.take ws.length :=
        ih (by simpa using h)
      rw [agree] at hrest ⊢
      simp [hrest]

/-- The words agree with the phrase from the given place on, as far as both go. -/
def AgreesAt (phrase : List String) (ws : List Word) (i : Nat) : Prop :=
  i < ws.length ∧ agree phrase ((ws.drop i).take phrase.length) = true

lemma findFrom_of_isLeast (h : IsLeast {i | AgreesAt phrase ws i} i) :
    findFrom phrase ws = some ((ws.drop i).take phrase.length) := by
  induction ws generalizing i with
  | nil => exact absurd h.1.1 (Nat.not_lt_zero i)
  | cons w ws ih =>
    obtain ⟨⟨hi, hagree⟩, hleast⟩ := h
    rw [findFrom]
    cases i with
    | zero => exact if_pos hagree
    | succ i =>
      have hfirst : ¬ agree phrase ((w :: ws).take phrase.length) = true := fun hagree =>
        absurd (hleast ⟨Nat.succ_pos _, hagree⟩) (Nat.not_succ_le_zero i)
      rw [if_neg hfirst]
      refine ih ⟨⟨by simpa using hi, hagree⟩, ?_⟩
      rintro j ⟨hj, hagree⟩
      exact Nat.le_of_succ_le_succ (hleast ⟨by simpa using hj, hagree⟩)

lemma findFrom_eq_none (h : ∀ i, ¬ AgreesAt phrase ws i) : findFrom phrase ws = none := by
  induction ws with
  | nil => rfl
  | cons w ws ih =>
    have hfirst : ¬ agree phrase ((w :: ws).take phrase.length) = true := fun hagree =>
      h 0 ⟨Nat.succ_pos _, hagree⟩
    rw [findFrom, if_neg hfirst]
    exact ih fun i hi => h (i + 1) ⟨by simpa using hi.1, hi.2⟩

/-- The phrase occurs at the given place. -/
def OccursAt (phrase : List String) (ws : List Word) (i : Nat) : Prop :=
  ((ws.drop i).take phrase.length).map (·.text) = phrase

/-- The last `j` words are a part of the phrase, from its beginning on and not all of it. -/
def BeginsAtEnd (phrase : List String) (ws : List Word) (j : Nat) : Prop :=
  0 < j ∧ j < phrase.length ∧ j ≤ ws.length ∧ (ws.rtake j).map (·.text) = phrase.take j

lemma OccursAt.le_length (h : OccursAt phrase ws i) (hphrase : phrase ≠ []) :
    i + phrase.length ≤ ws.length := by
  have hpos := length_pos_iff.2 hphrase
  have hlength := congrArg length h
  simp only [length_map, length_take, length_drop] at hlength
  omega

lemma agreesAt_iff_occursAt (hphrase : phrase ≠ []) (h : i + phrase.length ≤ ws.length) :
    AgreesAt phrase ws i ↔ OccursAt phrase ws i := by
  have hpos := length_pos_iff.2 hphrase
  have hlength : ((ws.drop i).take phrase.length).length = phrase.length := by
    rw [length_take, length_drop]
    omega
  rw [AgreesAt, agree_iff hlength.le, hlength, take_length]
  exact and_iff_right (by omega)

lemma agreesAt_iff_beginsAtEnd (hj : j ≤ ws.length) (h : j < phrase.length) :
    AgreesAt phrase ws (ws.length - j) ↔ BeginsAtEnd phrase ws j := by
  have hpart : (ws.drop (ws.length - j)).take phrase.length = ws.rtake j := by
    rw [take_of_length_le (by rw [length_drop]; omega), rtake]
  have hlength : (ws.rtake j).length = j := by
    rw [rtake, length_drop]
    omega
  rw [AgreesAt, hpart, agree_iff (by omega), hlength]
  constructor
  · rintro ⟨hpos, hsame⟩
    exact ⟨by omega, h, hj, hsame⟩
  · rintro ⟨hpos, -, -, hsame⟩
    exact ⟨by omega, hsame⟩

lemma findWords_of_isLeast (hphrase : phrase ≠ []) (h : IsLeast {i | OccursAt phrase ws i} i) :
    findWords phrase ws = some ((ws.drop i).take phrase.length) := by
  obtain ⟨hoccurs, hleast⟩ := h
  have hle := hoccurs.le_length hphrase
  rw [findWords, if_pos (by omega)]
  refine findFrom_of_isLeast ⟨(agreesAt_iff_occursAt hphrase hle).2 hoccurs, fun k hk => ?_⟩
  -- Before the first occurrence there are enough words for the whole phrase.
  by_contra hlt
  exact hlt (hleast ((agreesAt_iff_occursAt hphrase (by omega)).1 hk))

lemma AgreesAt.beginsAtEnd (hphrase : phrase ≠ []) (hnot : ∀ i, ¬ OccursAt phrase ws i)
    (h : AgreesAt phrase ws i) : BeginsAtEnd phrase ws (ws.length - i) := by
  have hi := h.1
  have hlt : ws.length < i + phrase.length := by
    by_contra hle
    exact hnot i ((agreesAt_iff_occursAt hphrase (not_lt.1 hle)).1 h)
  refine (agreesAt_iff_beginsAtEnd (by omega) (by omega)).1 ?_
  rwa [Nat.sub_sub_self hi.le]

/-- A phrase that does not occur is taken to be found where it begins at the end, with as much of it
as can be. -/
lemma findWords_of_isGreatest (hphrase : phrase ≠ []) (hlen : phrase.length ≤ ws.length)
    (hnot : ∀ i, ¬ OccursAt phrase ws i) (h : IsGreatest {j | BeginsAtEnd phrase ws j} j) :
    findWords phrase ws = some (ws.rtake j) := by
  obtain ⟨hbegins, hgreatest⟩ := h
  have ⟨hpos, hlt, hj, _⟩ := hbegins
  have hleast : IsLeast {i | AgreesAt phrase ws i} (ws.length - j) := by
    refine ⟨(agreesAt_iff_beginsAtEnd hj hlt).2 hbegins, fun k hk => ?_⟩
    have hle := hgreatest (hk.beginsAtEnd hphrase hnot)
    omega
  rw [findWords, if_pos hlen, findFrom_of_isLeast hleast,
    take_of_length_le (by rw [length_drop]; omega), rtake]

lemma findWords_eq_none (hphrase : phrase ≠ []) (hnot : ∀ i, ¬ OccursAt phrase ws i)
    (h : phrase.length ≤ ws.length → ∀ j, ¬ BeginsAtEnd phrase ws j) :
    findWords phrase ws = none := by
  rw [findWords]
  split
  · next hlen => exact findFrom_eq_none fun i hi => h hlen _ (hi.beginsAtEnd hphrase hnot)
  · rfl

lemma exists_occursAt_iff : (∃ i, OccursAt phrase ws i) ↔ phrase <:+: ws.map (·.text) := by
  constructor
  · rintro ⟨i, hi⟩
    rw [OccursAt, map_take, map_drop] at hi
    rw [← hi]
    exact ( take_prefix _ _).isInfix.trans (drop_suffix _ _).isInfix
  · rintro ⟨before, after, hsplit⟩
    refine ⟨before.length, ?_⟩
    rw [OccursAt, map_take, map_drop, ← hsplit, append_assoc, drop_left, take_left]

end Search

/-! ### The words of a document -/

namespace Word

/-- The word without the white space around it. -/
def bare (w : Word) : Word := { w with text := stripText w.text }

lemma isBlank_bare (w : Word) : w.bare.isBlank = true ↔ w.bare.text = "" := by
  have htrimmed := Text.trimmed_strip w.text.toList
  rw [isBlank, bare, stripText]
  cases hbare : Text.strip w.text.toList with
  | nil => simp
  | cons c cs =>
    have hc : Text.isBlank c = false := htrimmed.head c (by rw [hbare]; rfl)
    simp [hc]

end Word

/-- The pieces of text of an element: its own text, and the text behind it, which stands in the
element around. -/
def pieces : List Element → List Word
  | [] => []
  | e :: around => [⟨e.text, e :: around⟩, ⟨e.tail, around⟩]

/-- Words without the blanks between them. -/
def proper (ws : List Word) : List Word := ws.filter (!·.isBlank)

lemma proper_append (a b : List Word) : proper (a ++ b) = proper a ++ proper b :=
  filter_append a b

lemma proper_reverse (ws : List Word) : proper ws.reverse = (proper ws).reverse :=
  filter_reverse

/-- A line or a word without a class. -/
def Unclassed : List Element → Prop
  | [] => False
  | e :: _ => e.tag = spanTag ∧ e.attribute? "class" = none

instance : DecidablePred Unclassed
  | [] => .isFalse id
  | e :: _ => inferInstanceAs (Decidable (e.tag = spanTag ∧ e.attribute? "class" = none))

lemma proper_words_newLine (p : Progress) (place : List Element) :
    proper (p.newLine place).words = proper p.words := by
  rw [Progress.newLine]
  split
  · have hblank : isBlank ⟨"\n", place⟩ = true := by simp [isBlank]; decide
    simp [proper, hblank]
  · rfl

lemma proper_words_add (p : Progress) (text : String) (place : List Element) :
    proper (p.add text place).words = proper [bare ⟨text, place⟩] ++ proper p.words := by
  have hblank := isBlank_bare ⟨text, place⟩
  rw [Progress.add]
  split
  · next hempty =>
    have hbare : (bare ⟨text, place⟩).text = "" := by
      rw [String.isEmpty_iff.1 hempty]
      rfl
    simp [proper, hblank.2 hbare]
  · dsimp only
    split
    · next hbare => simp [proper, hblank.2 (String.isEmpty_iff.1 hbare)]
    · next hbare =>
      have hword : isBlank ⟨stripText text, place⟩ = false := by
        rw [Bool.eq_false_iff]
        exact fun h => hbare (String.isEmpty_iff.2 (hblank.1 h))
      have hspace : isBlank ⟨" ", []⟩ = true := by decide
      split <;> simp [proper, bare, hword, hspace]

lemma readElement_ok {place : List Element} (h : ¬ Unclassed place) (p : Progress) :
    ∃ p', readElement p place = .ok p' ∧
      proper p'.words = proper ((pieces place).map bare).reverse ++ proper p.words := by
  cases place with
  | nil => exact ⟨p, rfl, rfl⟩
  | cons e around =>
    have hfinish {p' : Progress} (hp' : proper p'.words = proper p.words) :
        proper ((p'.add e.text (e :: around)).add e.tail around).words =
          proper ((pieces (e :: around)).map bare).reverse ++ proper p.words := by
      rw [proper_words_add, proper_words_add, hp', ← append_assoc, ← proper_append]
      rfl
    have hstart : proper (if (e.tag == paragraphTag) = true then p.newLine (e :: around)
        else p).words = proper p.words := by
      split
      · exact proper_words_newLine p _
      · rfl
    rw [readElement]
    by_cases hspan : (e.tag == spanTag) = true
    · rw [if_pos hspan]
      cases hclass : e.attribute? "class" with
      | none => exact absurd ⟨beq_iff_eq.1 hspan, hclass⟩ h
      | some c =>
        refine ⟨_, rfl, hfinish ?_⟩
        split
        · rw [proper_words_newLine, hstart]
        · exact hstart
    · rw [if_neg hspan]
      exact ⟨_, rfl, hfinish hstart⟩

lemma readElement_error {place : List Element} (h : Unclassed place) (p : Progress) :
    ∃ text, readElement p place = .error (.foreign .attribute text) := by
  cases place with
  | nil => cases h
  | cons e around =>
    obtain ⟨htag, hclass⟩ := h
    rw [readElement, htag, hclass]
    exact ⟨_, rfl⟩

/-- The words of a document: the pieces of text of all its elements, in order, without the white
space around them. -/
def spoken (document : Element) : List Word :=
  proper ((document.descendants.flatMap pieces).map bare)

lemma foldlM_readElement_ok {places : List (List Element)}
    (h : ∀ place ∈ places, ¬ Unclassed place) (p : Progress) :
    ∃ p', places.foldlM readElement p = .ok p' ∧ proper p'.words.reverse =
        proper p.words.reverse ++ proper ((places.flatMap pieces).map bare) := by
  induction places generalizing p with
  | nil => exact ⟨p, rfl, by simp [proper]⟩
  | cons place places ih =>
    obtain ⟨hplace, hplaces⟩ := forall_mem_cons.1 h
    obtain ⟨p₁, hread, hwords⟩ := readElement_ok hplace p
    obtain ⟨p₂, hrest, hall⟩ := ih hplaces p₁
    refine ⟨p₂, ?_, ?_⟩
    · rw [foldlM_cons, hread]
      exact hrest
    · rw [hall, proper_reverse, hwords, reverse_append, ← proper_reverse, ← proper_reverse,
        reverse_reverse, flatMap_cons, map_append, proper_append, append_assoc]

lemma foldlM_readElement_error {places : List (List Element)}
    (h : ∃ place ∈ places, Unclassed place) (p : Progress) :
    ∃ text, places.foldlM readElement p = .error (.foreign .attribute text) := by
  induction places generalizing p with
  | nil =>
    obtain ⟨_, hmem, -⟩ := h
    cases hmem
  | cons place places ih =>
    rw [foldlM_cons]
    by_cases hplace : Unclassed place
    · obtain ⟨text, herror⟩ := readElement_error hplace p
      exact ⟨text, by rw [herror]; rfl⟩
    · obtain ⟨p₁, hread, -⟩ := readElement_ok hplace p
      rw [hread]
      obtain ⟨found, hmem, hfound⟩ := h
      rcases mem_cons.1 hmem with rfl | hmem
      · exact absurd hfound hplace
      · exact ih ⟨found, hmem, hfound⟩ p₁

lemma words_ok {document : Element} (h : ∀ place ∈ document.descendants, ¬ Unclassed place) :
    ∃ ws, words document = .ok ws ∧ proper ws = spoken document := by
  obtain ⟨p, hread, hwords⟩ := foldlM_readElement_ok h {}
  refine ⟨p.words.reverse, ?_, hwords⟩
  rw [words, hread]
  rfl

lemma words_error {document : Element} (h : ∃ place ∈ document.descendants, Unclassed place) :
    ∃ text, words document = .error (.foreign .attribute text) := by
  obtain ⟨text, herror⟩ := foldlM_readElement_error h {}
  refine ⟨text, ?_⟩
  rw [words, herror]
  rfl

/-! ### The phrase in the document -/

/-- The words of a document in the form in which they are compared. -/
def heard (caseMatters : Bool) (document : Element) : List Word :=
  (spoken document).map fun w => { w with text := comparable caseMatters w.text }

/-- What a search for a phrase among words gives. -/
structure PhraseAnswer (phrase : List String) (ws : List Word) (found : Option (List Word)) :
    Prop where
  first {i : Nat} (h : IsLeast {i | OccursAt phrase ws i} i) :
    found = some ((ws.drop i).take phrase.length)
  brokenOff {j : Nat} (hnot : ∀ i, ¬ OccursAt phrase ws i) (hlen : phrase.length ≤ ws.length)
    (h : IsGreatest {j | BeginsAtEnd phrase ws j} j) : found = some (ws.rtake j)
  missing (hnot : ∀ i, ¬ OccursAt phrase ws i)
    (h : phrase.length ≤ ws.length → ∀ j, ¬ BeginsAtEnd phrase ws j) : found = none

/-- A search in a document that can be read. A phrase that occurs is found where it does so first. A
phrase that does not occur is found only if the document ends with its beginning and has as many
words as the phrase. -/
theorem findPhrase_spec {phrase : List String} (hphrase : phrase ≠ []) (caseMatters : Bool)
    (document : Element) :
    ((∃ place ∈ document.descendants, Unclassed place) →
      ∃ text, words document = .error (.foreign .attribute text)) ∧
    ((∀ place ∈ document.descendants, ¬ Unclassed place) →
      ∃ ws, words document = .ok ws ∧
        PhraseAnswer (phrase.map (comparable caseMatters)) (heard caseMatters document)
          (findPhrase phrase caseMatters ws) ∧
        ((∃ i, OccursAt (phrase.map (comparable caseMatters)) (heard caseMatters document) i) ↔
          phrase.map (comparable caseMatters) <:+: (heard caseMatters document).map (·.text))) := by
  refine ⟨words_error, fun hclassed => ?_⟩
  obtain ⟨ws, hwords, hproper⟩ := words_ok hclassed
  have hmapped : phrase.map (comparable caseMatters) ≠ [] := by simpa using hphrase
  refine ⟨ws, hwords, ?_, exists_occursAt_iff⟩
  rw [heard, ← hproper]
  exact ⟨findWords_of_isLeast hmapped, fun hnot hlen => findWords_of_isGreatest hmapped hlen hnot,
    findWords_eq_none hmapped⟩

def twoWords : Element :=
  .mk "body" [] "" [.mk spanTag [("class", "ocrx_word")] "a" [] " ",
    .mk spanTag [("class", "ocrx_word")] "b" [] ""] ""

/-- The phrase "b c" does not occur in a document that ends with "b", but it is found there. -/
theorem broken_off_phrase_found : ∃ ws, words twoWords = .ok ws ∧
    ¬ ["b", "c"].map (comparable false) <:+: (heard false twoWords).map (·.text) ∧
    ∃ w, findPhrase ["b", "c"] false ws = some [w] ∧ w.text = "b" := by
  have hclassed : ∀ place ∈ twoWords.descendants, ¬ Unclassed place := by decide +kernel
  have hheard : (heard false twoWords).map (·.text) = ["a", "b"] := by decide +kernel
  have hphrase : ["b", "c"].map (comparable false) = ["b", "c"] := by decide +kernel
  obtain ⟨ws, hwords, hanswer, hoccurs⟩ :=
    (findPhrase_spec (by decide : ["b", "c"] ≠ []) false twoWords).2 hclassed
  rw [hphrase, hheard] at hoccurs
  rw [hphrase] at hanswer
  have hnot : ¬ ["b", "c"] <:+: ["a", "b"] := by decide
  have hlength : (heard false twoWords).length = 2 := by
    rw [← length_map (·.text), hheard]
    rfl
  obtain ⟨a, b, hab⟩ := length_eq_two.1 hlength
  rw [hab] at hheard
  have hb : b.text = "b" := by simpa using (cons.inj hheard).2
  have hgreatest : IsGreatest {j | BeginsAtEnd ["b", "c"] (heard false twoWords) j} 1 := by
    rw [hab]
    refine ⟨⟨by decide, by decide, by simp, by simp [rtake, hb]⟩, ?_⟩
    rintro j ⟨-, hj, -⟩
    exact Nat.le_of_lt_succ hj
  have hfound := hanswer.brokenOff (fun i hi => hnot (hoccurs.1 ⟨i, hi⟩)) hlength.ge hgreatest
  refine ⟨ws, hwords, ?_, b, ?_, hb⟩
  · rw [hphrase, hab, hheard]
    exact hnot
  · rw [hfound, hab]
    rfl

end SetTop.Ocr
