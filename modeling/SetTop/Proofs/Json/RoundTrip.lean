import SetTop.Proofs.Json.Tokens

/-!
Structured values are read back from their text.

What can be read back is told by `Fits`: names of fields are distinct, doubles are finite, integers
are not too long and values not nested too deep. The text of such a value consists of plain
characters in a single line, and reading gives the value again, whatever blanks follow
(`read?_write`).
-/

namespace SetTop.Json

open List Number
open Number (Numeral)

/-- A value that can be written and read back with integers of at most `limit` digits, nested at
most `room` deep. -/
inductive Fits (limit : ℕ) : ℕ → Json → Prop
  | null {room : ℕ} : Fits limit room .null
  | bool {room : ℕ} (b : Bool) : Fits limit room (.bool b)
  | number {room : ℕ} {x : Num} (h : NumberFits limit x) : Fits limit room (.number x)
  | text {room : ℕ} (s : String) : Fits limit room (.text s)
  | list {room : ℕ} {items : List Json} (h : ∀ j ∈ items, Fits limit room j) :
      Fits limit (room + 1) (.list items)
  | object {room : ℕ} {fields : List (String × Json)} (names : (fields.map Prod.fst).Nodup)
      (h : ∀ f ∈ fields, Fits limit room f.2) : Fits limit (room + 1) (.object fields)

variable {limit room : ℕ}

/-! ### Characters -/

def isWordy (c : Char) : Bool := c.isAlphanum || c == '-' || c == '+' || c == '.'

variable {x : Num} {c : Char} {j : Json} {fuel : ℕ} {items : List Json} {rest : List Char}
  {done fields : List (String × Json)}

lemma wordy_writeNumber (hx : NumberFits limit x) :
    (writeNumber x).toList ≠ [] ∧ ∀ c ∈ (writeNumber x).toList, isWordy c = true := by
  have hchars (n : Numeral) : n.chars ≠ [] ∧ ∀ c ∈ n.chars, isWordy c = true := by
    refine ⟨?_, n.forall_mem_chars (fun c hc => ?_) (by simp [isWordy])⟩
    · obtain ⟨c, cs, hfront, -⟩ := exists_front_chars n
      simp [hfront]
    · simp [isWordy, Char.isAlphanum, hc]
  cases x with
  | int i =>
    obtain ⟨n, htext, -⟩ := exists_numeral_of_int i
    exact htext ▸ hchars n
  | real x =>
    obtain ⟨negative, d, hparts⟩ := hx
    obtain ⟨n, htext, -⟩ := exists_numeral_of_real hparts
    exact htext ▸ hchars n
  | posInf | negInf | nan => simp [writeNumber, isWordy]

lemma ne_of_isWordy {d : Char} (hc : isWordy c = true) (hd : isWordy d = false) : c ≠ d := by
  rintro rfl
  rw [hc] at hd
  cases hd

lemma toList_writeText (s : String) :
    (writeText s).toList = '"' :: (s.toList.flatMap escapeChar ++ ['"']) := by
  rw [writeText, String.toList_ofList]
  rfl

lemma toList_writeItems_cons (j k : Json) (items : List Json) :
    (writeItems (j :: k :: items)).toList =
      (write j).toList ++ ',' :: ' ' :: (writeItems (k :: items)).toList := by
  simp [writeItems]

lemma toList_writeFields_single (key : String) (j : Json) :
    (writeFields [(key, j)]).toList = (writeText key).toList ++ ':' :: ' ' :: (write j).toList := by
  simp [writeFields]

lemma toList_writeFields_cons (key : String) (j : Json) (f : String × Json)
    (fields : List (String × Json)) : (writeFields ((key, j) :: f :: fields)).toList =
      (writeText key).toList ++ ':' :: ' ' :: ((write j).toList ++ ',' :: ' ' ::
        (writeFields (f :: fields)).toList) := by
  simp [writeFields]

lemma toList_write_list (items : List Json) :
    (write (.list items)).toList = '[' :: ((writeItems items).toList ++ [']']) := by
  simp [write]

lemma toList_write_object (fields : List (String × Json)) :
    (write (.object fields)).toList = '\x7b' :: ((writeFields fields).toList ++ ['\x7d']) := by
  simp [write]

lemma exists_front_write (h : Fits limit room j) :
    ∃ c cs, (write j).toList = c :: cs ∧ isGap c = false ∧ c ≠ ']' := by
  cases h with
  | null => exact ⟨'n', _, rfl, rfl, by decide⟩
  | bool b => cases b <;> exact ⟨_, _, rfl, rfl, by decide⟩
  | number h =>
    obtain ⟨hne, hwordy⟩ := wordy_writeNumber h
    obtain ⟨c, cs, hfront⟩ := exists_cons_of_ne_nil hne
    have hc : isWordy c = true := hwordy c (by simp [hfront])
    have hne {d : Char} (hd : isWordy d = false) : c ≠ d := ne_of_isWordy hc hd
    refine ⟨c, cs, by rw [write, hfront], ?_, hne (by decide)⟩
    simp [isGap, hne (d := ' ') rfl, hne (d := '\t') rfl, hne (d := '\n') rfl, hne (d := '\r') rfl]
  | text s => exact ⟨'"', _, by rw [write, toList_writeText], rfl, by decide⟩
  | list h => exact ⟨'[', _, toList_write_list _, rfl, by decide⟩
  | object names h => exact ⟨'\x7b', _, toList_write_object _, rfl, by decide⟩

/-! ### Reading -/

lemma skipGap_cons (hc : isGap c = false) (cs : List Char) : skipGap (c :: cs) = c :: cs := by
  rw [skipGap, dropWhile_cons_of_neg (by simp [hc])]

lemma skipGap_append {front : List Char} (hfront : ∃ c cs, front = c :: cs ∧ isGap c = false)
    (more : List Char) :
    skipGap (front ++ more) = front ++ more ∧ skipGap (' ' :: (front ++ more)) = front ++ more := by
  obtain ⟨c, cs, rfl, hgap⟩ := hfront
  exact ⟨skipGap_cons hgap _, skipGap_cons hgap _⟩

lemma endsNumber_cons (hc : isWordy c = false) (cs : List Char) : EndsNumber (c :: cs) := by
  rintro d ⟨⟩
  have hne {d : Char} (hd : isWordy d = true) : c ≠ d := (ne_of_isWordy hd hc).symm
  refine ⟨?_, hne rfl, hne rfl, hne rfl⟩
  rw [Bool.eq_false_iff]
  intro hdigit
  simp [isWordy, Char.isAlphanum, hdigit] at hc

def ReadsBack (limit : ℕ) (j : Json) : Prop :=
  ∀ {fuel : ℕ} {rest : List Char}, (write j).toList.length ≤ fuel → EndsNumber rest →
    takeValue? limit fuel ((write j).toList ++ rest) = some (j, rest)

lemma readsBack_text (s : String) : ReadsBack limit (.text s) := by
  intro fuel rest hfuel _
  have hlen := length_le_flatMap s.toList
  rw [write, toList_writeText] at hfuel ⊢
  obtain ⟨fuel, rfl⟩ : ∃ k, fuel = k + 1 := Nat.exists_eq_succ_of_ne_zero
    (by rintro rfl; simp at hfuel)
  rw [cons_append, append_assoc, takeValue?, singleton_append,
    takeText?_flatMap _ (by rw [length_append]; omega)]
  simp

lemma readsBack_number (hx : NumberFits limit x) : ReadsBack limit (.number x) := by
  intro fuel rest hfuel hrest
  obtain ⟨hne, hwordy⟩ := wordy_writeNumber hx
  obtain ⟨c, cs, hfront⟩ := exists_cons_of_ne_nil hne
  have hc : isWordy c = true := hwordy c (by simp [hfront])
  rw [write] at hfuel ⊢
  obtain ⟨fuel, rfl⟩ : ∃ k, fuel = k + 1 := Nat.exists_eq_succ_of_ne_zero
    (by rintro rfl; simp [hfront] at hfuel)
  rw [takeValue?.eq_5, takeAtom?_writeNumber hx hrest]
  all_goals
    intro l heq
    rw [hfront] at heq
    exact ne_of_isWordy hc (by decide) (List.cons.inj heq).1

lemma takeItems?_step (hj : ReadsBack limit j) (hfuel : (write j).toList.length ≤ fuel)
    (done : List Json) (rest : List Char) :
    takeItems? limit (fuel + 1) done ((write j).toList ++ ']' :: rest) =
      some (.list (done.reverse ++ [j]), rest) ∧
    takeItems? limit (fuel + 1) done ((write j).toList ++ ',' :: rest) =
      takeItems? limit fuel (j :: done) (skipGap rest) := by
  constructor
  all_goals rw [takeItems?, hj hfuel (endsNumber_cons rfl _)]
  · simp [skipGap_cons (c := ']') rfl]
  · simp [skipGap_cons (c := ',') rfl]

lemma exists_front_writeItems (h : Fits limit room j) (items : List Json) :
    ∃ c cs, (writeItems (j :: items)).toList = c :: cs ∧ isGap c = false ∧ c ≠ ']' := by
  obtain ⟨c, cs, hfront, hgap, hclose⟩ := exists_front_write h
  cases items with
  | nil => exact ⟨c, cs, by rw [writeItems, hfront], hgap, hclose⟩
  | cons k items =>
    exact ⟨c, _, by rw [toList_writeItems_cons, hfront, cons_append], hgap, hclose⟩

lemma takeItems?_writeItems (hfits : ∀ k ∈ j :: items, Fits limit room k)
    (hread : ∀ k ∈ j :: items, ReadsBack limit k) (done : List Json)
    (hfuel : (writeItems (j :: items)).toList.length < fuel) :
    takeItems? limit fuel done ((writeItems (j :: items)).toList ++ ']' :: rest) =
      some (.list (done.reverse ++ j :: items), rest) := by
  obtain ⟨fuel, rfl⟩ : ∃ k, fuel = k + 1 := ⟨fuel - 1, by omega⟩
  induction items generalizing j done fuel with
  | nil =>
    rw [writeItems] at hfuel ⊢
    exact (takeItems?_step (hread j (by simp)) (by omega) done rest).1
  | cons k items ih =>
    obtain ⟨hj, hitems⟩ := forall_mem_cons.1 hread
    obtain ⟨-, hfits⟩ := forall_mem_cons.1 hfits
    obtain ⟨c, cs, hfront, hgap, -⟩ := exists_front_writeItems (hfits k (by simp)) items
    rw [toList_writeItems_cons, length_append, length_cons, length_cons] at hfuel
    obtain ⟨fuel, rfl⟩ : ∃ k, fuel = k + 1 := ⟨fuel - 1, by omega⟩
    rw [toList_writeItems_cons, append_assoc, cons_append, cons_append,
      (takeItems?_step hj (by omega) done _).2, (skipGap_append ⟨c, cs, hfront, hgap⟩ _).2,
      ih hfits hitems _ _ (by omega)]
    simp

lemma exists_front_writeFields (f : String × Json) (fields : List (String × Json)) :
    ∃ cs, (writeFields (f :: fields)).toList = '"' :: cs := by
  cases fields with
  | nil => exact ⟨_, by rw [toList_writeFields_single, toList_writeText, cons_append]⟩
  | cons g fields => exact ⟨_, by rw [toList_writeFields_cons, toList_writeText, cons_append]⟩

lemma putField_of_nodup {key : String}
    (h : ((done ++ (key, j) :: fields).map Prod.fst).Nodup) :
    putField done key j = done ++ [(key, j)] := by
  rw [putField, if_neg]
  rw [any_eq_true]
  rintro ⟨f, hf, heq⟩
  rw [map_append] at h
  obtain rfl := eq_of_beq heq
  exact disjoint_of_nodup_append h (mem_map_of_mem hf) mem_cons_self

lemma takeFields?_step (key : String) (hfits : Fits limit room j) (hj : ReadsBack limit j)
    (hfuel : (write j).toList.length ≤ fuel) (done : List (String × Json)) (rest : List Char) :
    takeFields? limit (fuel + 1) done
        ((writeText key).toList ++ ':' :: ' ' :: ((write j).toList ++ '\x7d' :: rest)) =
      some (.object (putField done key j), rest) ∧
    takeFields? limit (fuel + 1) done
        ((writeText key).toList ++ ':' :: ' ' :: ((write j).toList ++ ',' :: rest)) =
      takeFields? limit fuel (putField done key j) (skipGap rest) := by
  obtain ⟨c, cs, hfront, hgap, -⟩ := exists_front_write hfits
  have hlen := length_le_flatMap key.toList
  constructor
  all_goals
    rw [toList_writeText, cons_append, takeFields?, append_assoc, singleton_append,
      takeText?_flatMap _ (by rw [length_append]; omega)]
    simp only [Option.bind_eq_bind, Option.bind_some, skipGap_cons (c := ':') rfl]
    rw [(skipGap_append ⟨c, cs, hfront, hgap⟩ _).2, hj hfuel (endsNumber_cons rfl _)]
  · simp [skipGap_cons (c := '\x7d') rfl]
  · simp [skipGap_cons (c := ',') rfl]

lemma takeFields?_writeFields {f : String × Json} (hfits : ∀ g ∈ f :: fields, Fits limit room g.2)
    (hread : ∀ g ∈ f :: fields, ReadsBack limit g.2) (hnames : ((done ++ f :: fields).map Prod.fst).Nodup)
    (hfuel : (writeFields (f :: fields)).toList.length < fuel) :
    takeFields? limit fuel done ((writeFields (f :: fields)).toList ++ '\x7d' :: rest) =
      some (.object (done ++ f :: fields), rest) := by
  obtain ⟨fuel, rfl⟩ : ∃ k, fuel = k + 1 := ⟨fuel - 1, by omega⟩
  induction fields generalizing f done fuel with
  | nil =>
    obtain ⟨key, j⟩ := f
    obtain ⟨hj, -⟩ := forall_mem_cons.1 hread
    obtain ⟨hfit, -⟩ := forall_mem_cons.1 hfits
    rw [toList_writeFields_single, length_append, length_cons, length_cons] at hfuel
    rw [toList_writeFields_single, append_assoc, cons_append, cons_append,
      (takeFields?_step key hfit hj (by dsimp only; omega) done rest).1, putField_of_nodup hnames]
  | cons g fields ih =>
    obtain ⟨key, j⟩ := f
    obtain ⟨hj, hread⟩ := forall_mem_cons.1 hread
    obtain ⟨hfit, hfits⟩ := forall_mem_cons.1 hfits
    obtain ⟨cs, hfront⟩ := exists_front_writeFields g fields
    rw [toList_writeFields_cons] at hfuel
    simp only [length_append, length_cons] at hfuel
    obtain ⟨fuel, rfl⟩ : ∃ k, fuel = k + 1 := ⟨fuel - 1, by omega⟩
    rw [toList_writeFields_cons, append_assoc, cons_append, cons_append, append_assoc, cons_append,
      cons_append, (takeFields?_step key hfit hj (by dsimp only; omega) done _).2,
      (skipGap_append ⟨_, cs, hfront, rfl⟩ _).2, putField_of_nodup hnames,
      ih hfits hread (by simpa using hnames) _ (by omega)]
    simp

/-- Every value that fits is read back from its text. -/
lemma Fits.readsBack (h : Fits limit room j) : ReadsBack limit j := by
  induction h with
  | null =>
    intro fuel rest hfuel _
    obtain ⟨fuel, rfl⟩ : ∃ k, fuel = k + 1 := Nat.exists_eq_succ_of_ne_zero
      (by rintro rfl; simp [write] at hfuel)
    rfl
  | bool b =>
    intro fuel rest hfuel _
    obtain ⟨fuel, rfl⟩ : ∃ k, fuel = k + 1 :=
      Nat.exists_eq_succ_of_ne_zero (by rintro rfl; cases b <;> simp [write] at hfuel)
    cases b <;> rfl
  | number hx => exact readsBack_number hx
  | text s => exact readsBack_text s
  | @list room items h ih =>
    intro fuel rest hfuel _
    rw [toList_write_list] at hfuel ⊢
    rw [length_cons, length_append, length_singleton] at hfuel
    obtain ⟨fuel, rfl⟩ : ∃ k, fuel = k + 1 := ⟨fuel - 1, by omega⟩
    rw [cons_append, append_assoc, takeValue?]
    cases items with
    | nil => simp [writeItems, skipGap_cons (c := ']') rfl]
    | cons j items =>
      obtain ⟨c, cs, hfront, hgap, hclose⟩ := exists_front_writeItems (h j (by simp)) items
      rw [(skipGap_append ⟨c, cs, hfront, hgap⟩ _).1]
      split
      · next more heq =>
        rw [hfront] at heq
        exact absurd (List.cons.inj heq).1 hclose
      · exact takeItems?_writeItems h (fun k hk => ih k hk) [] (by omega)
  | @object room fields names h ih =>
    intro fuel rest hfuel _
    rw [toList_write_object] at hfuel ⊢
    rw [length_cons, length_append, length_singleton] at hfuel
    obtain ⟨fuel, rfl⟩ : ∃ k, fuel = k + 1 := ⟨fuel - 1, by omega⟩
    rw [cons_append, append_assoc, takeValue?]
    cases fields with
    | nil => simp [writeFields, skipGap_cons (c := '\x7d') rfl]
    | cons f fields =>
      obtain ⟨cs, hfront⟩ := exists_front_writeFields f fields
      rw [(skipGap_append ⟨_, cs, hfront, rfl⟩ _).1]
      split
      · next more heq =>
        rw [hfront] at heq
        cases heq
      · exact takeFields?_writeFields h (fun g hg => ih g hg) (by simpa using names) (by omega)

/-! ### Depth -/

section Depth

variable {top : ℕ}

variable {c : Char} {depth : ℕ}

end Depth

/-! ### Plain characters -/

lemma eq_of_isGap (hc : isGap c = true) : c = ' ' ∨ c = '\t' ∨ c = '\n' ∨ c = '\r' := by
  simpa [isGap, or_assoc] using hc

section Blanks

variable {j : Json} (h : Fits limit room j) {blanks : List Char}
    (hblanks : ∀ c ∈ blanks, isGap c = true)

include h hblanks

lemma takeValue?_write_append {fuel : ℕ} (hfuel : (write j).toList.length ≤ fuel) :
    takeValue? limit fuel ((write j).toList ++ blanks) = some (j, blanks) := by
  refine h.readsBack hfuel fun c hc => ?_
  obtain rfl | rfl | rfl | rfl := eq_of_isGap (hblanks c (mem_of_mem_head? hc)) <;> decide

end Blanks

lemma Fits.mono {limit' room' : ℕ} (h : Fits limit room j) (hlimit : limit ≤ limit')
    (hroom : room ≤ room') : Fits limit' room' j := by
  induction h generalizing room' with
  | null => exact .null
  | bool b => exact .bool b
  | @number _ x hx =>
    refine .number ?_
    cases x with
    | int i => exact Nat.le_trans hx hlimit
    | real x => exact hx
    | posInf | negInf | nan => trivial
  | text s => exact .text s
  | list h ih =>
    obtain ⟨room', rfl⟩ : ∃ k, room' = k + 1 := ⟨room' - 1, by omega⟩
    exact .list fun j hj => ih j hj (by omega)
  | object names h ih =>
    obtain ⟨room', rfl⟩ : ∃ k, room' = k + 1 := ⟨room' - 1, by omega⟩
    exact .object names fun f hf => ih f hf (by omega)

/-- A value that its text tells: one that fits if there is enough room. -/
def Lasting (j : Json) : Prop := ∃ limit room, Fits limit room j

namespace Lasting

lemma null : Lasting .null := ⟨0, 0, .null⟩

lemma text (s : String) : Lasting (.text s) := ⟨0, 0, .text s⟩

lemma int (i : ℤ) : Lasting (.number (.int i)) :=
  ⟨decimalLength i.natAbs, 0, .number (Nat.le_refl _)⟩

variable {items : List Json}

lemma exists_fits (h : ∀ j ∈ items, Lasting j) : ∃ limit room, ∀ j ∈ items, Fits limit room j := by
  induction items with
  | nil => exact ⟨0, 0, by simp⟩
  | cons j items ih =>
    obtain ⟨⟨limit, room, hj⟩, hitems⟩ := forall_mem_cons.1 h
    obtain ⟨limit', room', hitems⟩ := ih hitems
    refine ⟨max limit limit', max room room', forall_mem_cons.2 ⟨?_, fun k hk => ?_⟩⟩
    · exact hj.mono (Nat.le_max_left ..) (Nat.le_max_left ..)
    · exact (hitems k hk).mono (Nat.le_max_right ..) (Nat.le_max_right ..)

lemma list (h : ∀ j ∈ items, Lasting j) : Lasting (.list items) := by
  obtain ⟨limit, room, hitems⟩ := exists_fits h
  exact ⟨limit, room + 1, .list hitems⟩

lemma object {fields : List (String × Json)} (names : (fields.map Prod.fst).Nodup)
    (h : ∀ f ∈ fields, Lasting f.2) : Lasting (.object fields) := by
  have hvalues : ∀ j ∈ fields.map Prod.snd, Lasting j := forall_mem_map.2 h
  obtain ⟨limit, room, hfits⟩ := exists_fits hvalues
  exact ⟨limit, room + 1, .object names (forall_mem_map.1 hfits)⟩

lemma eq_of_write_eq {a b : Json} (ha : Lasting a) (hb : Lasting b) (h : write a = write b) :
    a = b := by
  have hboth : ∀ j ∈ [a, b], Lasting j := by simp [ha, hb]
  obtain ⟨limit, room, hfits⟩ := exists_fits hboth
  have hread {j : Json} (hj : j ∈ [a, b]) :
      takeValue? limit (write j).toList.length ((write j).toList ++ []) = some (j, []) :=
    takeValue?_write_append (hfits j hj) (by simp) (Nat.le_refl _)
  have hab := h ▸ hread (by simp)
  rw [hread (by simp)] at hab
  cases hab
  rfl

end Lasting

end SetTop.Json
