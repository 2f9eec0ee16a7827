import SetTop.Proofs.Config.Line
import SetTop.Proofs.Config.View

/-!
Reading a configuration file.

A text is a list of items, the headers and the values of options, whatever the settings, and to read
it is to enter these items one after the other (`readText_items`). So the view of the result is that of the text alone, laid over what was there
before (`readText_above`). Names and values that were read can be written and read again.
-/

namespace SetTop.Settings

open Text (isBlank)
open List Text String

/-! ### Items -/

/-- What a text has settings changed by: a header, or an option of a section with its value. -/
inductive Item
  | header (name : String)
  | option (name key value : String)

namespace Item

def enter (s : Settings) : Item → Settings
  | .header name => s.mention name
  | .option name key value => s.putOption name key value

/-- What is entered shows. -/
def show? (w : View) : Item → View
  | .header name => w.mention name
  | .option name key value => w.put name key value

end Item

variable {s : Settings}

lemma Sound.enter (hs : s.Sound) (i : Item) : (i.enter s).Sound := by
  cases i with
  | header name => exact hs.mention name
  | option name key value => exact hs.putOption name key value

lemma Sound.enterAll (hs : s.Sound) (items : List Item) : (items.foldl Item.enter s).Sound := by
  induction items generalizing s with
  | nil => exact hs
  | cons i items ih => exact ih (hs.enter i)

lemma view_enter (s : Settings) (i : Item) : (i.enter s).view = i.show? s.view := by
  cases i with
  | header name => exact view_mention s name
  | option name key value => exact view_putOption s name key value

lemma show?_above (i : Item) (upper lower : View) :
    i.show? (upper.above lower) = (i.show? upper).above lower := by
  have hmention (name : String) : (upper.above lower).mention name = (upper.mention name).above lower := by
    refine View.ext (fun n => ?_) fun n k => rfl
    simp only [View.mention, View.above]
    rw [Bool.or_assoc, Bool.or_assoc, Bool.or_comm (lower.has n)]
  cases i with
  | header name => exact hmention name
  | option name key value =>
    refine View.ext (fun n => congrFun (congrArg View.has (hmention name)) n) fun n k => ?_
    simp only [Item.show?, View.put, View.above]
    split <;> rfl

lemma view_enterAll (s : Settings) (items : List Item) :
    (items.foldl Item.enter s).view = (items.foldl Item.show? View.empty).above s.view := by
  have habove (upper lower : View) : items.foldl Item.show? (upper.above lower) =
      (items.foldl Item.show? upper).above lower := by
    induction items generalizing upper with
    | nil => rfl
    | cons i items ih => rw [foldl_cons, foldl_cons, show?_above, ih]
  have hview : (items.foldl Item.enter s).view = items.foldl Item.show? s.view := by
    clear habove
    induction items generalizing s with
    | nil => rfl
    | cons i items ih => rw [foldl_cons, foldl_cons, ih, view_enter]
  have hempty : View.empty.above s.view = s.view := View.ext (fun _ => rfl) fun _ _ => rfl
  rw [hview, ← habove, hempty]

/-! ### Lines -/

/-- The lines of a value that can be written under an option: the first one stands next to the name,
and each further one in a line of its own. -/
def Spelled (k v : List Char) : Prop :=
  ∃ first rest, v = Text.join ['\n'] (first :: rest) ∧ Keyed k first ∧ ∀ w ∈ rest, Clear w

/-- What an item is made of can be written. -/
def Item.Legible : Item → Prop
  | .header name => Heading name.toList
  | .option name key value => Heading name.toList ∧ Spelled key.toList value.toList

namespace Reader

variable {c : Reader} {line : List Char}

/-- The same place in a text, with other settings. -/
def on (c : Reader) (s : Settings) : Reader := { c with settings := s }

/-- The settings have the section of the reader, and there the value that is being filled. -/
structure Tracks (c : Reader) (value : String) (s : Settings) : Prop where
  sound : s.Sound
  mentioned : ∀ name, c.current = some name → s.mention name = s
  filling : ∀ name key, c.current = some name → c.option = some key → s.view.value name key = some value

/-- What the reader has taken up can be written. -/
structure Legible (c : Reader) (value : String) : Prop where
  heading : ∀ name, c.current = some name → Heading name.toList
  spelled : ∀ key, c.option = some key → Spelled key.toList value.toList

/-- To take up a line is to enter items, the same into all settings. -/
def Enters (c : Reader) (value : String) (c' : Reader) (value' : String) (items : List Item)
    (f : Reader → Except ReadError Reader) : Prop :=
  ∀ s, c.Tracks value s →
    f (c.on s) = .ok (c'.on (items.foldl Item.enter s)) ∧ c'.Tracks value' (items.foldl Item.enter s)

variable {value text : String}

lemma enters_continue {name key : String} (hname : c.current = some name) (hkey : c.option = some key)
    (text : String) :
    c.Enters value c (value ++ "\n" ++ text) [.option name key (value ++ "\n" ++ text)]
      fun r => .ok (r.continue text) := by
  intro s hs
  have hvalue := hs.filling name key hname hkey
  have hcontinue : (c.on s).continue text = c.on (s.putOption name key (value ++ "\n" ++ text)) := by
    simp only [Reader.continue, on, hname, hkey, putOption, hs.mentioned name hname]
    congr 1
    refine modifySection_congr hs.sound fun t ht => ?_
    have hget : t.get? key = some value := by simpa [view, ht] using hvalue
    rw [hget]
    rfl
  refine ⟨congrArg Except.ok hcontinue, hs.sound.putOption _ _ _, fun n hn => ?_, fun n k hn hk => ?_⟩
  · obtain rfl := Option.some.inj (hname.symm.trans hn)
    exact mention_putOption _ _ _ _
  · obtain rfl := Option.some.inj (hname.symm.trans hn)
    obtain rfl := Option.some.inj (hkey.symm.trans hk)
    simp [Item.enter, view_putOption, View.put]

lemma spelled_concat {k : List Char} (h : Spelled k value.toList) (htext : Clear text.toList) :
    Spelled k (value ++ "\n" ++ text).toList := by
  obtain ⟨first, rest, hvalue, hfirst, hrest⟩ := h
  refine ⟨first, rest ++ [text.toList], ?_, hfirst, fun w hw => ?_⟩
  · rw [toList_append, toList_append, hvalue, ← cons_append, join_concat]
    · simp
    · simp
  · rcases mem_append.1 hw with hw | hw
    · exact hrest w hw
    · rwa [mem_singleton.1 hw]

lemma continue_enters (c : Reader) (value : String) (htext : Clear text.toList) :
    ∃ value' items, c.Enters value c value' items (fun r => .ok (r.continue text)) ∧
      (c.Legible value → c.Legible value' ∧ ∀ i ∈ items, i.Legible) := by
  cases hname : c.current with
  | none =>
    refine ⟨value, [], fun s hs => ⟨?_, hs⟩, fun hc => ⟨hc, by simp⟩⟩
    simp only [on, hname]
    rfl
  | some name =>
    cases hkey : c.option with
    | none =>
      refine ⟨value, [], fun s hs => ⟨?_, hs⟩, fun hc => ⟨hc, by simp⟩⟩
      simp only [on, hname, hkey]
      rfl
    | some key =>
      refine ⟨_, _, enters_continue hname hkey text, fun hc => ?_⟩
      have hspelled := spelled_concat (hc.spelled key hkey) htext
      refine ⟨⟨hc.heading, fun k hk => ?_⟩, fun i hi => ?_⟩
      · obtain rfl := Option.some.inj (hkey.symm.trans hk)
        exact hspelled
      · obtain rfl := mem_singleton.1 hi
        exact ⟨hc.heading name hname, hspelled⟩

lemma begin_enters (c : Reader) (value : String) (indent : Nat) {b : List Char} (hb : Clear b)
    (hc : c.faulty = false → c.Legible value) : (∃ e, ∀ s, (c.on s).begin indent b = .error e) ∨
      ∃ c' value' items, c.Enters value c' value' items (·.begin indent b) ∧
        (c'.faulty = false → c.faulty = false ∧ c'.Legible value' ∧ ∀ i ∈ items, i.Legible) := by
  cases hheader : header? b with
  | some name =>
    have hheading := heading_of_header? hb hheader
    refine .inr ⟨{ c with current := some name, option := none, indent := indent }, value,
      [.header name], fun s hs => ⟨?_, hs.sound.mention name, fun n hn => ?_, nofun⟩, fun hfaulty => ?_⟩
    · simp only [begin, hheader]
      rfl
    · obtain rfl := Option.some.inj hn
      exact mention_mention _ _
    · refine ⟨hfaulty, ⟨fun n hn => ?_, nofun⟩, fun i hi => ?_⟩
      · obtain rfl := Option.some.inj hn
        exact hheading
      · obtain rfl := mem_singleton.1 hi
        exact hheading
  | none =>
    cases hname : c.current with
    | none =>
      refine .inl ⟨.missingHeader, fun s => ?_⟩
      simp only [begin, hheader, on, hname]
    | some name =>
      cases hassign : assignment? b with
      | none =>
        refine .inr ⟨{ c with indent := indent, faulty := true }, value, [],
          fun s hs => ⟨?_, hs.sound, hs.mentioned, hs.filling⟩, nofun⟩
        simp only [begin, hheader, on, hname, hassign]
        rfl
      | some pair =>
        obtain ⟨option, text⟩ := pair
        refine .inr ⟨{ c with option := some (optionName option), indent := indent
                              faulty := c.faulty || (optionName option).isEmpty }, text,
          [.option name (optionName option) text], fun s hs => ⟨?_, ?_, ?_, ?_⟩, fun hfaulty => ?_⟩
        · simp only [begin, hheader, on, hname, hassign, foldl_cons, foldl_nil, Item.enter,
            putOption, hs.mentioned name hname]
        · exact hs.sound.putOption _ _ _
        · intro n hn
          obtain rfl := Option.some.inj (hname.symm.trans hn)
          exact mention_putOption _ _ _ _
        · intro n k hn hk
          obtain rfl := Option.some.inj (hname.symm.trans hn)
          obtain rfl := Option.some.inj hk
          simp [Item.enter, view_putOption, View.put]
        · rw [Bool.or_eq_false_iff] at hfaulty
          have hlegible := hc hfaulty.1
          have hne : optionName option ≠ "" := by simpa using hfaulty.2
          have hspelled : Spelled (optionName option).toList text.toList :=
            ⟨_, [], rfl, keyed_of_assignment? hb hheader hassign hne, by simp⟩
          refine ⟨hfaulty.1, ⟨hlegible.heading, fun k hk => ?_⟩, fun i hi => ?_⟩
          · obtain rfl := Option.some.inj hk
            exact hspelled
          · obtain rfl := mem_singleton.1 hi
            exact ⟨hlegible.heading name hname, hspelled⟩

lemma step_enters (c : Reader) (value : String) (hline : IsLine line)
    (hc : c.faulty = false → c.Legible value) : (∃ e, ∀ s, (c.on s).step line = .error e) ∨
      ∃ c' value' items, c.Enters value c' value' items (·.step line) ∧
        (c'.faulty = false → c.faulty = false ∧ c'.Legible value' ∧ ∀ i ∈ items, i.Legible) := by
  have hclear := hline.clear_body
  have hcontinue (text : String) (htext : Clear text.toList)
      (hstep : ∀ s, (c.on s).step line = .ok ((c.on s).continue text)) :
      ∃ c' value' items, c.Enters value c' value' items (·.step line) ∧
        (c'.faulty = false → c.faulty = false ∧ c'.Legible value' ∧ ∀ i ∈ items, i.Legible) := by
    obtain ⟨value', items, henters, hlegible⟩ := continue_enters c value htext
    refine ⟨c, value', items, fun s hs => ?_, fun hfaulty => ⟨hfaulty, hlegible (hc hfaulty)⟩⟩
    exact ⟨(hstep s).trans (henters s hs).1, (henters s hs).2⟩
  by_cases hbody : (body line).isEmpty
  · by_cases hfilling : ((remark? line).isNone && c.isFilling) = true
    · rw [isEmpty_iff.1 hbody] at hclear
      refine .inr (hcontinue "" hclear fun s => ?_)
      rw [step, if_pos hbody]
      exact if_pos hfilling
    · refine .inr ⟨c, value, [], fun s hs => ⟨?_, hs⟩, fun hfaulty => ⟨hfaulty, hc hfaulty, by simp⟩⟩
      change (c.on s).step line = _
      rw [step, if_pos hbody]
      exact if_neg hfilling
  · by_cases hfilling : (c.current.isSome && c.isFilling &&
        decide ((line.takeWhile isBlank).length > c.indent)) = true
    · refine .inr (hcontinue (String.ofList (body line)) (by simpa using hclear) fun s => ?_)
      rw [step, if_neg hbody]
      exact if_pos hfilling
    · have hstep (s : Settings) : (c.on s).step line =
          (c.on s).begin (line.takeWhile isBlank).length (body line) := by
        rw [step, if_neg hbody]
        exact if_neg hfilling
      rcases begin_enters c value (line.takeWhile isBlank).length hclear hc with ⟨e, he⟩ | h
      · exact .inl ⟨e, fun s => (hstep s).trans (he s)⟩
      · obtain ⟨c', value', items, henters, hlegible⟩ := h
        refine .inr ⟨c', value', items, fun s hs => ?_, hlegible⟩
        exact ⟨(hstep s).trans (henters s hs).1, (henters s hs).2⟩

lemma foldlM_enters (c : Reader) (value : String) {lines : List (List Char)}
    (hlines : ∀ line ∈ lines, IsLine line) (hc : c.faulty = false → c.Legible value) :
    (∃ e, ∀ s, c.Tracks value s → lines.foldlM step (c.on s) = .error e) ∨
      ∃ (c' : Reader) (items : List Item),
        (c'.faulty = false → c.faulty = false ∧ ∀ i ∈ items, i.Legible) ∧
        ∀ s, c.Tracks value s → lines.foldlM step (c.on s) = .ok (c'.on (items.foldl Item.enter s)) := by
  induction lines generalizing c value with
  | nil => exact .inr ⟨c, [], fun hfaulty => ⟨hfaulty, by simp⟩, fun _ _ => rfl⟩
  | cons line lines ih =>
    have hline := hlines line mem_cons_self
    rcases step_enters c value hline hc with ⟨e, he⟩ | ⟨c₁, value₁, items₁, henters, hlegible₁⟩
    · refine .inl ⟨e, fun s _ => ?_⟩
      rw [foldlM_cons, he]
      rfl
    · have hrest := ih c₁ value₁ (fun l hl => hlines l (mem_cons_of_mem _ hl))
        fun hfaulty => (hlegible₁ hfaulty).2.1
      rcases hrest with ⟨e, he⟩ | ⟨c₂, items₂, hlegible₂, hrun⟩
      · refine .inl ⟨e, fun s hs => ?_⟩
        have hstep : (c.on s).step line = .ok (c₁.on (items₁.foldl Item.enter s)) := (henters s hs).1
        rw [foldlM_cons, hstep]
        exact he _ (henters s hs).2
      · refine .inr ⟨c₂, items₁ ++ items₂, fun hfaulty => ?_, fun s hs => ?_⟩
        · obtain ⟨hfaulty₁, hitems₂⟩ := hlegible₂ hfaulty
          obtain ⟨hfaulty₀, -, hitems₁⟩ := hlegible₁ hfaulty₁
          refine ⟨hfaulty₀, fun i hi => ?_⟩
          rcases mem_append.1 hi with hi | hi
          · exact hitems₁ i hi
          · exact hitems₂ i hi
        · have hstep : (c.on s).step line = .ok (c₁.on (items₁.foldl Item.enter s)) := (henters s hs).1
          rw [foldlM_cons, hstep, foldl_append]
          exact hrun _ (henters s hs).2

end Reader

/-! ### Texts -/

lemma isLine_of_mem_lines {text line : List Char} (htext : '\r' ∉ text) (h : line ∈ Text.lines text) :
    IsLine line := by
  have hsub : ∀ c ∈ line, c ∈ text := by
    intro c hc
    rw [← flatten_ended text]
    rw [lines_eq] at h
    rcases mem_append.1 h with h | h
    · exact mem_append_left _ (mem_flatten.2 ⟨line, h, hc⟩)
    · split at h
      · cases h
      · rw [mem_singleton.1 h] at hc
        exact mem_append_right _ hc
  refine ⟨?_, fun hmem => htext (hsub _ hmem)⟩
  rw [lines_eq] at h
  rcases mem_append.1 h with h | h
  · obtain ⟨body, rfl, hbody⟩ := isEnded_of_mem_ended h
    simpa using hbody
  · split at h
    · cases h
    · obtain rfl := mem_singleton.1 h
      exact fun hmem => not_mem_unended text ((dropLast_sublist _).subset hmem)

variable {text value name : String} {items : List Item} {w : View}

lemma readText_of_foldlM {s : Settings} {r : Reader}
    (h : (Text.lines text.toList).foldlM Reader.step { settings := s } = .ok r) :
    s.readText text = if r.faulty then .error .badLine else .ok r.settings.trimValues := by
  rw [readText, h]
  cases hfaulty : r.faulty <;> simp [bind, Except.bind, hfaulty] <;> rfl

/-- What a text comes to does not depend on what it is read into. -/
lemma readText_items (htext : '\r' ∉ text.toList) :
    (∃ e, ∀ s : Settings, s.Sound → s.readText text = .error e) ∨
      ∃ items : List Item, (∀ i ∈ items, i.Legible) ∧
        ∀ s : Settings, s.Sound → s.readText text = .ok (items.foldl Item.enter s).trimValues := by
  have htracks {s : Settings} (hs : s.Sound) : Reader.Tracks { settings := {} } "" s :=
    ⟨hs, nofun, nofun⟩
  rcases Reader.foldlM_enters { settings := {} } "" (fun _ => isLine_of_mem_lines htext)
    (fun _ => ⟨nofun, nofun⟩) with ⟨e, he⟩ | ⟨c, items, hlegible, hrun⟩
  · refine .inl ⟨e, fun s hs => ?_⟩
    rw [readText]
    exact congrArg (· >>= _) (he s (htracks hs))
  · cases hfaulty : c.faulty with
    | true =>
      refine .inl ⟨.badLine, fun s hs => (readText_of_foldlM (hrun s (htracks hs))).trans ?_⟩
      exact if_pos hfaulty
    | false =>
      refine .inr ⟨items, (hlegible hfaulty).2, fun s hs => ?_⟩
      refine (readText_of_foldlM (hrun s (htracks hs))).trans ?_
      exact if_neg (by simp [Reader.on, hfaulty])

/-! ### Settings that were read -/

/-- What settings consist of can be written. -/
structure Legible (s : Settings) : Prop where
  heading : ∀ name, s.view.has name = true → Heading name.toList
  spelled : ∀ name key value, s.view.value name key = some value → Spelled key.toList value.toList

/-- Settings as they are after reading: values end without white space. -/
structure Tidy (s : Settings) : Prop where
  sound : s.Sound
  trimmed : s.view.map trimEnd = s.view

structure Writable (s : Settings) : Prop extends s.Tidy where
  legible : s.Legible

lemma stripEnd_join {first : List Char} (hfirst : Text.Trimmed first) {rest : List (List Char)}
    (hrest : ∀ w ∈ rest, Clear w) : ∃ rest', (∀ w ∈ rest', Clear w) ∧
      Text.stripEnd (Text.join ['\n'] (first :: rest)) = Text.join ['\n'] (first :: rest') := by
  induction rest generalizing first with
  | nil => exact ⟨[], by simp, stripEnd_of_last hfirst.last⟩
  | cons w rest ih =>
    have hw := hrest w mem_cons_self
    obtain ⟨rest', hrest', hstrip⟩ := ih hw.trimmed fun v hv => hrest v (mem_cons_of_mem _ hv)
    rw [Text.join, stripEnd_append, hstrip]
    split
    · refine ⟨[], by simp, ?_⟩
      rw [stripEnd_append_of_blank blank_break]
      exact stripEnd_of_last hfirst.last
    · refine ⟨w :: rest', fun v hv => ?_, rfl⟩
      rcases mem_cons.1 hv with rfl | hv
      · exact hw
      · exact hrest' v hv

lemma Spelled.trimEnd {k : List Char} (h : Spelled k value.toList) :
    Spelled k (Settings.trimEnd value).toList := by
  obtain ⟨first, rest, hvalue, hfirst, hrest⟩ := h
  obtain ⟨rest', hrest', heq⟩ := stripEnd_join hfirst.trimmed hrest
  refine ⟨first, rest', ?_, hfirst, hrest'⟩
  rw [Settings.trimEnd, toList_ofList, hvalue, heq]

lemma has_showAll (h : (items.foldl Item.show? w).has name = true) :
    w.has name = true ∨ .header name ∈ items ∨ ∃ key value, .option name key value ∈ items := by
  induction items generalizing w with
  | nil => exact .inl h
  | cons i items ih =>
    rcases ih h with hw | hheader | ⟨key, value, hoption⟩
    · cases i with
      | header m =>
        by_cases hm : name = m
        · exact .inr (.inl (hm ▸ mem_cons_self))
        · exact .inl (by simpa [Item.show?, View.mention, hm] using hw)
      | option m key value =>
        by_cases hm : name = m
        · exact .inr (.inr ⟨key, value, hm ▸ mem_cons_self⟩)
        · exact .inl (by simpa [Item.show?, View.put, View.mention, hm] using hw)
    · exact .inr (.inl (mem_cons_of_mem _ hheader))
    · exact .inr (.inr ⟨key, value, mem_cons_of_mem _ hoption⟩)

lemma value_showAll {key : String} (h : (items.foldl Item.show? w).value name key = some value) :
    w.value name key = some value ∨ .option name key value ∈ items := by
  induction items generalizing w with
  | nil => exact .inl h
  | cons i items ih =>
    rcases ih h with hw | hoption
    · cases i with
      | header m => exact .inl hw
      | option m k v =>
        simp only [Item.show?, View.put] at hw
        split at hw
        · next hm =>
          obtain ⟨rfl, rfl⟩ := hm
          obtain rfl := Option.some.inj hw
          exact .inr mem_cons_self
        · exact .inl hw
    · exact .inr (mem_cons_of_mem _ hoption)

lemma view_items (items : List Item) :
    (items.foldl Item.enter {}).trimValues.view = (items.foldl Item.show? View.empty).map trimEnd := by
  rw [view_trimValues, view_enterAll, view_empty]
  simp [View.above, View.empty]

lemma legible_of_items (h : ∀ i ∈ items, i.Legible) :
    (items.foldl Item.enter {}).trimValues.Legible := by
  refine ⟨fun name hname => ?_, fun name key value hvalue => ?_⟩
  · rw [view_items] at hname
    rcases has_showAll hname with hfalse | hheader | ⟨key, value, hoption⟩
    · cases hfalse
    · exact h _ hheader
    · exact (h _ hoption).1
  · rw [view_items] at hvalue
    obtain ⟨whole, hwhole, rfl⟩ := Option.map_eq_some_iff.1 hvalue
    rcases value_showAll hwhole with hnone | hoption
    · cases hnone
    · exact Spelled.trimEnd (h _ hoption).2

lemma trimEnd_trimEnd (v : String) : trimEnd (trimEnd v) = trimEnd v := by
  simp [trimEnd]

lemma map_trimEnd_map_trimEnd (w : View) : (w.map trimEnd).map trimEnd = w.map trimEnd := by
  refine View.ext (fun n => rfl) fun n k => ?_
  show ((w.value n k).map trimEnd).map trimEnd = (w.value n k).map trimEnd
  cases w.value n k with
  | none => rfl
  | some v => exact congrArg some (trimEnd_trimEnd v)

lemma map_above (f : String → String) (w base : View) :
    (w.above base).map f = (w.map f).above (base.map f) := by
  refine View.ext (fun n => rfl) fun n k => ?_
  exact Option.map_or

section Texts

variable {text : String} (htext : '\r' ∉ text.toList) {base own : Settings}

include htext

lemma writable_of_readText (h : ({} : Settings).readText text = .ok own) : own.Writable := by
  rcases readText_items htext with ⟨e, he⟩ | ⟨items, hlegible, hitems⟩
  · cases (he _ sound_empty).symm.trans h
  · obtain rfl := Except.ok.inj ((hitems _ sound_empty).symm.trans h)
    refine ⟨⟨(sound_empty.enterAll items).trimValues, ?_⟩, legible_of_items hlegible⟩
    rw [view_items, map_trimEnd_map_trimEnd]

lemma readText_above (hbase : base.Tidy) (h : ({} : Settings).readText text = .ok own) :
    ∃ s, base.readText text = .ok s ∧ s.Tidy ∧ s.view = own.view.above base.view := by
  rcases readText_items htext with ⟨e, he⟩ | ⟨items, -, hitems⟩
  · cases (he _ sound_empty).symm.trans h
  · obtain rfl := Except.ok.inj ((hitems _ sound_empty).symm.trans h)
    refine ⟨_, hitems base hbase.sound, ⟨(hbase.sound.enterAll items).trimValues, ?_⟩, ?_⟩
    · rw [view_trimValues, map_trimEnd_map_trimEnd]
    · rw [view_items, view_trimValues, view_enterAll, map_above, hbase.trimmed]

end Texts

end SetTop.Settings
