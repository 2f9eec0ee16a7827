import SetTop.Proofs.Config.Reading

/-!
Writing a configuration file.

Settings that were read from a text are written as lines that say the same again, one for each
section and one for each line of a value (`readText_toText`). There is one exception: the first line
of a value is lost if it starts with a semicolon, since a blank is written in front of it, and behind
a blank a semicolon starts a remark (`muted`).
-/

namespace SetTop

open List Text Association

/-! ### Lines -/

namespace Text

lemma splitAtChar_join {first : List Char} {rest : List (List Char)} (hfirst : '\n' ∉ first)
    (hrest : ∀ w ∈ rest, '\n' ∉ w) : splitAtChar '\n' (join ['\n'] (first :: rest)) = first :: rest := by
  induction rest generalizing first with
  | nil => exact splitAtChar_of_not_mem hfirst
  | cons w rest ih =>
    rw [join, append_assoc, singleton_append, splitAtChar_line hfirst,
      ih (hrest w mem_cons_self) fun v hv => hrest v (mem_cons_of_mem _ hv)]

lemma join_cons_append (sep p q : List Char) (rest : List (List Char)) :
    join sep ((p ++ sep ++ q) :: rest) = join sep (p :: q :: rest) := by
  cases rest with
  | nil => rfl
  | cons r rest => simp [join]

lemma join_inset (first : List Char) (rest : List (List Char)) :
    join ['\n', '\t'] (first :: rest) ++ ['\n'] =
      first ++ ['\n'] ++ (rest.map fun w => ['\t'] ++ (w ++ ['\n'])).flatten := by
  induction rest generalizing first with
  | nil => simp [join]
  | cons w rest ih => simp [join, ih]

end Text

namespace Settings

open Text (isBlank)

variable {k v w : List Char} {first : List Char} {rest : List (List Char)}

def headerLine (n : List Char) : List Char := '[' :: (n ++ [']']) ++ ['\n']

def optionLines (k v : List Char) : List (List Char) :=
  match splitAtChar '\n' v with
  | [] => []
  | first :: rest =>
    (k ++ ([' ', '=', ' '] ++ (first ++ ['\n']))) :: rest.map fun w => ['\t'] ++ (w ++ ['\n'])

def sectionLines (name : String) (t : TextTable) : List (List Char) :=
  headerLine name.toList :: (t.flatMap fun e => optionLines e.1.toList e.2.toList) ++ [['\n']]

lemma optionLines_join (hfirst : Keyed k first) (hrest : ∀ w ∈ rest, Clear w) :
    optionLines k (join ['\n'] (first :: rest)) =
      (k ++ ([' ', '=', ' '] ++ (first ++ ['\n']))) :: rest.map fun w => ['\t'] ++ (w ++ ['\n']) := by
  rw [optionLines, splitAtChar_join hfirst.unbroken.1 fun w hw => (hrest w hw).unbroken.1]

lemma flatten_optionLines (k v : String) : (optionLines k.toList v.toList).flatten =
      (k ++ " = " ++ replaceText v "\n" "\n\t" ++ "\n").toList := by
  obtain ⟨first, rest, hv⟩ := exists_cons_of_ne_nil (splitAtChar_ne_nil '\n' v.toList)
  have hreplace : (replaceText v "\n" "\n\t").toList = join ['\n', '\t'] (first :: rest) := by
    rw [replaceText, String.toList_ofList, replaceAll]
    rw [show "\n".toList = ['\n'] from rfl, splitOn_singleton, hv]
    rfl
  have hinset := join_inset first rest
  simp only [optionLines, hv, String.toList_append, hreplace, append_assoc]
  rw [show "\n".toList = ['\n'] from rfl, hinset]
  simp

lemma flatten_sectionLines (name : String) (t : TextTable) :
    (sectionLines name t).flatten = (sectionText name t).toList := by
  have hoptions : (t.flatMap fun e => optionLines e.1.toList e.2.toList).flatten =
      (String.join (t.map fun e => e.1 ++ " = " ++ replaceText e.2 "\n" "\n\t" ++ "\n")).toList := by
    rw [String.toList_join, flatMap_def, flatMap_def, flatten_flatten, map_map, map_map]
    exact congrArg List.flatten (map_congr_left fun e _ => flatten_optionLines e.1 e.2)
  simp only [sectionLines, headerLine, sectionText, flatten_cons, flatten_append, hoptions]
  simp

def textLines (s : Settings) : List (List Char) :=
  (if s.defaults.isEmpty then [] else sectionLines defaultSection s.defaults) ++
    s.sections.flatMap fun e => sectionLines e.1 e.2

lemma flatten_textLines (s : Settings) : s.textLines.flatten = s.toText.toList := by
  have hsections : (s.sections.flatMap fun e => sectionLines e.1 e.2).flatten =
      (String.join (s.sections.map fun e => sectionText e.1 e.2)).toList := by
    rw [String.toList_join, flatMap_def, flatMap_def, flatten_flatten, map_map, map_map]
    exact congrArg List.flatten (map_congr_left fun e _ => flatten_sectionLines e.1 e.2)
  rw [textLines, toText, flatten_append, String.toList_append]
  congr 1
  split
  · rfl
  · exact flatten_sectionLines _ _

/-! ### What is written can be read -/

/-- The part of a value that is read back. -/
def muted (v : String) : String :=
  String.ofList (if v.toList.head? = some ';' then v.toList.dropWhile (· ≠ '\n') else v.toList)

lemma muted_join (hfirst : '\n' ∉ first) (rest : List (List Char)) :
    muted (String.ofList (join ['\n'] (first :: rest))) =
      String.ofList (join ['\n'] (shown first :: rest)) := by
  have hall : ∀ c ∈ first, decide (c ≠ '\n') = true := by
    intro c hc
    simp only [decide_not, Bool.not_eq_eq_eq_not, Bool.not_true, decide_eq_false_iff_not]
    rintro rfl
    exact hfirst hc
  cases rest with
  | nil =>
    simp only [muted, shown, join, String.toList_ofList]
    split
    · rw [dropWhile_eq_nil_iff.2 hall]
    · rfl
  | cons w rest =>
    -- The first line has the semicolon if the value has it: a line feed is none.
    have hhead : (join ['\n'] (first :: w :: rest)).head? = some ';' ↔ first.head? = some ';' := by
      cases first <;> simp [join]
    simp only [muted, shown, String.toList_ofList, hhead]
    split
    · rw [join, append_assoc, dropWhile_append_of_pos hall]
      rfl
    · rfl

variable {value name : String} {t : TextTable} {r : Reader} {sections : List (String × TextTable)}
  {line : List Char}

lemma trimEnd_muted (h : trimEnd value = value) : trimEnd (muted value) = muted value := by
  have hlast : ∀ c ∈ value.toList.getLast?, isBlank c = false := by
    rw [← h, trimEnd, String.toList_ofList]
    exact last_stripEnd _
  rw [muted]
  split
  · rw [trimEnd, String.toList_ofList, stripEnd_of_last]
    intro c hc
    obtain ⟨front, hfront⟩ := dropWhile_suffix (l := value.toList) (fun c => decide (c ≠ '\n'))
    refine hlast c ?_
    rw [← hfront, getLast?_append, Option.mem_def.1 hc]
    rfl
  · rw [String.ofList_toList, h]

lemma View.put_put (w : View) (name key a b : String) :
    (w.put name key a).put name key b = w.put name key b := by
  refine View.ext (fun n => ?_) fun n k => ?_
  · simp only [View.put, View.mention, Bool.or_assoc, Bool.or_self]
  · simp only [View.put]
    split <;> rfl

lemma View.put_eq_self {w : View} {key : String} (hname : w.mention name = w)
    (h : w.value name key = some value) : w.put name key value = w := by
  refine View.ext (fun n => congrFun (congrArg View.has hname) n) fun n k => ?_
  simp only [View.put]
  split
  · next hnk => rw [hnk.1, hnk.2, h]
  · rfl

lemma View.map_put (f : String → String) (w : View) (name key value : String) :
    (w.put name key value).map f = (w.map f).put name key (f value) := by
  refine View.ext (fun n => rfl) fun n k => ?_
  simp only [View.put, View.map]
  split <;> rfl

namespace Reader

variable {r : Reader} {name key value : String}

/-- The reader is in a section, and lines that are not set in begin something there. -/
structure Within (r : Reader) (name : String) : Prop where
  current : r.current = some name
  indent : r.indent = 0
  faultless : r.faulty = false
  sound : r.settings.Sound
  mentioned : r.settings.mention name = r.settings
  filled : ∀ key, r.option = some key → ∃ value, r.settings.view.value name key = some value

lemma Within.tracks (h : r.Within name) (hkey : r.option = some key)
    (hvalue : r.settings.view.value name key = some value) : r.Tracks value r.settings := by
  refine ⟨h.sound, fun n hn => ?_, fun n k hn hk => ?_⟩
  · obtain rfl := Option.some.inj (h.current.symm.trans hn)
    exact h.mentioned
  · obtain rfl := Option.some.inj (h.current.symm.trans hn)
    obtain rfl := Option.some.inj (hkey.symm.trans hk)
    exact hvalue

lemma Within.view_mention (h : r.Within name) : r.settings.view.mention name = r.settings.view := by
  rw [← Settings.view_mention, h.mentioned]

lemma step_of_indent_zero {line : List Char} (hbody : body line ≠ [])
    (hindent : (line.takeWhile isBlank).length = 0) : r.step line = r.begin 0 (body line) := by
  rw [step, if_neg (by simpa using hbody), if_neg (by simp [hindent]), hindent]

lemma step_headerLine (hs : r.settings.Sound) (hfaulty : r.faulty = false)
    (hname : Heading name.toList) :
    ∃ r', r.step (headerLine name.toList) = .ok r' ∧ r'.Within name ∧
      r'.settings.view = r.settings.view.mention name := by
  have hbody : body (headerLine name.toList) = '[' :: (name.toList ++ [']']) := by
    have := hname.clear.body_eq blank_nil blank_break
    exact this
  have hindent : ((headerLine name.toList).takeWhile isBlank).length = 0 := by
    have := hname.clear.indent_eq (by simp) blank_nil ['\n']
    exact this
  have hmention : (if name == defaultSection then r.settings else r.settings.addSection name) =
      r.settings.mention name := rfl
  have hstep := step_of_indent_zero (r := r) (by simp [hbody]) hindent
  rw [hbody] at hstep
  simp only [begin, hname.header?_eq, String.ofList_toList] at hstep
  refine ⟨_, hstep, ⟨rfl, rfl, hfaulty, hs.mention name, mention_mention _ _, ?_⟩, view_mention _ _⟩
  intro key hkey
  cases hkey

section Stepping

variable (hr : r.Within name)

include hr

lemma step_optionLine (h : Keyed k v) :
    ∃ r', r.step (k ++ ([' ', '=', ' '] ++ (v ++ ['\n']))) = .ok r' ∧ r'.Within name ∧
      r'.option = some (String.ofList k) ∧
      r'.settings.view = r.settings.view.put name (String.ofList k) (String.ofList (shown v)) := by
  have hindent := h.clear.indent_eq h.ne_nil blank_nil ([' ', '=', ' '] ++ (v ++ ['\n']))
  have hbody : body (k ++ ([' ', '=', ' '] ++ (v ++ ['\n']))) ≠ [] := by
    rw [h.body_eq]
    simp [h.ne_nil]
  have hlowered : optionName (String.ofList k) = String.ofList k := by
    rw [optionName, String.toList_ofList, h.lowered]
  have hempty : (String.ofList k).isEmpty = false := by simp [h.ne_nil]
  have hput : r.settings.modifySection name (·.put (String.ofList k) (String.ofList (shown v))) =
      r.settings.putOption name (String.ofList k) (String.ofList (shown v)) := by
    rw [putOption, hr.mentioned]
  have hstep := step_of_indent_zero (r := r) hbody hindent
  simp only [begin, h.header?_eq, hr.current, h.assignment?_eq, hlowered, hempty, hput,
    hr.faultless] at hstep
  refine ⟨_, hstep, ⟨rfl, rfl, rfl, hr.sound.putOption _ _ _, mention_putOption _ _ _ _, ?_⟩, rfl, ?_⟩
  · intro key hkey
    obtain rfl := Option.some.inj hkey
    rw [view_putOption]
    simp [View.put]
  · exact view_putOption _ _ _ _

lemma step_continue (hkey : r.option = some key) (hne : key ≠ "")
    (hvalue : r.settings.view.value name key = some value) (hw : Clear w) (front : List Char)
    (hfront : front.length = 0 ∧ w = [] ∨ 0 < front.length) (hblank : ∀ c ∈ front, isBlank c) :
    ∃ r', r.step (front ++ (w ++ ['\n'])) = .ok r' ∧ r'.Within name ∧ r'.option = some key ∧
      r'.settings.view = r.settings.view.put name key (value ++ "\n" ++ String.ofList w) := by
  have hfilling : r.isFilling = true := by simp [isFilling, hkey, hne]
  have hstep : r.step (front ++ (w ++ ['\n'])) = .ok (r.continue (String.ofList w)) := by
    rw [step, hw.body_eq hblank blank_break, hw.remark?_eq_none hblank blank_break,
      hfilling, hr.current, hr.indent]
    cases w with
    | nil => rfl
    | cons c w =>
      rw [hw.indent_eq (by simp) hblank]
      simp at hfront
      simp [hfront]
  obtain ⟨hcontinue, htracks⟩ := enters_continue hr.current hkey (String.ofList w) r.settings
    (hr.tracks hkey hvalue)
  refine ⟨_, hstep.trans hcontinue, ⟨hr.current, hr.indent, hr.faultless, htracks.sound,
    htracks.mentioned name hr.current, fun k hk => ?_⟩, hkey, view_putOption _ _ _ _⟩
  exact ⟨_, htracks.filling name k hr.current hk⟩

lemma foldlM_continue (hkey : r.option = some key) (hne : key ≠ "")
    (hvalue : r.settings.view.value name key = some value) (hrest : ∀ w ∈ rest, Clear w) :
    ∃ r', (rest.map fun w => ['\t'] ++ (w ++ ['\n'])).foldlM step r = .ok r' ∧ r'.Within name ∧
      r'.settings.view = r.settings.view.put name key
        (String.ofList (join ['\n'] (value.toList :: rest))) := by
  induction rest generalizing r value with
  | nil =>
    refine ⟨r, rfl, hr, ?_⟩
    rw [join, String.ofList_toList, View.put_eq_self hr.view_mention hvalue]
  | cons w rest ih =>
    obtain ⟨r₁, hstep, hr₁, hkey₁, hview₁⟩ := step_continue hr hkey hne hvalue
      (hrest w mem_cons_self) ['\t'] (.inr (by simp)) (all_eq_true.1 (by decide))
    have hvalue₁ : r₁.settings.view.value name key = some (value ++ "\n" ++ String.ofList w) := by
      rw [hview₁]
      simp [View.put]
    obtain ⟨r₂, hrun, hr₂, hview₂⟩ := ih hr₁ hkey₁ hvalue₁ fun v hv => hrest v (mem_cons_of_mem _ hv)
    refine ⟨r₂, ?_, hr₂, ?_⟩
    · rw [map_cons, foldlM_cons, hstep]
      exact hrun
    · rw [hview₂, hview₁, View.put_put]
      congr 2
      simpa using join_cons_append ['\n'] value.toList w rest

lemma foldlM_optionLines (h : Spelled key.toList value.toList) :
    ∃ r', (optionLines key.toList value.toList).foldlM step r = .ok r' ∧ r'.Within name ∧
      r'.settings.view = r.settings.view.put name key (muted value) := by
  obtain ⟨first, rest, hvalue, hfirst, hrest⟩ := h
  obtain ⟨r₁, hstep, hr₁, hkey₁, hview₁⟩ := step_optionLine hr hfirst
  rw [String.ofList_toList] at hkey₁ hview₁
  have hne : key ≠ "" := by
    rintro rfl
    exact hfirst.ne_nil rfl
  have hvalue₁ : r₁.settings.view.value name key = some (String.ofList (shown first)) := by
    rw [hview₁]
    simp [View.put]
  obtain ⟨r₂, hrun, hr₂, hview₂⟩ := foldlM_continue hr₁ hkey₁ hne hvalue₁ hrest
  refine ⟨r₂, ?_, hr₂, ?_⟩
  · rw [hvalue, optionLines_join hfirst hrest, foldlM_cons, hstep]
    exact hrun
  · rw [hview₂, hview₁, View.put_put, String.toList_ofList, ← muted_join hfirst.unbroken.1, ← hvalue,
      String.ofList_toList]

lemma foldlM_options {t : TextTable} (h : ∀ e ∈ t, Spelled e.1.toList e.2.toList) :
    ∃ r', (t.flatMap fun e => optionLines e.1.toList e.2.toList).foldlM step r = .ok r' ∧
      r'.Within name ∧
      r'.settings.view = t.foldl (fun w e => w.put name e.1 (muted e.2)) r.settings.view := by
  induction t generalizing r with
  | nil => exact ⟨r, rfl, hr, rfl⟩
  | cons e t ih =>
    obtain ⟨r₁, hrun₁, hr₁, hview₁⟩ := foldlM_optionLines hr (h e mem_cons_self)
    obtain ⟨r₂, hrun₂, hr₂, hview₂⟩ := ih hr₁ fun d hd => h d (mem_cons_of_mem _ hd)
    refine ⟨r₂, ?_, hr₂, ?_⟩
    · rw [flatMap_cons, foldlM_append, hrun₁]
      exact hrun₂
    · rw [hview₂, hview₁, foldl_cons]

lemma step_emptyLine : ∃ r', r.step ['\n'] = .ok r' ∧ r'.Within name ∧
      r'.settings.view.map trimEnd = r.settings.view.map trimEnd := by
  cases hfilling : r.isFilling with
  | false =>
    refine ⟨r, ?_, hr, rfl⟩
    have hbody : body ['\n'] = [] := by decide
    rw [step, hbody, hfilling]
    simp
  | true =>
    obtain ⟨key, hkey, hne⟩ : ∃ key, r.option = some key ∧ key ≠ "" := by
      cases hoption : r.option with
      | none => simp [isFilling, hoption] at hfilling
      | some key => exact ⟨key, rfl, by simpa [isFilling, hoption] using hfilling⟩
    obtain ⟨value, hvalue⟩ := hr.filled key hkey
    have hclear : Clear [] := ⟨⟨by simp, by simp⟩, rfl, by simp, by simp⟩
    obtain ⟨r', hstep, hr', -, hview⟩ := step_continue hr hkey hne hvalue hclear []
      (.inl ⟨rfl, rfl⟩) blank_nil
    have htrim : trimEnd (value ++ "\n" ++ String.ofList []) = trimEnd value := by
      simp only [trimEnd, String.toList_append, String.toList_ofList, append_nil]
      exact congrArg String.ofList (stripEnd_append_of_blank blank_break _)
    refine ⟨r', hstep, hr', ?_⟩
    have hmention : (r.settings.view.map trimEnd).mention name = r.settings.view.map trimEnd :=
      congrArg (View.map trimEnd) hr.view_mention
    rw [hview, View.map_put, htrim, View.put_eq_self hmention]
    simp [View.map, hvalue]

end Stepping

end Reader

/-! ### Sections -/

/-- A section that is written and read back. -/
def View.write (w : View) (name : String) (t : TextTable) : View :=
  t.foldl (fun w e => w.put name e.1 (muted e.2)) (w.mention name)

lemma View.map_write (w : View) (name : String) (ht : ∀ e ∈ t, trimEnd e.2 = e.2) :
    (w.write name t).map trimEnd = (w.map trimEnd).write name t := by
  have hmention : (w.map trimEnd).mention name = (w.mention name).map trimEnd := rfl
  rw [write, write, hmention]
  generalize w.mention name = w
  induction t generalizing w with
  | nil => rfl
  | cons e t ih =>
    rw [foldl_cons, ih fun d hd => ht d (mem_cons_of_mem _ hd), View.map_put,
      trimEnd_muted (ht e mem_cons_self), foldl_cons]

lemma View.mention_mention (w : View) (name : String) : (w.mention name).mention name = w.mention name := by
  simp only [View.mention, Bool.or_assoc, Bool.or_self]

lemma View.has_write (w : View) (name : String) (t : TextTable) (n : String) :
    (w.write name t).has n = (w.has n || (n == name && name != defaultSection)) := by
  have hfold (w : View) (hw : w.mention name = w) :
      (t.foldl (fun w e => w.put name e.1 (muted e.2)) w).has n = w.has n := by
    induction t generalizing w with
    | nil => rfl
    | cons e t ih =>
      have hput (m : String) : (w.put name e.1 (muted e.2)).has m = w.has m :=
        congrFun (congrArg View.has hw) m
      rw [foldl_cons, ih, hput]
      refine View.ext (fun m => ?_) fun m k => rfl
      exact congrFun (congrArg View.has (mention_mention w name)) m
  exact hfold _ (mention_mention w name)

lemma View.value_write (w : View) (name : String) (ht : (t.map Prod.fst).Nodup) (n k : String) :
    (w.write name t).value n k =
      if n = name then ((t.get? k).map muted).or (w.value n k) else w.value n k := by
  have hmention : (w.mention name).value n k = w.value n k := rfl
  rw [write, ← hmention]
  generalize w.mention name = w
  induction t generalizing w with
  | nil => simp [TextTable.get?]
  | cons e t ih =>
    rw [map_cons, nodup_cons] at ht
    rw [foldl_cons, ih ht.2]
    by_cases hn : n = name
    · by_cases hk : k = e.1
      · -- The option is not set again.
        have hnone : t.lookup e.1 = none := lookup_eq_none_of_not_mem ht.1
        have hlookup : (e :: t).lookup e.1 = some e.2 := by
          rw [lookup_cons, beq_self_eq_true]
        simp [View.put, hk, TextTable.get?, hnone, hlookup]
      · have hlookup : (e :: t).lookup k = t.lookup k := by
          rw [lookup_cons, beq_false_of_ne hk]
        simp [View.put, hk, TextTable.get?, hlookup]
    · simp [View.put, hn]

/-- The values of a table can be written, and end without white space. -/
structure Spellable (t : TextTable) : Prop where
  spelled : ∀ e ∈ t, Spelled e.1.toList e.2.toList
  trimmed : ∀ e ∈ t, trimEnd e.2 = e.2

lemma Reader.foldlM_sectionLines (hs : r.settings.Sound) (hfaulty : r.faulty = false)
    (hname : Heading name.toList) (ht : Spellable t) :
    ∃ r', (sectionLines name t).foldlM step r = .ok r' ∧ r'.settings.Sound ∧ r'.faulty = false ∧
      r'.settings.view.map trimEnd = (r.settings.view.map trimEnd).write name t := by
  obtain ⟨r₁, hstep₁, hr₁, hview₁⟩ := step_headerLine hs hfaulty hname
  obtain ⟨r₂, hrun₂, hr₂, hview₂⟩ := foldlM_options hr₁ ht.spelled
  obtain ⟨r₃, hstep₃, hr₃, hview₃⟩ := step_emptyLine hr₂
  refine ⟨r₃, ?_, hr₃.sound, hr₃.faultless, ?_⟩
  · rw [sectionLines, cons_append, foldlM_cons, hstep₁]
    show (_ ++ [['\n']]).foldlM step r₁ = _
    rw [foldlM_append, hrun₂]
    show [['\n']].foldlM step r₂ = _
    rw [foldlM_cons, hstep₃]
    rfl
  · rw [hview₃, hview₂, hview₁, ← View.map_write _ _ ht.trimmed, View.write]

lemma Reader.foldlM_sections (hs : r.settings.Sound) (hfaulty : r.faulty = false)
    (h : ∀ e ∈ sections, Heading e.1.toList ∧ Spellable e.2) :
    ∃ r', (sections.flatMap fun e => sectionLines e.1 e.2).foldlM step r = .ok r' ∧
      r'.settings.Sound ∧ r'.faulty = false ∧ r'.settings.view.map trimEnd =
        sections.foldl (fun w e => w.write e.1 e.2) (r.settings.view.map trimEnd) := by
  induction sections generalizing r with
  | nil => exact ⟨r, rfl, hs, hfaulty, rfl⟩
  | cons e sections ih =>
    obtain ⟨hname, ht⟩ := h e mem_cons_self
    obtain ⟨r₁, hrun₁, hs₁, hfaulty₁, hview₁⟩ := foldlM_sectionLines hs hfaulty hname ht
    obtain ⟨r₂, hrun₂, hs₂, hfaulty₂, hview₂⟩ :=
      ih hs₁ hfaulty₁ fun d hd => h d (mem_cons_of_mem _ hd)
    refine ⟨r₂, ?_, hs₂, hfaulty₂, ?_⟩
    · rw [flatMap_cons, foldlM_append, hrun₁]
      exact hrun₂
    · rw [hview₂, hview₁, foldl_cons]

lemma View.has_writeAll (h : ∀ e ∈ sections, e.1 ≠ defaultSection) (w : View) (n : String) :
    (sections.foldl (fun w e => w.write e.1 e.2) w).has n = (w.has n || sections.any (·.1 == n)) := by
  induction sections generalizing w with
  | nil => simp
  | cons e sections ih =>
    have he : (e.1 != defaultSection) = true := by simpa using h e mem_cons_self
    rw [foldl_cons, ih fun d hd => h d (mem_cons_of_mem _ hd), has_write, he, any_cons,
      Bool.and_true, Bool.or_assoc, Bool.beq_comm]

lemma View.value_writeAll (hnames : (sections.map Prod.fst).Nodup)
    (hkeys : ∀ e ∈ sections, (e.2.map Prod.fst).Nodup) (w : View) (n k : String) :
    (sections.foldl (fun w e => w.write e.1 e.2) w).value n k =
      (((sections.lookup n).bind (·.get? k)).map muted).or (w.value n k) := by
  induction sections generalizing w with
  | nil => simp
  | cons e sections ih =>
    rw [map_cons, nodup_cons] at hnames
    rw [foldl_cons, ih hnames.2 fun d hd => hkeys d (mem_cons_of_mem _ hd),
      value_write _ _ (hkeys e mem_cons_self), lookup_cons]
    by_cases hn : n = e.1
    · have hnone : sections.lookup e.1 = none := lookup_eq_none_of_not_mem hnames.1
      simp [hnone, hn]
    · simp [hn, beq_false_of_ne hn]

variable {s : Settings}

lemma Writable.spellable (h : s.Writable) (ht : s.table? name = some t)
    (hkeys : (t.map Prod.fst).Nodup) : Spellable t := by
  have hvalue (e : String × String) (he : e ∈ t) : s.view.value name e.1 = some e.2 := by
    simp only [view, ht]
    exact Association.lookup_eq_some_of_mem hkeys he
  refine ⟨fun e he => h.legible.spelled _ _ _ (hvalue e he), fun e he => ?_⟩
  have htrim := congrArg (fun w => w.value name e.1) h.trimmed
  simpa [View.map, hvalue e he] using htrim

lemma Writable.spellable_of_mem (h : s.Writable) {e : String × TextTable} (he : e ∈ s.sections) :
    e.1 ≠ defaultSection ∧ Heading e.1.toList ∧ Spellable e.2 := by
  have hhas : s.hasSection e.1 = true := any_eq_true.2 ⟨e, he, beq_self_eq_true _⟩
  have hname : e.1 ≠ defaultSection := by
    intro heq
    rw [heq, h.sound.unreserved] at hhas
    cases hhas
  have htable : s.table? e.1 = some e.2 := by
    rw [table?, if_neg hname]
    exact Association.lookup_eq_some_of_mem h.sound.names he
  exact ⟨hname, h.legible.heading _ hhas, h.spellable htable (h.sound.keys e.1 e.2 he)⟩

lemma heading_defaultSection : Heading defaultSection.toList :=
  ⟨⟨⟨by rintro _ ⟨⟩; rfl, by rintro _ ⟨⟩; rfl⟩, by decide, by decide, by decide⟩, by decide⟩

lemma Writable.spellable_defaults (h : s.Writable) : Spellable s.defaults :=
  h.spellable (if_pos rfl) h.sound.defaultKeys

lemma mem_optionLines (h : Spelled k v) (hline : line ∈ optionLines k v) :
    ∃ body, line = body ++ ['\n'] ∧ '\n' ∉ body ∧ '\r' ∉ body := by
  obtain ⟨first, rest, rfl, hfirst, hrest⟩ := h
  rw [optionLines_join hfirst hrest] at hline
  rcases mem_cons.1 hline with rfl | hline
  · refine ⟨k ++ ([' ', '=', ' '] ++ first), by simp, ?_⟩
    simpa [hfirst.unbroken] using hfirst.clear.unbroken
  · obtain ⟨w, hw, rfl⟩ := mem_map.1 hline
    refine ⟨['\t'] ++ w, by simp, ?_⟩
    simpa using (hrest w hw).unbroken

lemma mem_sectionLines (hname : Heading name.toList) (ht : Spellable t)
    (hline : line ∈ sectionLines name t) : ∃ body, line = body ++ ['\n'] ∧ '\n' ∉ body ∧ '\r' ∉ body := by
  rcases mem_append.1 hline with hline | hline
  · rcases mem_cons.1 hline with rfl | hline
    · exact ⟨_, rfl, hname.clear.unbroken⟩
    · obtain ⟨e, he, hline⟩ := mem_flatMap.1 hline
      exact mem_optionLines (ht.spelled e he) hline
  · exact ⟨[], mem_singleton.1 hline, by simp⟩

lemma Writable.mem_textLines (h : s.Writable) (hline : line ∈ s.textLines) :
    ∃ body, line = body ++ ['\n'] ∧ '\n' ∉ body ∧ '\r' ∉ body := by
  rcases mem_append.1 hline with hline | hline
  · split at hline
    · cases hline
    · exact mem_sectionLines heading_defaultSection h.spellable_defaults hline
  · obtain ⟨e, he, hline⟩ := mem_flatMap.1 hline
    obtain ⟨-, hname, ht⟩ := h.spellable_of_mem he
    exact mem_sectionLines hname ht hline

lemma Writable.not_mem_toText (h : s.Writable) : '\r' ∉ s.toText.toList := by
  rw [← flatten_textLines]
  intro hmem
  obtain ⟨line, hline, hmem⟩ := mem_flatten.1 hmem
  obtain ⟨body, rfl, -, hbody⟩ := h.mem_textLines hline
  simp [hbody] at hmem

lemma Writable.foldlM_textLines (h : s.Writable) :
    ∃ r : Reader, s.textLines.foldlM Reader.step { settings := {} } = .ok r ∧ r.faulty = false ∧
      r.settings.view.map trimEnd =
        s.sections.foldl (fun w e => w.write e.1 e.2) (View.empty.write defaultSection s.defaults) := by
  have hempty : (({} : Settings).view.map trimEnd) = View.empty := by
    rw [view_empty]
    rfl
  obtain ⟨r₁, hrun₁, hs₁, hfaulty₁, hview₁⟩ : ∃ r : Reader,
      (if s.defaults.isEmpty then [] else sectionLines defaultSection s.defaults).foldlM Reader.step
        { settings := {} } = .ok r ∧ r.settings.Sound ∧ r.faulty = false ∧
      r.settings.view.map trimEnd = View.empty.write defaultSection s.defaults := by
    split
    · next hdefaults =>
      refine ⟨_, rfl, sound_empty, rfl, ?_⟩
      rw [hempty, isEmpty_iff.1 hdefaults]
      simp [View.write, View.mention]
    · rw [← hempty]
      exact Reader.foldlM_sectionLines sound_empty rfl heading_defaultSection h.spellable_defaults
  obtain ⟨r₂, hrun₂, -, hfaulty₂, hview₂⟩ := Reader.foldlM_sections hs₁ hfaulty₁
    fun e he => (h.spellable_of_mem he).2
  refine ⟨r₂, ?_, hfaulty₂, ?_⟩
  · rw [textLines, foldlM_append, hrun₁]
    exact hrun₂
  · rw [hview₂, hview₁]

lemma Writable.readText_toText (h : s.Writable) :
    ∃ s', ({} : Settings).readText s.toText = .ok s' ∧ s'.view = s.view.map muted := by
  obtain ⟨r, hrun, hfaulty, hview⟩ := h.foldlM_textLines
  have hlines : lines s.toText.toList = s.textLines := by
    rw [← flatten_textLines]
    refine lines_flatten fun line hline => ?_
    obtain ⟨body, hbody, hnewline, -⟩ := h.mem_textLines hline
    exact ⟨body, hbody, hnewline⟩
  rw [← hlines] at hrun
  refine ⟨r.settings.trimValues, ?_, ?_⟩
  · rw [readText_of_foldlM hrun, hfaulty]
    rfl
  · have hreserved : s.sections.lookup defaultSection = none := by
      refine Option.not_isSome_iff_eq_none.1 ?_
      rw [Association.lookup_isSome_iff]
      exact Bool.eq_false_iff.1 h.sound.unreserved
    rw [view_trimValues, hview]
    refine View.ext (fun n => ?_) fun n k => ?_
    · rw [View.has_writeAll fun e he => (h.spellable_of_mem he).1, View.has_write]
      simp [View.empty, view, View.map, hasSection]
    · rw [View.value_writeAll h.sound.names fun e he => h.sound.keys e.1 e.2 he,
        View.value_write _ _ h.sound.defaultKeys]
      by_cases hn : n = defaultSection
      · simp [hn, hreserved, View.map, view, table?, View.empty]
      · simp [hn, View.map, view, table?, section?, View.empty]

end Settings

end SetTop
