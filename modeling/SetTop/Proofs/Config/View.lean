import SetTop.Config.Settings
import SetTop.Proofs.Association

/-!
What settings say.

The order of sections and options, and the names that are there twice, are of no concern to a
question. What is of concern is which sections there are, and what value each option of each section
has, where the stand-ins count as a section of their own. This is the view of settings. Questions
depend on it only (`get_congr`), and each change of settings is a change of the view.
-/

namespace SetTop

open List Option Association TextTable

namespace TextTable

@[simp] lemma get?_put (t : TextTable) (key value k : String) :
    (t.put key value).get? k = if k = key then some value else t.get? k := by
  refine (lookup_put key k value t).trans ?_
  simp only [beq_iff_eq]
  rfl

@[simp] lemma get?_remove (t : TextTable) (key k : String) :
    (t.remove key).get? k = if k = key then none else t.get? k := by
  refine (lookup_filter_bne key k t).trans ?_
  simp only [beq_iff_eq]
  rfl

lemma get?_append (t u : TextTable) (k : String) : get? (t ++ u) k = (t.get? k).or (u.get? k) :=
  lookup_append

lemma map_fst_put (t : TextTable) (key value : String) : (t.put key value).map Prod.fst =
      if t.any (·.1 == key) then t.map Prod.fst else t.map Prod.fst ++ [key] := by
  rw [put]
  split
  · rw [List.map_map]
    refine map_congr_left fun e _ => ?_
    dsimp only [Function.comp_apply]
    split <;> rfl
  · simp

end TextTable

namespace Settings

/-- What settings say: the sections that there are, and the values of their options. -/
structure View where
  has : String → Bool
  value : String → String → Option String

lemma View.ext {v w : View} (hhas : ∀ n, v.has n = w.has n)
    (hvalue : ∀ n k, v.value n k = w.value n k) : v = w := by
  rw [View.mk.injEq]
  exact ⟨funext hhas, funext fun n => funext (hvalue n)⟩

def table? (s : Settings) (name : String) : Option TextTable :=
  if name = defaultSection then some s.defaults else s.section? name

def view (s : Settings) : View where
  has := s.hasSection
  value name key := (s.table? name).bind (·.get? key)

/-- Names are there once, and the reserved one is not that of a section. -/
structure Sound (s : Settings) : Prop where
  names : (s.sections.map Prod.fst).Nodup
  unreserved : s.hasSection defaultSection = false
  keys : ∀ name t, (name, t) ∈ s.sections → (t.map Prod.fst).Nodup
  defaultKeys : (s.defaults.map Prod.fst).Nodup

variable {s s' : Settings}

lemma section?_isSome (s : Settings) (name : String) : (s.section? name).isSome = s.hasSection name :=
  lookup_isSome_iff name s.sections

/-! ### Questions -/

lemma expandWith_congr {t t' : TextTable} (h : ∀ k, t.get? k = t'.get? k)
    (unknown : String → LookupError) (inner : List Char → Except LookupError (List Char)) (fuel : Nat)
    (cs : List Char) : expandWith t unknown inner fuel cs = expandWith t' unknown inner fuel cs := by
  induction fuel generalizing cs with
  | zero => rw [expandWith, expandWith]
  | succ fuel ih =>
    have hrest : expandWith t unknown inner fuel = expandWith t' unknown inner fuel := funext ih
    unfold expandWith
    simp only [h]
    split
    · rfl
    · rfl
    all_goals
      rename_i heq
      obtain rfl := Nat.succ.inj heq
      rw [hrest]

lemma expand_congr {t t' : TextTable} (h : ∀ k, t.get? k = t'.get? k)
    (unknown : String → LookupError) (tooDeep : LookupError) (depth : Nat) (cs : List Char) :
    expand t unknown tooDeep depth cs = expand t' unknown tooDeep depth cs := by
  induction depth generalizing cs with
  | zero => rfl
  | succ depth ih =>
    have hinner : expand t unknown tooDeep depth = expand t' unknown tooDeep depth := funext ih
    rw [expand, expand, hinner, expandWith_congr h]

lemma get_eq_of_options {name : String} (t t' : TextTable) (h : s.optionsOf name = .ok t)
    (h' : s'.optionsOf name = .ok t') (hget : ∀ k, t.get? k = t'.get? k) (option : String) :
    s.get name option = s'.get name option := by
  simp only [get, h, h', bind, Except.bind, hget]
  split
  · rfl
  · rw [expand_congr hget]

lemma get_congr (hs : s.Sound) (h : s.view = s'.view) (name option : String) :
    s.get name option = s'.get name option := by
  have hhas : s.hasSection name = s'.hasSection name := congrFun (congrArg View.has h) name
  have hvalue (n k : String) : s.view.value n k = s'.view.value n k := by rw [h]
  have hdefaults (k : String) : s.defaults.get? k = s'.defaults.get? k := by
    simpa [view, table?] using hvalue defaultSection k
  cases hsection : s.section? name with
  | none =>
    have hsection' : s'.section? name = none := by
      rw [← not_isSome_iff_eq_none, section?_isSome, ← hhas, ← section?_isSome, hsection]
      simp
    by_cases hname : name = defaultSection
    · subst hname
      refine get_eq_of_options s.defaults s'.defaults ?_ ?_ hdefaults option
      · simp only [optionsOf, hsection, beq_self_eq_true, if_true]
      · simp only [optionsOf, hsection', beq_self_eq_true, if_true]
    · simp [get, optionsOf, hsection, hsection', hname]
  | some t =>
    have hhere : s.hasSection name = true := by
      rw [← section?_isSome, hsection]
      rfl
    obtain ⟨t', hsection'⟩ := isSome_iff_exists.1
      ((section?_isSome s' name).trans (hhas.symm.trans hhere))
    have hname : name ≠ defaultSection := by
      rintro rfl
      exact Bool.noConfusion (hhere.symm.trans hs.unreserved)
    refine get_eq_of_options (t ++ s.defaults) (t' ++ s'.defaults) ?_ ?_ (fun k => ?_) option
    · simp only [optionsOf, hsection]
    · simp only [optionsOf, hsection']
    · have := hvalue name k
      simp only [view, table?, hname, if_false, hsection, hsection', bind_some] at this
      rw [get?_append, get?_append, this, hdefaults]

lemma expandWith_of_not_mem (t : TextTable) (unknown : String → LookupError)
    (inner : List Char → Except LookupError (List Char)) {fuel : Nat} {cs : List Char}
    (hcs : '%' ∉ cs) (hfuel : cs.length < fuel) : expandWith t unknown inner fuel cs = .ok cs := by
  induction cs generalizing fuel with
  | nil =>
    obtain ⟨n, rfl⟩ := Nat.exists_eq_add_of_lt hfuel
    rfl
  | cons c cs ih =>
    obtain ⟨n, rfl⟩ : ∃ n, fuel = n + 1 := ⟨fuel - 1, by omega⟩
    have hc : c ≠ '%' := fun hc => hcs (by simp [hc])
    have hrest := ih (fun hmem => hcs (mem_cons_of_mem _ hmem)) (Nat.lt_of_succ_lt_succ hfuel)
    rw [expandWith, hrest]
    · rfl
    · exact fun _ h => absurd h hc
    · exact hc

lemma Sound.exists_section (hs : s.Sound) {name : String} (hhas : s.view.has name = true) :
    name ≠ defaultSection ∧ ∃ t, s.section? name = some t := by
  refine ⟨?_, isSome_iff_exists.1 ((section?_isSome s name).trans hhas)⟩
  rintro rfl
  exact Bool.noConfusion (hhas.symm.trans hs.unreserved)

lemma get_of_value (hs : s.Sound) {name option value : String} (hhas : s.view.has name = true)
    (hvalue : s.view.value name (optionName option) = some value) (hplain : '%' ∉ value.toList) :
    s.get name option = .ok value := by
  obtain ⟨hname, t, hsection⟩ := hs.exists_section hhas
  simp only [view, table?, hname, if_false, hsection, bind_some] at hvalue
  have hget : get? (t ++ s.defaults) (optionName option) = some value := by
    rw [get?_append, hvalue]
    rfl
  have hexpand (unknown : String → LookupError) (tooDeep : LookupError) :
      expand (t ++ s.defaults) unknown tooDeep 10 value.toList = .ok value.toList :=
    expandWith_of_not_mem _ _ _ hplain (Nat.lt_succ_self _)
  simp only [get, optionsOf, hsection, bind, Except.bind, hget, hexpand, String.ofList_toList]
  rfl

lemma get_of_none (hs : s.Sound) {name option : String} (hhas : s.view.has name = true)
    (hvalue : s.view.value name (optionName option) = none)
    (hdefault : s.view.value defaultSection (optionName option) = none) :
    s.get name option = .error (.noOption (optionName option) name) := by
  obtain ⟨hname, t, hsection⟩ := hs.exists_section hhas
  simp only [view, table?, hname, if_false, if_true, hsection, bind_some] at hvalue hdefault
  have hget : get? (t ++ s.defaults) (optionName option) = none := by
    rw [get?_append, hvalue, hdefault]
    rfl
  simp only [get, optionsOf, hsection, bind, Except.bind, hget]
  rfl

/-! ### Changes -/

namespace View

def empty : View := ⟨fun _ => false, fun _ _ => none⟩

def above (upper lower : View) : View where
  has n := upper.has n || lower.has n
  value n k := (upper.value n k).or (lower.value n k)

/-- A section is there. The stand-ins are no section. -/
def mention (w : View) (name : String) : View :=
  { w with has := fun n => w.has n || (n == name && name != defaultSection) }

def put (w : View) (name key value : String) : View :=
  { w.mention name with
    value := fun n k => if n = name ∧ k = key then some value else w.value n k }

def remove (w : View) (name key : String) : View :=
  { w with value := fun n k => if n = name ∧ k = key then none else w.value n k }

def map (f : String → String) (w : View) : View :=
  { w with value := fun n k => (w.value n k).map f }

end View

section Changes

variable (s : Settings) (name key value : String)

lemma view_empty : ({} : Settings).view = View.empty := by
  refine View.ext (fun n => rfl) fun n k => ?_
  simp only [view, table?]
  split <;> rfl

lemma hasSection_addSection (n : String) :
    (s.addSection name).hasSection n = (s.hasSection n || n == name) := by
  rw [addSection]
  split
  · next h =>
    by_cases hn : n = name
    · rw [hn, h]
      rfl
    · simp [hn]
  · simp [hasSection, Bool.beq_comm]

lemma value_addSection (n k : String) : (s.addSection name).view.value n k = s.view.value n k := by
  rw [addSection]
  split
  · rfl
  · next h =>
    by_cases hn : n = name
    · -- The new section is empty.
      have hnone : s.sections.lookup name = none := by
        rw [← not_isSome_iff_eq_none]
        rwa [← section?_isSome] at h
      simp only [view, table?, section?, lookup_append, hn, hnone]
      split <;> simp [get?]
    · simp [view, table?, section?, lookup_append, lookup_cons, beq_false_of_ne hn]

lemma hasSection_modifySection (f : TextTable → TextTable) (n : String) :
    (s.modifySection name f).hasSection n = s.hasSection n := by
  rw [modifySection]
  split
  · rfl
  · rw [hasSection, List.any_map]
    congr 1
    funext e
    dsimp only [Function.comp_apply]
    split <;> rfl

lemma table?_modifySection (f : TextTable → TextTable) (n : String) :
    (s.modifySection name f).table? n = if n = name then (s.table? n).map f else s.table? n := by
  rw [modifySection]
  by_cases hname : name = defaultSection
  · rw [if_pos (by simpa using hname)]
    by_cases hn : n = name
    · simp [table?, hn, hname]
    · have hn' : n ≠ defaultSection := fun h => hn (h.trans hname.symm)
      simp only [table?, hn, hn']
      rfl
  · have hlookup := lookup_modify name n f s.sections
    rw [if_neg (by simpa using hname)]
    by_cases hn : n = name
    · subst hn
      rw [if_pos (beq_self_eq_true n)] at hlookup
      simp only [table?, hname]
      exact hlookup
    · rw [if_neg (by simpa using hn)] at hlookup
      simp only [table?]
      split
      · rfl
      · exact hlookup

def mention : Settings := if name == defaultSection then s else s.addSection name

def putOption : Settings := (s.mention name).modifySection name (·.put key value)

lemma view_mention : (s.mention name).view = s.view.mention name := by
  rw [mention]
  split
  · next h => simp [View.mention, eq_of_beq h]
  · next h =>
    have hname : (name != defaultSection) = true := by simpa using h
    refine View.ext (fun n => ?_) fun n k => value_addSection s name n k
    simp only [View.mention, view, hasSection_addSection, hname, Bool.and_true]

lemma hasSection_mention : name = defaultSection ∨ (s.mention name).hasSection name = true := by
  by_cases hname : name = defaultSection
  · exact .inl hname
  · rw [mention, if_neg (by simpa using hname), hasSection_addSection, beq_self_eq_true, Bool.or_true]
    exact .inr rfl

lemma mention_eq_self {s : Settings} {name : String}
    (h : name = defaultSection ∨ s.hasSection name = true) : s.mention name = s := by
  rw [mention]
  split
  · rfl
  · next hname => rw [addSection, if_pos (h.resolve_left (by simpa using hname))]

@[simp] lemma mention_mention : (s.mention name).mention name = s.mention name :=
  mention_eq_self (hasSection_mention s name)

@[simp] lemma mention_putOption :
    (s.putOption name key value).mention name = s.putOption name key value := by
  refine mention_eq_self ?_
  rw [putOption, hasSection_modifySection]
  exact hasSection_mention s name

lemma modifySection_congr {s : Settings} (hs : s.Sound) {name : String} {f g : TextTable → TextTable}
    (h : ∀ t, s.table? name = some t → f t = g t) : s.modifySection name f = s.modifySection name g := by
  rw [modifySection, modifySection]
  by_cases hname : name = defaultSection
  · have hdefaults : s.table? name = some s.defaults := by rw [table?, if_pos hname]
    rw [if_pos (by simpa using hname), if_pos (by simpa using hname), h _ hdefaults]
  · rw [if_neg (by simpa using hname), if_neg (by simpa using hname)]
    congr 1
    refine map_congr_left fun e he => ?_
    dsimp only
    split
    · next heq =>
      have hsection : s.section? e.1 = some e.2 := lookup_eq_some_of_mem hs.names he
      rw [h e.2 (by rw [table?, if_neg hname, ← eq_of_beq heq, hsection])]
    · rfl

lemma exists_table? : ∃ t, (s.mention name).table? name = some t := by
  rw [table?]
  split
  · exact ⟨_, rfl⟩
  · next hname =>
    rw [← isSome_iff_exists, section?_isSome, mention, if_neg (by simpa using hname),
      hasSection_addSection]
    simp

lemma view_putOption : (s.putOption name key value).view = s.view.put name key value := by
  have hmention := view_mention s name
  refine View.ext (fun n => ?_) fun n k => ?_
  · rw [View.put, ← hmention]
    exact hasSection_modifySection _ _ _ _
  · have hvalue : (s.mention name).view.value n k = s.view.value n k := by
      rw [hmention]
      rfl
    simp only [view, putOption, table?_modifySection, View.put]
    by_cases hn : n = name
    · subst hn
      obtain ⟨t, ht⟩ := exists_table? s n
      simp only [view, ht, bind_some] at hvalue
      simp [ht, hvalue]
    · simp only [hn]
      exact hvalue

lemma view_removeOption (hname : name ≠ "") :
    (s.removeOption name key).view = s.view.remove name (optionName key) := by
  have hsame : (if name.isEmpty then defaultSection else name) = name := by simp [hname]
  simp only [removeOption, hsame]
  refine View.ext (fun n => hasSection_modifySection _ _ _ _) fun n k => ?_
  simp only [view, table?_modifySection, View.remove]
  by_cases hn : n = name
  · subst hn
    cases s.table? n <;> simp
  · simp [hn]

lemma set_eq_ok (hname : name ≠ "") (h : s.set name key value = .ok s') :
    name ≠ defaultSection ∧ s' = s.putOption name (optionName key) value := by
  rw [set] at h
  split at h
  · cases h
  · next hdefault =>
    have hsame : (if name.isEmpty then defaultSection else name) = name := by simp [hname]
    simp only [hsame] at h
    split at h
    · obtain rfl := Except.ok.inj h
      refine ⟨by simpa using hdefault, ?_⟩
      rw [putOption, mention, if_neg hdefault]
    · cases h

def trimEnd (v : String) : String := String.ofList (Text.stripEnd v.toList)

lemma table?_trimValues (n : String) :
    s.trimValues.table? n = (s.table? n).map fun t => t.map fun e => (e.1, trimEnd e.2) := by
  have hlookup := lookup_map n (fun t : TextTable => t.map fun e => (e.1, trimEnd e.2)) s.sections
  simp only [table?]
  split
  · rfl
  · exact hlookup

lemma view_trimValues : s.trimValues.view = s.view.map trimEnd := by
  refine View.ext (fun n => ?_) fun n k => ?_
  · simp only [view, hasSection, trimValues, List.any_map]
    rfl
  · simp only [view, table?_trimValues, View.map]
    cases s.table? n with
    | none => rfl
    | some t => exact lookup_map k trimEnd t

/-! ### Soundness -/

lemma sound_empty : ({} : Settings).Sound := by
  refine ⟨nodup_nil, rfl, fun n t hmem => ?_, nodup_nil⟩
  cases hmem

lemma nodup_concat {l : List String} (hl : l.Nodup) {a : String} (ha : a ∉ l) : (l ++ [a]).Nodup := by
  rw [nodup_append]
  refine ⟨hl, by simp, fun b hb c hc => ?_⟩
  rintro rfl
  exact ha (mem_singleton.1 hc ▸ hb)

variable {s}

lemma Sound.addSection (hs : s.Sound) (hname : name ≠ defaultSection) :
    (s.addSection name).Sound := by
  have hunreserved : (s.addSection name).hasSection defaultSection = false := by
    rw [hasSection_addSection, hs.unreserved, beq_false_of_ne (Ne.symm hname)]
    rfl
  by_cases h : s.hasSection name
  · rwa [Settings.addSection, if_pos h]
  · rw [Settings.addSection, if_neg h] at hunreserved ⊢
    refine ⟨?_, hunreserved, fun n t hmem => ?_, hs.defaultKeys⟩
    · rw [map_append]
      exact nodup_concat hs.names (by simpa [hasSection] using h)
    · rcases mem_append.1 hmem with hmem | hmem
      · exact hs.keys n t hmem
      · obtain ⟨-, rfl⟩ := Prod.mk.inj (mem_singleton.1 hmem)
        exact nodup_nil

lemma Sound.modifySection (hs : s.Sound) {f : TextTable → TextTable}
    (hf : ∀ t : TextTable, (t.map Prod.fst).Nodup → ((f t).map Prod.fst).Nodup) :
    (s.modifySection name f).Sound := by
  have hunreserved : (s.modifySection name f).hasSection defaultSection = false := by
    rw [hasSection_modifySection, hs.unreserved]
  by_cases h : (name == defaultSection) = true
  · rw [Settings.modifySection, if_pos h]
    exact ⟨hs.names, hs.unreserved, hs.keys, hf _ hs.defaultKeys⟩
  · rw [Settings.modifySection, if_neg h] at hunreserved ⊢
    refine ⟨?_, hunreserved, fun n t hmem => ?_, hs.defaultKeys⟩
    · have hnames : (s.sections.map fun e => if e.1 == name then (e.1, f e.2) else (e.1, e.2)).map
          Prod.fst = s.sections.map Prod.fst := by
        rw [List.map_map]
        refine map_congr_left fun e _ => ?_
        dsimp only [Function.comp_apply]
        split <;> rfl
      exact (congrArg List.Nodup hnames).mpr hs.names
    · obtain ⟨e, he, heq⟩ := mem_map.1 hmem
      have hkeys := hs.keys e.1 e.2 he
      dsimp only at heq
      split at heq
      · obtain ⟨-, rfl⟩ := Prod.mk.inj heq
        exact hf _ hkeys
      · obtain ⟨-, rfl⟩ := Prod.mk.inj heq
        exact hkeys

lemma Sound.mention (hs : s.Sound) : (s.mention name).Sound := by
  rw [Settings.mention]
  split
  · exact hs
  · next h => exact hs.addSection name (by simpa using h)

lemma Sound.putOption (hs : s.Sound) : (s.putOption name key value).Sound := by
  refine (hs.mention name).modifySection name fun t ht => ?_
  rw [map_fst_put]
  split
  · exact ht
  · next h => exact nodup_concat ht (by simpa using h)

lemma Sound.removeOption (hs : s.Sound) : (s.removeOption name key).Sound :=
  hs.modifySection _ fun _ ht => ht.sublist (filter_sublist.map _)

lemma Sound.trimValues (hs : s.Sound) : s.trimValues.Sound := by
  have hkeys (t : TextTable) : (t.map fun e => (e.1, trimEnd e.2)).map Prod.fst = t.map Prod.fst := by
    rw [List.map_map]
    rfl
  refine ⟨?_, ?_, fun n t hmem => ?_, ?_⟩
  · have hnames : s.trimValues.sections.map Prod.fst = s.sections.map Prod.fst := by
      rw [Settings.trimValues, List.map_map]
      rfl
    rw [hnames]
    exact hs.names
  · have := congrArg (fun w => w.has defaultSection) (view_trimValues s)
    exact this.trans hs.unreserved
  · obtain ⟨e, he, heq⟩ := mem_map.1 hmem
    obtain ⟨-, rfl⟩ := Prod.mk.inj heq
    exact (congrArg List.Nodup (hkeys e.2)).mpr (hs.keys e.1 e.2 he)
  · exact (congrArg List.Nodup (hkeys s.defaults)).mpr hs.defaultKeys

end Changes

end Settings

end SetTop
