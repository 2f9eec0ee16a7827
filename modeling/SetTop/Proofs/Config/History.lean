import SetTop.Proofs.Config.Layers

/-!
What becomes of a configuration when it is changed again and again.

`After` says what the settings that are kept and the file come to: both are what was there at first,
with the changes applied one after the other, to the settings in their way and to the file in its
way. Of the other files, each is as it was, unless it is the same file under another name
(`After.layer_cases`).
-/

/-! ### Changes of a configuration

A change of an option with a plain name goes to two places. In the file that it is written to, the
option is set or removed, and what was in the file before is written anew, whereby values that start
with a semicolon get lost (`Call.store`). In the settings that the session keeps, an option is set,
but never removed (`Call.keep`). `run_perform` says that this is all that a change does.
-/

namespace SetTop

open List Act Text FileTree String Settings

namespace Text

def IsPlain (cs : List Char) : Prop := ∀ c ∈ cs, c.isAlphanum = true

instance (cs : List Char) : Decidable (IsPlain cs) := List.decidableBAll _ cs

variable {c : Char}

lemma toNat_of_isAlphanum (hc : c.isAlphanum = true) : 48 ≤ c.toNat ∧ c.toNat ≤ 122 := by
  have hranges : ((decide (65 ≤ c.val ∧ c.val ≤ 90) ||
      decide (97 ≤ c.val) && decide (c.val ≤ 122)) ||
      decide (48 ≤ c.val) && decide (c.val ≤ 57)) = true := hc
  simp only [Bool.or_eq_true, Bool.and_eq_true, decide_eq_true_eq] at hranges
  change ((65 ≤ c.toNat ∧ c.toNat ≤ 90) ∨ (97 ≤ c.toNat ∧ c.toNat ≤ 122)) ∨
    (48 ≤ c.toNat ∧ c.toNat ≤ 57) at hranges
  omega

lemma isMark_of_isAlphanum (hc : c.isAlphanum = true) : isMark c = false := by
  rw [isMark, Bool.or_eq_false_iff]
  constructor
  · have h := toNat_of_isAlphanum hc
    simp only [isBlank, Bool.or_eq_false_iff, Bool.and_eq_false_iff, decide_eq_false_iff_not,
      beq_eq_false_iff_ne]
    omega
  · -- None of the other marks is a letter or a digit.
    have hmarks : (['=', ':', ';', '#', '[', ']'].all fun m => !m.isAlphanum) = true := by decide
    rw [Bool.eq_false_iff, ne_eq, contains_iff_mem]
    intro hmem
    have hmark := all_eq_true.1 hmarks c hmem
    rw [hc] at hmark
    cases hmark

namespace IsPlain

variable {cs : List Char} (h : IsPlain cs)

include h

lemma not_mem {c : Char} (hc : c.isAlphanum = false) : c ∉ cs := fun hmem =>
  Bool.noConfusion (hc.symm.trans (h c hmem))

lemma trimmed : Trimmed cs := by
  have hblank (c : Char) (hc : c ∈ cs) : isBlank c = false := by
    have := isMark_of_isAlphanum (h c hc)
    rw [isMark, Bool.or_eq_false_iff] at this
    exact this.1
  exact ⟨fun c hc => hblank c (mem_of_mem_head? hc), fun c hc => hblank c (mem_of_getLast? hc)⟩

end IsPlain

end Text

namespace Settings

variable {cs k v : List Char}

lemma hasRemark_of_not_mem {blank : Bool} (h : ';' ∉ cs) : hasRemark blank cs = false := by
  induction cs generalizing blank with
  | nil => rfl
  | cons c cs ih =>
    have hc : c ≠ ';' := fun hc => h (by simp [hc])
    simp [hasRemark, hc, ih fun hmem => h (mem_cons_of_mem _ hmem)]

lemma clear_of_isPlain (h : Text.IsPlain cs) : Clear cs := by
  refine ⟨h.trimmed, hasRemark_of_not_mem (h.not_mem (by decide)), fun hhash => ?_,
    h.not_mem (by decide), h.not_mem (by decide)⟩
  exact h.not_mem (by decide) (mem_of_mem_head? hhash)

lemma heading_of_isPlain (h : Text.IsPlain cs) (hne : cs ≠ []) : Heading cs := by
  refine ⟨⟨⟨fun c hc => ?_, fun c hc => ?_⟩, hasRemark_of_not_mem ?_, by simp, ?_, ?_⟩, hne⟩
  · obtain rfl := Option.some.inj hc
    decide
  · rw [← cons_append, getLast?_concat] at hc
    obtain rfl := Option.some.inj hc
    decide
  · have := h.not_mem (c := ';') (by decide)
    simpa using this
  · have := h.not_mem (c := '\n') (by decide)
    simpa using this
  · have := h.not_mem (c := '\r') (by decide)
    simpa using this

lemma keyed_of_isPlain (hk : Text.IsPlain k) (hne : k ≠ []) (hv : Text.IsPlain v) :
    Keyed (Text.lower k) v := by
  have hpattern := patterned_lower k
  have hnot {m : Char} (hm : Text.isMark m = true) (hc : m.isAlphanum = false) : m ∉ Text.lower k :=
    fun hmem => hk.not_mem hc ((hpattern.mem_iff hm).1 hmem)
  refine ⟨mt hpattern.eq_nil_iff.1 hne, (clear_of_isPlain hk).of_patterned hpattern,
    ⟨hnot (by decide) (by decide), hnot (by decide) (by decide)⟩, lower_lower k, hv.trimmed,
    hasRemark_of_not_mem (hv.not_mem (by decide)), ⟨hv.not_mem (by decide), hv.not_mem (by decide)⟩,
    fun hhead => ?_⟩
  exact absurd (mem_of_mem_head? hhead) (hnot (by decide) (by decide))

variable {value : String}

lemma trimEnd_of_isPlain (h : Text.IsPlain value.toList) : trimEnd value = value := by
  rw [trimEnd, stripEnd_of_last h.trimmed.last, ofList_toList]

lemma muted_of_isPlain (h : Text.IsPlain value.toList) : muted value = value := by
  have hhead : value.toList.head? ≠ some ';' :=
    fun hhead => h.not_mem (by decide) (mem_of_mem_head? hhead)
  rw [muted, if_neg hhead, ofList_toList]

lemma View.map_remove (f : String → String) (w : View) (name key : String) :
    (w.remove name key).map f = (w.map f).remove name key := by
  refine View.ext (fun n => rfl) fun n k => ?_
  simp only [View.remove, View.map]
  split <;> rfl

section Changes

variable {own : Settings} {name option value : String}

lemma Writable.putOption (h : own.Writable) (hname : Text.IsPlain name.toList) (hne : name ≠ "")
    (hoption : Text.IsPlain option.toList) (hne' : option ≠ "") (hvalue : Text.IsPlain value.toList) :
    (own.putOption name (optionName option) value).Writable := by
  have hview := view_putOption own name (optionName option) value
  refine ⟨⟨h.sound.putOption _ _ _, ?_⟩, ⟨fun n hn => ?_, fun n k v hv => ?_⟩⟩
  · rw [hview, View.map_put, h.trimmed, trimEnd_of_isPlain hvalue]
  · rw [hview] at hn
    simp only [View.put, View.mention, Bool.or_eq_true, Bool.and_eq_true, beq_iff_eq] at hn
    rcases hn with hn | ⟨rfl, -⟩
    · exact h.legible.heading n hn
    · exact heading_of_isPlain hname (by simpa using hne)
  · rw [hview] at hv
    simp only [View.put] at hv
    split at hv
    · next hnk =>
      obtain rfl := Option.some.inj hv
      rw [hnk.2, optionName, toList_ofList]
      exact ⟨_, [], rfl, keyed_of_isPlain hoption (by simpa using hne') hvalue, by simp⟩
    · exact h.legible.spelled n k v hv

lemma Writable.removeOption (h : own.Writable) (hne : name ≠ "") :
    (own.removeOption name option).Writable := by
  have hview := view_removeOption own name option hne
  have hvalue (n k v : String) (hv : (own.view.remove name (optionName option)).value n k = some v) :
      own.view.value n k = some v := by
    simp only [View.remove] at hv
    split at hv
    · cases hv
    · exact hv
  refine ⟨⟨h.sound.removeOption _ _, ?_⟩, ⟨fun n hn => ?_, fun n k v hv => ?_⟩⟩
  · rw [hview, View.map_remove, h.trimmed]
  · rw [hview] at hn
    exact h.legible.heading n hn
  · rw [hview] at hv
    exact h.legible.spelled n k v (hvalue n k v hv)

end Changes

end Settings

namespace Config

open Settings (View optionName muted)

/-! ### Calls -/

structure Call where
  sectionName : String
  option : String
  value : Option String

namespace Call

variable (c : Call)

def perform : Act Unit := set c.sectionName c.option c.value

/-- Names and values consist of letters and digits, and names are not empty. -/
structure Plain : Prop where
  sectionName : Text.IsPlain c.sectionName.toList
  sectionName_ne : c.sectionName ≠ ""
  option : Text.IsPlain c.option.toList
  option_ne : c.option ≠ ""
  value : ∀ v, c.value = some v → Text.IsPlain v.toList

def keep (w : View) : View :=
  match c.value with
  | some v => w.put c.sectionName (optionName c.option) v
  | none => w

def store (w : View) : View :=
  View.map muted <| match c.value with
    | some v => w.put c.sectionName (optionName c.option) v
    | none => w.remove c.sectionName (optionName c.option)

end Call

/-! ### The file -/

/-- A place of its own: the way to the file does not turn back behind what is missing, and does not
end at a link. -/
def Settled (s : Session) (file : String) : Prop :=
  ∀ way, way? s.bench.cwd file = .ok way → s.bench.files.Firm way ∧ s.bench.files.Unlinked way

/-- The file at the end of a way holds a text, and was replaced. -/
structure Written (s s' : Session) (file way q text : String) : Prop where
  way_eq : way? s.bench.cwd file = .ok way
  replaced : s.bench.files.Replaced s'.bench.files q text
  place : s'.bench.files.locateLink way = .ok (q, some (.file text))
  named : FileTree.wantsDirectory way = false

variable {s s' : Session}

lemma run_load_eq {m : Settings} (h : load.run s = (.ok m, s')) : s' = s := by
  obtain ⟨m', hrun, -⟩ := (loads_of_run_load h).run_load
  exact (Prod.mk.inj (h.symm.trans hrun)).2

lemma run_current_cases {kept : Settings} (h : current.run s = (.ok kept, s')) :
    s' = { s with settings := some kept } ∧
      (s.settings = some kept ∨ s.settings = none ∧ load.run s = (.ok kept, s)) := by
  cases hsettings : s.settings with
  | some m =>
    obtain ⟨hm, rfl⟩ := Prod.mk.inj ((run_current hsettings).symm.trans h)
    obtain rfl := Except.ok.inj hm
    refine ⟨?_, .inl rfl⟩
    rw [← hsettings]
  | none =>
    rw [current, bind_of_ok (run_get s), hsettings] at h
    obtain ⟨m, s₁, hload, hmodify⟩ := bind_eq_ok h
    obtain rfl := run_load_eq hload
    obtain ⟨hm, rfl⟩ := Prod.mk.inj ((bind_of_ok (run_modify _ _)).symm.trans hmodify)
    obtain rfl : m = kept := Except.ok.inj hm
    exact ⟨rfl, .inr ⟨rfl, hload⟩⟩

variable {change : Settings → Except Fault Settings}

lemma changeFile_eq_ok (h : (changeFile change).run s = (.ok (), s')) :
    ∃ kept own own' t, current.run s = (.ok kept, { s with settings := some kept }) ∧
      withFile {} s.bench.files s.bench.cwd (targetPath s) = .ok own ∧ change own = .ok own' ∧
      s.bench.files.Adds t ∧ (replaceFile (targetPath s) fun write => write own'.toText).run
        ({ s with settings := some kept }.withFiles t) = (.ok (), s') := by
  rw [changeFile] at h
  obtain ⟨target, s₁, hrun, h⟩ := bind_eq_ok h
  obtain ⟨user, s₂, huser, -⟩ := bind_eq_ok hrun
  obtain ⟨home, hhome⟩ := home_of_run_userFile huser
  obtain ⟨htarget, rfl⟩ := Prod.mk.inj ((run_targetFile hhome).symm.trans hrun)
  obtain rfl := Except.ok.inj htarget
  obtain ⟨kept, s₃, hcurrent, h⟩ := bind_eq_ok h
  obtain ⟨rfl, -⟩ := run_current_cases hcurrent
  obtain ⟨own, s₄, hread, h⟩ := bind_eq_ok h
  rw [run_readInto] at hread
  obtain ⟨hown, rfl⟩ := Prod.mk.inj hread
  obtain ⟨own', s₅, hchange, h⟩ := bind_eq_ok h
  rw [run_ofExcept] at hchange
  obtain ⟨hown', rfl⟩ := Prod.mk.inj hchange
  obtain ⟨u, s₆, hensure, h⟩ := bind_eq_ok h
  obtain ⟨t₁, rfl, hadds⟩ := (adds_ensureDirectory _).of_run_eq hensure
  exact ⟨kept, own, own', t₁, hcurrent, hown, hown', hadds, h⟩

lemma run_changeFile (hsettled : Settled s (targetPath s))
    (h : (changeFile change).run s = (.ok (), s')) :
    ∃ kept own own' t way q, current.run s = (.ok kept, { s with settings := some kept }) ∧
      withFile {} s.bench.files s.bench.cwd (targetPath s) = .ok own ∧ change own = .ok own' ∧
      s' = { s with settings := some kept }.withFiles t ∧
      Written s s' (targetPath s) way q own'.toText ∧
      (∀ q' e, s.bench.files.locateLink way = .ok (q', e) → q = q') := by
  obtain ⟨kept, own, own', t₁, hcurrent, hown, hown', hadds, h⟩ := changeFile_eq_ok h
  have hkeeps : s.bench.files.Keeps t₁ := hadds.keeps
  have hunlinked (way : String) (hway : way? s.bench.cwd (targetPath s) = .ok way) :
      t₁.Unlinked way :=
    (hsettled way hway).1.unlinked hkeeps (hsettled way hway).2
  obtain ⟨way, q, t, hway, rfl, hreplaced, hplace, hnamed, hbefore⟩ := run_replaceFile hunlinked h
  refine ⟨kept, own, own', t, way, q, hcurrent, hown, hown', rfl,
    ⟨hway, FileTree.Adds.replaced hadds hreplaced, hplace, hnamed⟩, fun q' e hq' => ?_⟩
  have hq := hkeeps.follow_eq hq'
  exact (Prod.mk.inj (Except.ok.inj (hbefore.symm.trans hq))).1

/-! ### The file and the settings that are kept -/

/-- What a call that returned has done, to a session `s` that has or reads the settings `kept`. -/
structure Done (c : Call) (s s' : Session) (kept kept' own own' : Settings) (way q : String) : Prop where
  current : current.run s = (.ok kept, { s with settings := some kept })
  read : withFile {} s.bench.files s.bench.cwd (targetPath s) = .ok own
  writable : own'.Writable
  stored : own'.view.map muted = c.store own.view
  written : Written s s' (targetPath s) way q own'.toText
  same : ∀ q' e, s.bench.files.locateLink way = .ok (q', e) → q = q'
  session : s' = { s with settings := some kept' }.withFiles s'.bench.files
  kept : kept.Sound → kept'.Sound ∧ kept'.view = c.keep kept.view
  unreserved : c.value ≠ none → c.sectionName ≠ Settings.defaultSection

lemma run_perform {c : Call} (hc : c.Plain) (hsettled : Settled s (targetPath s))
    (h : c.perform.run s = (.ok (), s')) :
    ∃ kept kept' own own' way q, Done c s s' kept kept' own own' way q := by
  cases hvalue : c.value with
  | none =>
    rw [Call.perform, hvalue] at h
    obtain ⟨kept, own, own', t, way, q, hcurrent, hown, hown', rfl, hwritten, hsame⟩ :=
      run_changeFile hsettled h
    obtain rfl := Except.ok.inj hown'
    have hwritable := (withFile_above tidy_empty hown).1
    refine ⟨kept, kept, own, _, way, q, hcurrent, hown, hwritable.removeOption hc.sectionName_ne, ?_,
      hwritten, hsame, rfl, fun hkept => ⟨hkept, ?_⟩, fun h => absurd hvalue h⟩
    · simp only [Call.store, hvalue, view_removeOption _ _ _ hc.sectionName_ne]
    · simp only [Call.keep, hvalue]
  | some v =>
    rw [Call.perform, hvalue] at h
    obtain ⟨u, s₁, hchange, h⟩ := bind_eq_ok h
    obtain ⟨kept, own, own', t, way, q, hcurrent, hown, hown', rfl, hwritten, hsame⟩ :=
      run_changeFile hsettled hchange
    obtain ⟨-, rfl⟩ := set_eq_ok _ _ _ _ hc.sectionName_ne hown'
    have hwritable := (withFile_above tidy_empty hown).1
    have hplain := hc.value v hvalue
    -- The settings that are kept were not touched by the change of the file.
    obtain ⟨kept₁, s₂, hrun, h⟩ := bind_eq_ok h
    obtain ⟨hkept₁, rfl⟩ := Prod.mk.inj ((run_current rfl).symm.trans hrun)
    obtain rfl := Except.ok.inj hkept₁
    obtain ⟨kept', s₃, hrun, h⟩ := bind_eq_ok h
    rw [run_ofExcept] at hrun
    obtain ⟨hkept', rfl⟩ := Prod.mk.inj hrun
    obtain ⟨hreserved, rfl⟩ := set_eq_ok _ _ _ _ hc.sectionName_ne hkept'
    obtain ⟨-, rfl⟩ := Prod.mk.inj h
    refine ⟨kept, _, own, _, way, q, hcurrent, hown,
      hwritable.putOption hc.sectionName hc.sectionName_ne hc.option hc.option_ne hplain, ?_,
      ⟨hwritten.way_eq, hwritten.replaced, hwritten.place, hwritten.named⟩, hsame, rfl,
      fun hkept => ⟨hkept.putOption _ _ _, ?_⟩, fun _ => hreserved⟩
    · simp only [Call.store, hvalue, view_putOption]
    · simp only [Call.keep, hvalue, view_putOption]

end Config

namespace Config

open Settings (View optionName muted)

variable {s s' s₀ : Session} {kept own : Settings} {calls done : List Call} {c : Call}
  {file way q : String}

/-! ### Questions -/

def reread (sectionName key : String) : Act String := do
  let _ ← reload
  text sectionName key

variable {m : Settings} {t t' : FileTree} {cwd : String}

lemma run_load_of_fst (h : (load.run s).1 = .ok m) : load.run s = (.ok m, s) := by
  generalize hrun : load.run s = r at h
  obtain ⟨r, s₁⟩ := r
  obtain rfl : r = .ok m := h
  rw [run_load_eq hrun]

lemma run_reload (h : load.run s = (.ok m, s)) :
    reload.run s = (.ok m, { s with settings := some m }) := by
  rw [reload, bind_of_ok h]
  rfl

lemma run_reread (h : load.run s = (.ok m, s)) (sectionName key : String) :
    (reread sectionName key).run s = (answer (m.get sectionName key), { s with settings := some m }) := by
  rw [reread, bind_of_ok (run_reload h), run_text rfl]

lemma run_text_eq_run_reread (h : s.settings = none) (sectionName key : String) :
    (text sectionName key).run s = (reread sectionName key).run s := by
  have hcurrent : current.run s = reload.run s := by
    rw [current, bind_of_ok (run_get s), h]
  rcases hreload : reload.run s with ⟨r, s₁⟩
  cases r with
  | error e =>
    rw [hreload] at hcurrent
    rw [reread, bind_of_error hreload, text, get, getOr, bind_of_error hcurrent]
  | ok m =>
    have hload := hreload
    rw [reload] at hload
    obtain ⟨m', s₂, hload, hkeep⟩ := bind_eq_ok hload
    obtain rfl := run_load_eq hload
    rw [run_reread hload]
    rw [run_reload hload] at hcurrent
    rw [text, get, getOr, bind_of_ok hcurrent]
    cases m'.get sectionName key <;> rfl

/-! ### Files after a change -/

lemma withFile_congr {file' way' : String} (hway : way? cwd file = .ok way)
    (hway' : way? cwd file' = .ok way') (h : ∀ x, t.read way = .ok x ↔ t'.read way' = .ok x)
    (base : Settings) : withFile base t cwd file = withFile base t' cwd file' := by
  cases hread : t.read way with
  | ok x =>
    have hread' := (h x).1 hread
    simp only [withFile, textIn, hway, hway', bind, Except.bind, hread, hread']
  | error fault =>
    obtain ⟨code, reason, rfl⟩ := exists_system_of_read hread
    cases hread' : t'.read way' with
    | ok x => cases hread.symm.trans ((h x).2 hread')
    | error fault' =>
      obtain ⟨code', reason', rfl⟩ := exists_system_of_read hread'
      simp only [withFile, textIn, hway, hway', bind, Except.bind, hread, hread', Except.map]

lemma withFile_toText (hway : way? cwd file = .ok way) (hread : t.read way = .ok own.toText)
    (hown : own.Writable) :
    ∃ own', withFile {} t cwd file = .ok own' ∧ own'.view = own.view.map muted := by
  obtain ⟨own', hown', hview⟩ := hown.readText_toText
  have htext : textIn t cwd file = .ok own.toText := by
    simp only [textIn, hway, bind, Except.bind, hread, Except.map,
      plainLineEnds_eq_self hown.not_mem_toText, ofList_toList]
  refine ⟨own', ?_, hview⟩
  simp only [withFile, htext, hown']
  rfl

/-! ### Runs -/

lemma targetPath_mem_listed (s : Session) : targetPath s ∈ listed s := by
  rw [targetPath, listed]
  cases customPaths s with
  | nil => simp
  | cons first rest =>
    dsimp only [head?_cons]
    split <;> simp

def performAll (calls : List Call) : Act Unit := forM calls Call.perform

def keepAll (calls : List Call) (w : View) : View := calls.foldl (fun w c => c.keep w) w

def storeAll (calls : List Call) (w : View) : View := calls.foldl (fun w c => c.store w) w

lemma keepAll_concat (calls : List Call) (c : Call) (w : View) :
    keepAll (calls ++ [c]) w = c.keep (keepAll calls w) := foldl_append

lemma storeAll_concat (calls : List Call) (c : Call) (w : View) :
    storeAll (calls ++ [c]) w = c.store (storeAll calls w) := foldl_append

/-- What holds of a session `s` that began as `s₀`, after some changes. -/
structure After (s₀ : Session) (done : List Call) (s : Session) (kept own : Settings)
    (way q : String) : Prop where
  loads : Loads s₀
  sound : kept.Sound
  kept_view : kept.view = keepAll done (stack s₀ builtinView (listed s₀))
  writable : own.Writable
  stored : own.view.map muted = storeAll done (layer s₀ (targetPath s₀))
  written : Written s₀ s (targetPath s₀) way q own.toText
  session : s = { s₀ with settings := some kept }.withFiles s.bench.files
  unreserved : ∀ c ∈ done, c.value ≠ none → c.sectionName ≠ Settings.defaultSection

lemma after_first (hsettled : Settled s₀ (targetPath s₀))
    (hkept : ∀ m, s₀.settings = some m → (load.run s₀).1 = .ok m) (hc : c.Plain)
    (h : c.perform.run s₀ = (.ok (), s)) : ∃ kept own way q, After s₀ [c] s kept own way q := by
  obtain ⟨base, kept, own, own', way, q, hdone⟩ := run_perform hc hsettled h
  have hload : load.run s₀ = (.ok base, s₀) := by
    rcases (run_current_cases hdone.current).2 with hsettings | ⟨-, hload⟩
    · exact run_load_of_fst (hkept base hsettings)
    · exact hload
  have hloads := loads_of_run_load hload
  obtain ⟨m, hm, htidy, hview⟩ := hloads.run_load
  obtain rfl := Except.ok.inj (Prod.mk.inj (hm.symm.trans hload)).1
  obtain ⟨hsound, hkeep⟩ := hdone.kept htidy.sound
  refine ⟨kept, own', way, q, hloads, hsound, ?_, hdone.writable, ?_, hdone.written, hdone.session, ?_⟩
  · rw [hkeep, hview]
    rfl
  · rw [hdone.stored, layer_of_ok hdone.read]
    rfl
  · intro d hd
    obtain rfl := mem_singleton.1 hd
    exact hdone.unreserved

namespace After

variable (h : After s₀ done s kept own way q)

include h

lemma settings_eq : s.settings = some kept := congrArg Session.settings h.session

lemma cwd_eq : s.bench.cwd = s₀.bench.cwd := congrArg (·.bench.cwd) h.session

lemma targetPath_eq : targetPath s = targetPath s₀ := (congrArg targetPath h.session).trans rfl

lemma listed_eq : listed s = listed s₀ := (congrArg listed h.session).trans rfl

lemma locate_eq : s.bench.files.locate way = .ok (q, some (.file own.toText)) :=
  locate_of_locateLink h.written.place (by simp)

lemma read_eq : s.bench.files.read way = .ok own.toText :=
  read_of_locate h.locate_eq h.written.named

lemma layer_targetPath : layer s (targetPath s₀) = storeAll done (layer s₀ (targetPath s₀)) := by
  have hway : way? s.bench.cwd (targetPath s₀) = .ok way := by rw [h.cwd_eq, h.written.way_eq]
  obtain ⟨own', hown', hview⟩ := withFile_toText hway h.read_eq h.writable
  rw [layer_of_ok hown', hview, h.stored]

lemma step (hc : c.Plain) (hrun : c.perform.run s = (.ok (), s')) :
    ∃ kept' own', After s₀ (done ++ [c]) s' kept' own' way q := by
  -- The file is there now, so the next change finds a place of its own.
  have hsettled : Settled s (targetPath s) := by
    intro way' hway'
    rw [h.targetPath_eq, h.cwd_eq, h.written.way_eq] at hway'
    obtain rfl := Except.ok.inj hway'
    refine ⟨.inl ⟨_, h.locate_eq⟩, fun p target hlink => ?_⟩
    have := (Prod.mk.inj (Except.ok.inj (h.written.place.symm.trans hlink))).2
    cases this
  obtain ⟨base, kept', own₁, own', way', q', hdone⟩ := run_perform hc hsettled hrun
  obtain rfl : kept = base := by
    have := (run_current h.settings_eq).symm.trans hdone.current
    exact Except.ok.inj (Prod.mk.inj this).1
  obtain rfl : way = way' := by
    have := hdone.written.way_eq
    rw [h.targetPath_eq, h.cwd_eq, h.written.way_eq] at this
    exact Except.ok.inj this
  obtain rfl : q' = q := hdone.same _ _ h.written.place
  have hown₁ : own₁.view = storeAll done (layer s₀ (targetPath s₀)) := by
    rw [← h.layer_targetPath, ← h.targetPath_eq, layer_of_ok hdone.read]
  obtain ⟨hsound, hkeep⟩ := hdone.kept h.sound
  refine ⟨kept', own', h.loads, hsound, ?_, hdone.writable, ?_, ?_, ?_, ?_⟩
  · rw [hkeep, h.kept_view, keepAll_concat]
  · rw [hdone.stored, hown₁, storeAll_concat]
  · exact ⟨h.written.way_eq, h.written.replaced.trans hdone.written.replaced, hdone.written.place,
      h.written.named⟩
  · have := hdone.session
    rw [h.session] at this
    exact this
  · intro d hd
    rcases mem_append.1 hd with hd | hd
    · exact h.unreserved d hd
    · obtain rfl := mem_singleton.1 hd
      exact hdone.unreserved

lemma run (hplain : ∀ c ∈ calls, c.Plain) (hrun : (performAll calls).run s = (.ok (), s')) :
    ∃ kept' own', After s₀ (done ++ calls) s' kept' own' way q := by
  induction calls generalizing done s kept own with
  | nil =>
    obtain ⟨-, rfl⟩ := Prod.mk.inj hrun
    refine ⟨kept, own, ?_⟩
    rwa [append_nil]
  | cons c calls ih =>
    rw [performAll, forM_cons] at hrun
    obtain ⟨u, s₁, hfirst, hrest⟩ := bind_eq_ok hrun
    obtain ⟨kept₁, own₁, h₁⟩ := h.step (hplain c mem_cons_self) hfirst
    obtain ⟨kept', own', h'⟩ := ih h₁ (fun d hd => hplain d (mem_cons_of_mem _ hd)) hrest
    refine ⟨kept', own', ?_⟩
    rwa [List.append_assoc] at h'

lemma layer_cases (hfirm : ∀ way, way? s₀.bench.cwd file = .ok way → s₀.bench.files.Firm way)
    (hfirm' : ∀ way, way? s₀.bench.cwd (targetPath s₀) = .ok way → s₀.bench.files.Firm way) (hfit : IsFit s₀ file) :
    IsFit s file ∧ (layer s file = layer s₀ file ∨
      layer s₀ file = layer s₀ (targetPath s₀) ∧ layer s file = layer s (targetPath s₀)) := by
  have hunchanged (heq : withFile {} s.bench.files s₀.bench.cwd file =
      withFile {} s₀.bench.files s₀.bench.cwd file) : IsFit s file ∧ layer s file = layer s₀ file := by
    rw [IsFit, layer, h.cwd_eq, heq]
    exact ⟨hfit, rfl⟩
  cases hway : way? s₀.bench.cwd file with
  | error fault =>
    obtain ⟨hfit', hlayer⟩ := hunchanged (by
      simp only [withFile, textIn, hway, bind, Except.bind])
    exact ⟨hfit', .inl hlayer⟩
  | ok way' =>
    by_cases hleads : s.bench.files.Leads way' q
    · obtain ⟨hread, hbefore⟩ := h.written.replaced.read_here (hfirm way' hway) hleads
      have hlayer := withFile_toText hway hread h.writable
      rw [← h.cwd_eq] at hlayer
      obtain ⟨own', hown', hview⟩ := hlayer
      refine ⟨⟨own', hown'⟩, .inr ⟨?_, ?_⟩⟩
      · -- Both paths led to the same text, or to none.
        have htarget := h.written.replaced.read_here (hfirm' way h.written.way_eq)
          ⟨⟨_, h.locate_eq⟩, h.written.named⟩
        have hsame := withFile_congr hway h.written.way_eq
          (fun x => (hbefore x).trans (htarget.2 x).symm) {}
        rw [layer, layer, hsame]
      · rw [layer_of_ok hown', hview, h.stored, h.layer_targetPath]
    · obtain ⟨hfit', hlayer⟩ := hunchanged
        (withFile_congr hway hway (h.written.replaced.read_elsewhere (hfirm way' hway) hleads) _)
      exact ⟨hfit', .inl hlayer⟩

lemma loads_now (hfirm : ∀ file ∈ listed s₀, ∀ way, way? s₀.bench.cwd file = .ok way →
    s₀.bench.files.Firm way) : Loads s := by
  refine ⟨?_, fun file hfile => ?_⟩
  · obtain ⟨home, hhome⟩ := h.loads.home
    refine ⟨home, ?_⟩
    rw [h.session]
    exact hhome
  · rw [h.listed_eq] at hfile
    exact (h.layer_cases (hfirm file hfile) (hfirm _ (targetPath_mem_listed s₀)) (h.loads.fit file hfile)).1

end After

end Config

end SetTop
