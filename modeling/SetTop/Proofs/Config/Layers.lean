import SetTop.Proofs.Config.Writing
import SetTop.Proofs.Files.Replacing

/-!
The layers of a configuration.

What a configuration file says is its layer, and a file that cannot be read says nothing. The
configuration is the stack of these layers, the file with the highest precedence on top
(`Loads.run_load`). It cannot be read if one of the files cannot be understood
(`loads_of_run_load`), and the built-in one always can (`exists_builtin`).
-/

namespace SetTop

open List Act Settings

namespace Text

lemma return_not_mem_plainLineEnds (cs : List Char) : '\r' ∉ plainLineEnds cs := by
  fun_induction plainLineEnds cs with
  | case1 cs ih | case2 cs h ih => simpa using ih
  | case3 c cs h h' ih =>
    have hc : '\r' ≠ c := fun hc => h' hc.symm
    simp [hc, ih]
  | case4 => simp

lemma plainLineEnds_eq_self {cs : List Char} (h : '\r' ∉ cs) : plainLineEnds cs = cs := by
  fun_induction plainLineEnds cs with
  | case1 | case2 => simp at h
  | case3 c cs _ _ ih => rw [ih fun hmem => h (mem_cons_of_mem _ hmem)]
  | case4 => rfl

end Text

namespace Config

variable {settings base own : Settings} {s s' : Session} {file : String} {files : List String}

/-! ### The built-in file -/

lemma mem_builtinLines {line : String} (h : line ∈ builtinLines) :
    '\r' ∉ line.toList ∧ '\n' ∉ line.toList := by
  revert line
  simp [builtinLines]

lemma toList_builtinText :
    builtinText.toList = (builtinLines.map fun line => line.toList ++ ['\n']).flatten := by
  rw [builtinText, String.toList_join, flatMap_def, map_map]
  refine congrArg List.flatten (map_congr_left fun line _ => ?_)
  simp

lemma return_not_mem_builtinText : '\r' ∉ builtinText.toList := by
  rw [toList_builtinText]
  intro hmem
  obtain ⟨ended, hended, hmem⟩ := mem_flatten.1 hmem
  obtain ⟨line, hline, rfl⟩ := mem_map.1 hended
  simp [(mem_builtinLines hline).1] at hmem

lemma lines_builtinText :
    Text.lines builtinText.toList = builtinLines.map fun line => line.toList ++ ['\n'] := by
  rw [toList_builtinText]
  refine Text.lines_flatten fun ended hended => ?_
  obtain ⟨line, hline, rfl⟩ := mem_map.1 hended
  exact ⟨_, rfl, (mem_builtinLines hline).2⟩

def builtinSections : List String :=
  ["global", "camera", "match", "press", "press_until_match", "motion", "is_screen_black", "run", "record"]

lemma exists_builtin : ∃ b, readText {} builtinText = .ok b ∧
    b.defaults = [] ∧ b.sections.map Prod.fst = builtinSections := by
  have hread : ((builtinLines.map fun line => line.toList ++ ['\n']).foldlM Settings.Reader.step
      { settings := {} }).toOption.map
        (fun r => (r.faulty, r.settings.defaults, r.settings.sections.map Prod.fst)) =
      some (false, [], builtinSections) := by decide +kernel
  rw [← lines_builtinText] at hread
  cases hrun : (Text.lines builtinText.toList).foldlM Settings.Reader.step { settings := {} } with
  | error e =>
    rw [hrun] at hread
    cases hread
  | ok r =>
    rw [hrun] at hread
    obtain ⟨hfaulty, hdefaults, hsections⟩ : r.faulty = false ∧ r.settings.defaults = [] ∧
        r.settings.sections.map Prod.fst = builtinSections := by simpa [Except.toOption] using hread
    refine ⟨r.settings.trimValues, ?_, ?_, ?_⟩
    · rw [readText_of_foldlM hrun, hfaulty]
      rfl
    · rw [trimValues, hdefaults]
      rfl
    · rw [← hsections, trimValues, map_map]
      rfl

/-! ### Questions -/

lemma run_current (hs : s.settings = some settings) : current.run s = (.ok settings, s) := by
  rw [current, bind_of_ok (run_get s), hs]
  rfl

def answer : Except Settings.LookupError String → Except Fault String
  | .ok text => .ok text
  | .error e => .error (.failure .configuration e.message)

lemma run_text (hs : s.settings = some settings) (sectionName key : String) :
    (text sectionName key).run s = (answer (settings.get sectionName key), s) := by
  rw [text, get, getOr, bind_of_ok (run_current hs)]
  cases settings.get sectionName key <;> rfl

/-! ### Files -/

def withFile (base : Settings) (t : FileTree) (cwd file : String) : Except Fault Settings :=
  match textIn t cwd file with
  | .ok text => (base.readText text).mapError Settings.ReadError.fault
  | .error (.system ..) => .ok base
  | .error e => .error e

lemma run_readInto (base : Settings) (file : String) (s : Session) :
    (readInto base file).run s = (withFile base s.bench.files s.bench.cwd file, s) := by
  have hattempt : (Act.attempt (fileText file)).run s =
      (.ok (textIn s.bench.files s.bench.cwd file), s) := by
    rw [run_attempt, run_fileText]
  rw [readInto, bind_of_ok hattempt, withFile]
  cases textIn s.bench.files s.bench.cwd file with
  | ok text => exact run_ofExcept _ _
  | error fault => cases fault <;> rfl

lemma return_not_mem_textIn {t : FileTree} {cwd text : String} (h : textIn t cwd file = .ok text) :
    '\r' ∉ text.toList := by
  rw [textIn] at h
  cases hread : way? cwd file >>= t.read with
  | error fault =>
    rw [hread] at h
    cases h
  | ok raw =>
    rw [hread] at h
    obtain rfl := Except.ok.inj h
    rw [String.toList_ofList]
    exact Text.return_not_mem_plainLineEnds _

lemma tidy_empty : ({} : Settings).Tidy := by
  refine ⟨sound_empty, ?_⟩
  rw [view_empty]
  rfl

lemma writable_empty : ({} : Settings).Writable := by
  refine ⟨tidy_empty, fun name h => ?_, fun name key value h => ?_⟩
  · cases h
  · rw [view_empty] at h
    cases h

section Reading

variable {t : FileTree} {cwd : String}

lemma withFile_above (hbase : base.Tidy) (h : withFile {} t cwd file = .ok own) :
    own.Writable ∧ ∃ m, withFile base t cwd file = .ok m ∧ m.Tidy ∧ m.view = own.view.above base.view := by
  rw [withFile] at h ⊢
  cases htext : textIn t cwd file with
  | ok text =>
    rw [htext] at h
    have hreturn := return_not_mem_textIn htext
    have hread := eq_ok_of_mapError h
    obtain ⟨m, hm, htidy, hview⟩ := readText_above hreturn hbase hread
    refine ⟨writable_of_readText hreturn hread, m, ?_, htidy, hview⟩
    simp only [hm]
    rfl
  | error fault =>
    rw [htext] at h
    cases fault with
    | system code reason =>
      obtain rfl : {} = own := Except.ok.inj h
      refine ⟨writable_empty, base, rfl, hbase, ?_⟩
      rw [view_empty]
      rfl
    | _ => cases h

lemma exists_own_of_withFile {m : Settings} (hbase : base.Sound)
    (h : withFile base t cwd file = .ok m) : ∃ own, withFile {} t cwd file = .ok own := by
  rw [withFile] at h ⊢
  cases htext : textIn t cwd file with
  | ok text =>
    rw [htext] at h
    cases hread : ({} : Settings).readText text with
    | error e =>
      rcases readText_items (return_not_mem_textIn htext) with ⟨e', he⟩ | ⟨items, -, hitems⟩
      · simp only [he base hbase] at h
        cases h
      · cases (hitems _ sound_empty).symm.trans hread
    | ok own =>
      refine ⟨own, ?_⟩
      simp only [hread]
      rfl
  | error fault =>
    rw [htext] at h
    cases fault with
    | system code reason => exact ⟨{}, rfl⟩
    | _ => cases h

end Reading

/-! ### The stack -/

def layer (s : Session) (file : String) : Settings.View :=
  match withFile {} s.bench.files s.bench.cwd file with
  | .ok own => own.view
  | .error _ => .empty

def stack (s : Session) (bottom : Settings.View) (files : List String) : Settings.View :=
  files.foldl (fun w file => (layer s file).above w) bottom

/-- Whether a file is one that can be read as settings, or cannot be opened. -/
def IsFit (s : Session) (file : String) : Prop :=
  ∃ own, withFile {} s.bench.files s.bench.cwd file = .ok own

lemma layer_of_ok (h : withFile {} s.bench.files s.bench.cwd file = .ok own) :
    layer s file = own.view := by
  rw [layer, h]

lemma run_readInto_all (hbase : base.Tidy) (hfit : ∀ file ∈ files, IsFit s file) :
    ∃ m, (files.foldlM readInto base).run s = (.ok m, s) ∧ m.Tidy ∧ m.view = stack s base.view files := by
  induction files generalizing base with
  | nil => exact ⟨base, rfl, hbase, rfl⟩
  | cons file files ih =>
    obtain ⟨own, hown⟩ := hfit file mem_cons_self
    obtain ⟨-, m₁, hm₁, htidy₁, hview₁⟩ := withFile_above hbase hown
    obtain ⟨m, hm, htidy, hview⟩ := ih htidy₁ fun f hf => hfit f (mem_cons_of_mem _ hf)
    have hrun : (readInto base file).run s = (.ok m₁, s) := by rw [run_readInto, hm₁]
    refine ⟨m, ?_, htidy, ?_⟩
    · rw [foldlM_cons, bind_of_ok hrun, hm]
    · rw [hview, hview₁, stack, stack, foldl_cons, layer_of_ok hown]

lemma fit_of_run_readInto_all {m : Settings} (hbase : base.Tidy)
    (h : (files.foldlM readInto base).run s = (.ok m, s')) : ∀ file ∈ files, IsFit s file := by
  induction files generalizing base with
  | nil => simp
  | cons file files ih =>
    rw [foldlM_cons] at h
    obtain ⟨m₁, s₁, hrun, h⟩ := bind_eq_ok h
    rw [run_readInto] at hrun
    obtain ⟨hm₁, rfl⟩ := Prod.mk.inj hrun
    have hfit : IsFit s file := exists_own_of_withFile hbase.sound hm₁
    obtain ⟨own, hown⟩ := hfit
    obtain ⟨-, m₁', hm₁', htidy₁, -⟩ := withFile_above hbase hown
    obtain rfl := Except.ok.inj (hm₁.symm.trans hm₁')
    intro f hf
    rcases mem_cons.1 hf with rfl | hf
    · exact ⟨own, hown⟩
    · exact ih htidy₁ h f hf

/-! ### The configuration -/

def userPath (s : Session) : String :=
  (s.bench.environment.lookup "XDG_CONFIG_HOME").getD
    ((s.bench.environment.lookup "HOME").getD "" ++ "/.config") ++ "/stbt/stbt.conf"

def customPaths (s : Session) : List String :=
  splitAtCharacter ':' ((s.bench.environment.lookup "STBT_CONFIG_FILE").getD "")

/-- The configuration files of a session, from the lowest precedence to the highest. -/
def listed (s : Session) : List String := userPath s :: (customPaths s).reverse

def targetPath (s : Session) : String :=
  match (customPaths s).head? with
  | some file => if file.isEmpty then userPath s else file
  | none => userPath s

def builtinView : Settings.View :=
  ((readText {} builtinText).toOption.map view).getD .empty

lemma builtinView_of_ok {b : Settings} (h : readText {} builtinText = .ok b) :
    builtinView = b.view := by
  rw [builtinView, h]
  rfl

lemma builtinView_of_not_mem {name : String} (h : name ∉ builtinSections) :
    builtinView.has name = false ∧ ∀ key, builtinView.value name key = none := by
  obtain ⟨b, hb, hdefaults, hsections⟩ := exists_builtin
  have hlookup : b.section? name = none :=
    Association.lookup_eq_none_of_not_mem (by rwa [hsections])
  rw [builtinView_of_ok hb]
  refine ⟨?_, fun key => ?_⟩
  · exact (section?_isSome b name).symm.trans (by rw [hlookup]; rfl)
  · simp only [view, table?, hdefaults, hlookup]
    split <;> rfl

lemma run_userFile {home : String} (h : s.bench.environment.lookup "HOME" = some home) :
    userFile.run s = (.ok (userPath s), s) := by
  have hhome : (requiredVariable "HOME").run s = (.ok home, s) := by
    have hlookup : (lookupVariable "HOME").run s = (.ok (some home), s) := congrArg (Except.ok ·, s) h
    rw [requiredVariable, bind_of_ok hlookup]
    rfl
  rw [userFile, userDirectory, bind_assoc, bind_of_ok hhome, userPath, h]
  rfl

lemma home_of_run_userFile {user : String} (h : userFile.run s = (.ok user, s')) :
    ∃ home, s.bench.environment.lookup "HOME" = some home := by
  cases hlookup : s.bench.environment.lookup "HOME" with
  | some home => exact ⟨home, rfl⟩
  | none =>
    have hrun : (lookupVariable "HOME").run s = (.ok none, s) := congrArg (Except.ok ·, s) hlookup
    rw [userFile, userDirectory, requiredVariable, bind_assoc, bind_assoc, bind_of_ok hrun] at h
    cases h

lemma run_customFiles (s : Session) : customFiles.run s = (.ok (customPaths s), s) := rfl

lemma run_targetFile {home : String} (h : s.bench.environment.lookup "HOME" = some home) :
    targetFile.run s = (.ok (targetPath s), s) := by
  rw [targetFile, bind_of_ok (run_userFile h), bind_of_ok (run_customFiles s), targetPath]
  cases (customPaths s).head? <;> rfl

/-- All that it takes for the configuration to be read. -/
structure Loads (s : Session) : Prop where
  home : ∃ home, s.bench.environment.lookup "HOME" = some home
  fit : ∀ file ∈ listed s, IsFit s file

lemma Loads.run_load (h : Loads s) :
    ∃ m, load.run s = (.ok m, s) ∧ m.Tidy ∧ m.view = stack s builtinView (listed s) := by
  obtain ⟨b, hb, -⟩ := exists_builtin
  obtain ⟨home, hhome⟩ := h.home
  have htidy := (writable_of_readText return_not_mem_builtinText hb).toTidy
  obtain ⟨m, hm, hmtidy, hview⟩ := run_readInto_all htidy h.fit
  refine ⟨m, ?_, hmtidy, ?_⟩
  · have hbuiltin : (Act.ofExcept ((readText {} builtinText).mapError
        Settings.ReadError.fault)).run s = (.ok b, s) := by
      rw [hb]
      rfl
    rw [load, bind_of_ok hbuiltin, bind_of_ok (run_userFile hhome),
      bind_of_ok (run_customFiles s)]
    exact hm
  · rw [hview, ← builtinView_of_ok hb]

lemma loads_of_run_load {m : Settings} (h : load.run s = (.ok m, s')) : Loads s := by
  rw [load] at h
  obtain ⟨b, s₁, hrun, h⟩ := bind_eq_ok h
  rw [run_ofExcept] at hrun
  obtain ⟨hb, rfl⟩ := Prod.mk.inj hrun
  obtain ⟨user, s₂, hrun, h⟩ := bind_eq_ok h
  obtain ⟨home, hhome⟩ := home_of_run_userFile hrun
  obtain ⟨huser, rfl⟩ := Prod.mk.inj ((run_userFile hhome).symm.trans hrun)
  obtain rfl := Except.ok.inj huser
  rw [bind_of_ok (run_customFiles s)] at h
  obtain ⟨b', hread, -⟩ := exists_builtin
  rw [hread] at hb
  obtain rfl : b' = b := Except.ok.inj hb
  have htidy := (writable_of_readText return_not_mem_builtinText hread).toTidy
  exact ⟨⟨home, hhome⟩, fit_of_run_readInto_all htidy h⟩

end Config

end SetTop
