import Mathlib.Data.List.Induction
import SetTop.Proofs.Config.History

/-!
Agreement of the settings that are kept with the files.

After some changes a session keeps settings, and the files say something. They agree on an option if
the file that is written to is the one with the highest precedence, the last change of the option
did not remove it, and its value is not one that gets lost when it is written (`After.value_eq`). An
option that was removed, though, is kept.
-/

namespace SetTop

open List Act FileTree Settings

namespace Config

open Settings (View optionName muted)

variable {s s' s₀ : Session} {kept own : Settings} {calls done : List Call} {c : Call}
  {file way q : String}

/-! ### Stacks -/

/-- Nothing with a higher precedence than the file that is written to says anything. This is so if the
first of the files that were named has a name. -/
def OnTop (s : Session) : Prop :=
  (customPaths s).head? = some "" → ∀ file ∈ customPaths s, layer s file = View.empty

/-- Whether the last call that concerns an option removed it. -/
def forgotten (calls : List Call) (name key : String) : Bool :=
  calls.foldl (fun b c => if c.sectionName = name ∧ optionName c.option = key then c.value.isNone else b)
    false

/-- Where one value is replaced by another that hides it, in a stack that has the new value on top, all
others of the old values below may be replaced too. -/
lemma foldl_absorb {α β : Type} (op : α → α → α) {a a' : α} {f f' : β → α}
    (hcover : ∀ x, op a' (op a x) = op a' x) (hself : ∀ x, op a' (op a' x) = op a' x)
    (hcongr : ∀ x y z, op a' x = op a' y → op a' (op z x) = op a' (op z y)) {l : List β}
    (hl : ∀ b ∈ l, f' b = f b ∨ f b = a ∧ f' b = a') {x x' : α} (hx : op a' x' = op a' x) :
    op a' (l.foldl (fun x b => op (f' b) x) x') = op a' (l.foldl (fun x b => op (f b) x) x) := by
  induction l generalizing x x' with
  | nil => exact hx
  | cons b l ih =>
    refine ih (fun d hd => hl d (mem_cons_of_mem _ hd)) ?_
    dsimp only
    rcases hl b mem_cons_self with hb | ⟨hb, hb'⟩
    · rw [hb]
      exact hcongr _ _ _ hx
    · rw [hb, hb', hself, hcover, hx]

section Views

variable (w u : View) (name key : String) (calls : List Call)

lemma above_above_self : u.above (u.above w) = u.above w := by
  refine View.ext (fun n => ?_) fun n k => ?_
  · exact Bool.or_self_left _ _
  · simp only [View.above]
    cases u.value n k <;> rfl

lemma Call.keep_above (c : Call) : c.keep (u.above w) = (c.keep u).above w := by
  cases hvalue : c.value with
  | none => simp only [Call.keep, hvalue]
  | some v =>
    simp only [Call.keep, hvalue]
    refine View.ext (fun n => ?_) fun n k => ?_
    · exact Bool.or_right_comm _ _ _
    · simp only [View.put, View.above]
      split <;> rfl

lemma keepAll_above : keepAll calls (u.above w) = (keepAll calls u).above w := by
  induction calls generalizing u with
  | nil => rfl
  | cons c calls ih =>
    rw [keepAll, foldl_cons, Call.keep_above]
    exact ih _

lemma stack_above {files : List String}
    (h : ∀ file ∈ files, layer s file = View.empty ∨ layer s file = u) :
    stack s (u.above w) files = u.above w := by
  induction files with
  | nil => rfl
  | cons file files ih =>
    have hfirst : (layer s file).above (u.above w) = u.above w := by
      rcases h file mem_cons_self with hempty | hself
      · rw [hempty]
        rfl
      · rw [hself, above_above_self]
    rw [stack, foldl_cons, hfirst]
    exact ih fun f hf => h f (mem_cons_of_mem _ hf)

lemma has_stack (files : List String) :
    (stack s w files).has name = files.foldl (fun b file => (layer s file).has name || b) (w.has name) := by
  induction files generalizing w with
  | nil => rfl
  | cons file files ih => exact ih _

lemma value_stack (files : List String) : (stack s w files).value name key =
      files.foldl (fun v file => ((layer s file).value name key).or v) (w.value name key) := by
  induction files generalizing w with
  | nil => rfl
  | cons file files ih => exact ih _

lemma has_keepAll (h : w.has name = true) : (keepAll calls w).has name = true := by
  induction calls generalizing w with
  | nil => exact h
  | cons c calls ih =>
    refine ih _ ?_
    cases hvalue : c.value with
    | none => simpa only [Call.keep, hvalue] using h
    | some v => simp [Call.keep, hvalue, View.put, View.mention, h]

lemma value_keepAll (h : (w.value name key).isSome = true) :
    ((keepAll calls w).value name key).isSome = true := by
  induction calls generalizing w with
  | nil => exact h
  | cons c calls ih =>
    refine ih _ ?_
    cases hvalue : c.value with
    | none => simpa only [Call.keep, hvalue] using h
    | some v =>
      simp only [Call.keep, hvalue, View.put]
      split
      · rfl
      · exact h

lemma has_storeAll : (storeAll calls w).has name = (keepAll calls w).has name := by
  induction calls using List.reverseRecOn with
  | nil => rfl
  | append_singleton calls c ih =>
    rw [storeAll_concat, keepAll_concat]
    cases hvalue : c.value with
    | none => simpa only [Call.store, Call.keep, hvalue, View.map, View.remove] using ih
    | some v => simp only [Call.store, Call.keep, hvalue, View.map, View.put, View.mention, ih]

lemma value_storeAll {calls : List Call} (hplain : ∀ c ∈ calls, c.Plain)
    (hforgotten : forgotten calls name key = false)
    (hmuted : (w.value name key).map muted = w.value name key) :
    (storeAll calls w).value name key = (keepAll calls w).value name key ∧
      ((keepAll calls w).value name key).map muted = (keepAll calls w).value name key := by
  induction calls using List.reverseRecOn with
  | nil => exact ⟨rfl, hmuted⟩
  | append_singleton calls c ih =>
    simp only [forgotten, foldl_append, foldl_cons, foldl_nil] at hforgotten
    rw [storeAll_concat, keepAll_concat]
    by_cases hc : c.sectionName = name ∧ optionName c.option = key
    · -- The last change of the option gave it a value.
      rw [if_pos hc] at hforgotten
      cases hvalue : c.value with
      | none => simp [hvalue] at hforgotten
      | some v =>
        have hv := muted_of_isPlain ((hplain c (by simp)).value v hvalue)
        simp [Call.store, Call.keep, hvalue, View.map, View.put, hc.1, hc.2, hv]
    · rw [if_neg hc] at hforgotten
      obtain ⟨heq, hsame⟩ := ih (fun d hd => hplain d (mem_append_left _ hd)) hforgotten
      have hc' : ¬(name = c.sectionName ∧ key = optionName c.option) :=
        fun h => hc ⟨h.1.symm, h.2.symm⟩
      cases hvalue : c.value with
      | none => simp [Call.store, Call.keep, hvalue, View.map, View.remove, hc', heq, hsame]
      | some v => simp [Call.store, Call.keep, hvalue, View.map, View.put, hc', heq, hsame]

end Views

lemma exists_listed_eq (htop : OnTop s) : ∃ below above,
    listed s = below ++ targetPath s :: above ∧ ∀ file ∈ above, layer s file = View.empty := by
  rw [OnTop] at htop
  rw [targetPath, listed]
  cases hpaths : customPaths s with
  | nil => exact ⟨[], [], rfl, by simp⟩
  | cons first rest =>
    rw [hpaths] at htop
    by_cases hfirst : first = ""
    · refine ⟨[], (first :: rest).reverse, ?_, fun file hfile => ?_⟩
      · simp [hfirst]
      · exact htop (by rw [hfirst]; rfl) file (mem_reverse.1 hfile)
    · exact ⟨userPath s :: rest.reverse, [], by simp [hfirst], by simp⟩

namespace After

variable (h : After s₀ done s kept own way q)
  (hfirm : ∀ file ∈ listed s₀, ∀ way, way? s₀.bench.cwd file = .ok way → s₀.bench.files.Firm way)

include h hfirm

lemma layer_listed (hfile : file ∈ listed s₀) : layer s file = layer s₀ file ∨
    layer s₀ file = layer s₀ (targetPath s₀) ∧ layer s file = layer s (targetPath s₀) :=
  (h.layer_cases (hfirm file hfile) (hfirm _ (targetPath_mem_listed s₀)) (h.loads.fit file hfile)).2

lemma exists_stacks (htop : OnTop s₀) : ∃ below, (∀ file ∈ below, file ∈ listed s₀) ∧
    kept.view = (keepAll done (layer s₀ (targetPath s₀))).above (stack s₀ builtinView below) ∧
    stack s builtinView (listed s₀) = (layer s (targetPath s₀)).above (stack s builtinView below) := by
  obtain ⟨below, above, hlisted, hempty⟩ := exists_listed_eq htop
  have hstack (r : Session) : stack r builtinView (listed s₀) =
      stack r ((layer r (targetPath s₀)).above (stack r builtinView below)) above := by
    rw [hlisted, stack, foldl_append, foldl_cons]
    rfl
  refine ⟨below, fun file hfile => ?_, ?_, ?_⟩
  · rw [hlisted]
    exact mem_append_left _ hfile
  · rw [h.kept_view, hstack, stack_above _ _ fun file hfile => .inl (hempty file hfile), keepAll_above]
  · rw [hstack, stack_above]
    intro file hfile
    have hmem : file ∈ listed s₀ := by
      rw [hlisted]
      exact mem_append_right _ (mem_cons_of_mem _ hfile)
    rcases h.layer_listed hfirm hmem with hsame | ⟨-, hsame⟩
    · exact .inl (hsame.trans (hempty file hfile))
    · exact .inr hsame

lemma has_eq (htop : OnTop s₀) (name : String) :
    kept.view.has name = (stack s builtinView (listed s₀)).has name := by
  obtain ⟨below, hbelow, hkept, hstored⟩ := h.exists_stacks hfirm htop
  have hhas : (layer s (targetPath s₀)).has name =
      (keepAll done (layer s₀ (targetPath s₀))).has name := by
    rw [h.layer_targetPath, has_storeAll]
  rw [hkept, hstored]
  simp only [View.above, ← hhas, has_stack]
  symm
  refine foldl_absorb (· || ·) (a := (layer s₀ (targetPath s₀)).has name) (fun x => ?_) (fun x => ?_)
    (fun x y z hxy => ?_) (fun file hfile => ?_) rfl
  · -- A section that was there is still there.
    cases hold : (layer s₀ (targetPath s₀)).has name with
    | false => rfl
    | true => rw [hhas, has_keepAll _ _ done hold]; rfl
  · exact Bool.or_self_left _ _
  · revert hxy
    cases (layer s (targetPath s₀)).has name <;> cases x <;> cases y <;> simp
  · rcases h.layer_listed hfirm (hbelow file hfile) with hsame | ⟨hsame, hsame'⟩
    · exact .inl (by rw [hsame])
    · exact .inr ⟨by rw [hsame], by rw [hsame']⟩

/-- The settings that are kept agree with the files on each option that was not removed. -/
lemma value_eq (htop : OnTop s₀) (hplain : ∀ c ∈ done, c.Plain) {name key : String}
    (hforgotten : forgotten done name key = false)
    (hmuted : ((layer s₀ (targetPath s₀)).value name key).map muted =
      (layer s₀ (targetPath s₀)).value name key) :
    kept.view.value name key = (stack s builtinView (listed s₀)).value name key := by
  obtain ⟨below, hbelow, hkept, hstored⟩ := h.exists_stacks hfirm htop
  have hvalue : (layer s (targetPath s₀)).value name key =
      (keepAll done (layer s₀ (targetPath s₀))).value name key := by
    rw [h.layer_targetPath]
    exact (value_storeAll _ _ _ hplain hforgotten hmuted).1
  rw [hkept, hstored]
  simp only [View.above, ← hvalue, value_stack]
  symm
  refine foldl_absorb Option.or (a := (layer s₀ (targetPath s₀)).value name key) (fun x => ?_)
    (fun x => ?_) (fun x y z hxy => ?_) (fun file hfile => ?_) rfl
  · -- An option that had a value still has one.
    cases hold : (layer s₀ (targetPath s₀)).value name key with
    | none => rfl
    | some v =>
      have hsome := value_keepAll (layer s₀ (targetPath s₀)) name key done (by rw [hold]; rfl)
      rw [← hvalue] at hsome
      obtain ⟨v', hv'⟩ := Option.isSome_iff_exists.1 hsome
      rw [hv']
      rfl
  · cases (layer s (targetPath s₀)).value name key <;> rfl
  · revert hxy
    cases (layer s (targetPath s₀)).value name key with
    | none => exact fun hxy => congrArg (Option.or z) hxy
    | some v => exact fun _ => rfl
  · rcases h.layer_listed hfirm (hbelow file hfile) with hsame | ⟨hsame, hsame'⟩
    · exact .inl (by rw [hsame])
    · exact .inr ⟨by rw [hsame], by rw [hsame']⟩

end After

/-! ### Outcomes -/

section Last

variable (h : After s₀ (done ++ [c]) s kept own way q) (hc : c.Plain) {v : String}
  (hvalue : c.value = some v)

include h hc hvalue

lemma After.get_kept : kept.get c.sectionName c.option = .ok v := by
  have hreserved := h.unreserved c (by simp) (by simp [hvalue])
  refine get_of_value h.sound ?_ ?_ ((hc.value v hvalue).not_mem (by decide))
  · rw [h.kept_view, keepAll_concat]
    simp [Call.keep, hvalue, View.put, View.mention, hreserved]
  · rw [h.kept_view, keepAll_concat]
    simp [Call.keep, hvalue, View.put]

lemma After.get_stored
    (hfirm : ∀ file ∈ listed s₀, ∀ way, way? s₀.bench.cwd file = .ok way → s₀.bench.files.Firm way)
    (htop : OnTop s₀) {stored : Settings} (hsound : stored.Sound)
    (hview : stored.view = stack s builtinView (listed s₀)) :
    stored.get c.sectionName c.option = .ok v := by
  have hreserved := h.unreserved c (by simp) (by simp [hvalue])
  have hplain := hc.value v hvalue
  obtain ⟨below, -, -, hstack⟩ := h.exists_stacks hfirm htop
  rw [hstack, h.layer_targetPath, storeAll_concat] at hview
  refine get_of_value hsound ?_ ?_ (hplain.not_mem (by decide))
  · simp [hview, Call.store, hvalue, View.above, View.map, View.put, View.mention, hreserved]
  · simp [hview, Call.store, hvalue, View.above, View.map, View.put, muted_of_isPlain hplain]

end Last

/-- Where the configuration files are is not in doubt, and what is kept, if anything is, is what they
say. -/
structure Steady (s : Session) : Prop where
  firm : ∀ file ∈ listed s, ∀ way, way? s.bench.cwd file = .ok way → s.bench.files.Firm way
  unlinked : ∀ way, way? s.bench.cwd (targetPath s) = .ok way → s.bench.files.Unlinked way
  kept : ∀ m, s.settings = some m → (load.run s).1 = .ok m

namespace Steady

variable (hs : Steady s)

include hs

lemma exists_after (hplain : ∀ c ∈ calls, c.Plain) (hne : calls ≠ [])
    (hrun : (performAll calls).run s = (.ok (), s')) :
    ∃ kept own way q, After s calls s' kept own way q := by
  obtain ⟨c, rest, rfl⟩ := exists_cons_of_ne_nil hne
  have hsettled : Settled s (targetPath s) := fun way hway =>
    ⟨hs.firm _ (targetPath_mem_listed s) way hway, hs.unlinked way hway⟩
  rw [performAll, forM_cons] at hrun
  obtain ⟨u, s₁, hfirst, hrest⟩ := bind_eq_ok hrun
  obtain ⟨kept₁, own₁, way, q, h₁⟩ := after_first hsettled hs.kept (hplain c mem_cons_self) hfirst
  obtain ⟨kept, own, h⟩ := h₁.run (fun d hd => hplain d (mem_cons_of_mem _ hd)) hrest
  exact ⟨kept, own, way, q, h⟩

lemma text_eq_reread (name key : String) :
    ((text name key).run s).1 = ((reread name key).run s).1 := by
  cases hsettings : s.settings with
  | none => rw [run_text_eq_run_reread hsettings]
  | some m => rw [run_text hsettings, run_reread (run_load_of_fst (hs.kept m hsettings))]

end Steady

/-- The settings that are kept against the files, after changes with plain names and values.

What is kept is what was read, with each value that was set, and without regard to removals. The files
say what they said, except that the changes were applied to the file that is written to, under each of
its names, where a removal counts and values that start with a semicolon get lost.

If no other file has precedence over that file, no option was left removed and no value in the file
starts with a semicolon, then every question has the same outcome before and after the files are read
anew. A value that was set last is the outcome of both, for which no other file may have precedence. -/
theorem kept_against_stored (hs : Steady s) (hplain : ∀ c ∈ calls, c.Plain)
    (hrun : (performAll calls).run s = (.ok (), s')) :
    (calls ≠ [] → ∃ kept stored : Settings, s'.settings = some kept ∧ (load.run s').1 = .ok stored ∧
      kept.Sound ∧ stored.Sound ∧
      kept.view = keepAll calls (stack s builtinView (listed s)) ∧
      stored.view = stack s' builtinView (listed s) ∧
      layer s' (targetPath s) = storeAll calls (layer s (targetPath s)) ∧
      (∀ file ∈ listed s, layer s' file = layer s file ∨
        layer s file = layer s (targetPath s) ∧ layer s' file = layer s' (targetPath s)) ∧
      (OnTop s → ∀ name, kept.view.has name = stored.view.has name ∧
        ∀ key, forgotten calls name key = false →
          ((layer s (targetPath s)).value name key).map muted = (layer s (targetPath s)).value name key →
          kept.view.value name key = stored.view.value name key)) ∧
    (OnTop s → (∀ name key, forgotten calls name key = false) →
      (layer s (targetPath s)).map muted = layer s (targetPath s) →
      ∀ name key, ((text name key).run s').1 = ((reread name key).run s').1) ∧
    ∀ c v, calls.getLast? = some c → c.value = some v →
      ((text c.sectionName c.option).run s').1 = .ok v ∧
      (OnTop s → ((reread c.sectionName c.option).run s').1 = .ok v) := by
  by_cases hne : calls = []
  · subst hne
    obtain ⟨-, rfl⟩ := Prod.mk.inj hrun
    refine ⟨fun h => absurd rfl h, fun _ _ _ => hs.text_eq_reread, fun c v hc => ?_⟩
    cases hc
  · obtain ⟨kept, own, way, q, h⟩ := hs.exists_after hplain hne hrun
    obtain ⟨stored, hload, htidy, hstored⟩ := (h.loads_now hs.firm).run_load
    rw [h.listed_eq] at hstored
    have hviews (htop : OnTop s) (name : String) : kept.view.has name = stored.view.has name ∧
        ∀ key, forgotten calls name key = false →
          ((layer s (targetPath s)).value name key).map muted = (layer s (targetPath s)).value name key →
          kept.view.value name key = stored.view.value name key := by
      rw [hstored]
      exact ⟨h.has_eq hs.firm htop name, fun key => h.value_eq hs.firm htop hplain⟩
    refine ⟨fun _ => ⟨kept, stored, h.settings_eq, by rw [hload], h.sound, htidy.sound, h.kept_view,
      hstored, h.layer_targetPath, fun file => h.layer_listed hs.firm, hviews⟩, ?_, ?_⟩
    · intro htop hforgotten hmuted name key
      have hview : kept.view = stored.view := by
        refine View.ext (fun n => (hviews htop n).1) fun n k => ?_
        exact (hviews htop n).2 k (hforgotten n k) (congrArg (fun w => w.value n k) hmuted)
      rw [run_text h.settings_eq, run_reread hload, get_congr h.sound hview]
    · intro c v hlast hvalue
      obtain ⟨init, rfl⟩ := getLast?_eq_some_iff.1 hlast
      have hc := hplain c (by simp)
      refine ⟨?_, fun htop => ?_⟩
      · rw [run_text h.settings_eq, h.get_kept hc hvalue]
        rfl
      · rw [run_reread hload, h.get_stored hc hvalue hs.firm htop htidy.sound hstored]
        rfl

/-! ### An option that was removed -/

def oneFile : Session where
  bench.environment := [("HOME", "/home"), ("STBT_CONFIG_FILE", "/a.conf")]
  bench.files := ⟨[("/a.conf", .file "[a]\nb = c\n")]⟩

lemma listed_oneFile : listed oneFile = ["/home/.config/stbt/stbt.conf", "/a.conf"] := by
  decide +kernel

lemma targetPath_oneFile : targetPath oneFile = "/a.conf" := by decide +kernel

lemma get?_oneFile {p : String} {e : Entry} (h : oneFile.bench.files.get? p = some e) :
    (p = "/" ∧ e = .directory) ∨ (p = "/a.conf" ∧ e = .file "[a]\nb = c\n") := by
  rw [FileTree.get?] at h
  split at h
  · next hp => exact .inl ⟨by simpa using hp, (Option.some.inj h).symm⟩
  · have hmem := Association.mem_of_lookup_eq_some h
    obtain ⟨rfl, rfl⟩ := Prod.mk.inj (mem_singleton.1 hmem)
    exact .inr ⟨rfl, rfl⟩

lemma withFile_oneFile : withFile {} oneFile.bench.files oneFile.bench.cwd "/a.conf" =
    .ok { sections := [("a", [("b", "c")])] } := by
  decide +kernel

lemma withFile_user_oneFile : withFile {} oneFile.bench.files oneFile.bench.cwd
    "/home/.config/stbt/stbt.conf" = .ok {} := by
  decide +kernel

lemma loads_oneFile : Loads oneFile := by
  refine ⟨⟨"/home", rfl⟩, fun file hfile => ?_⟩
  rw [listed_oneFile] at hfile
  rcases mem_cons.1 hfile with rfl | hfile
  · exact ⟨_, withFile_user_oneFile⟩
  · obtain rfl := mem_singleton.1 hfile
    exact ⟨_, withFile_oneFile⟩

lemma steady_oneFile : Steady oneFile := by
  have hfirm (way : String) (h : ".." ∉ Path.parts way) : oneFile.bench.files.Firm way := by
    refine .inr ⟨fun p e he => ?_, h, fun p target hp => ?_⟩
    · rcases get?_oneFile he with ⟨rfl, -⟩ | ⟨rfl, -⟩ <;> decide +kernel
    · rcases get?_oneFile hp with ⟨-, hlink⟩ | ⟨-, hlink⟩ <;> cases hlink
  refine ⟨fun file hfile way hway => hfirm way ?_, fun way hway q target hlink => ?_, nofun⟩
  · rcases mem_cons.1 hfile with rfl | hfile
    · obtain rfl : "/home/.config/stbt/stbt.conf" = way := Except.ok.inj hway
      decide +kernel
    · obtain rfl := mem_singleton.1 hfile
      obtain rfl : "/a.conf" = way := Except.ok.inj hway
      decide +kernel
  · obtain rfl : "/a.conf" = way := Except.ok.inj hway
    have hlocated : oneFile.bench.files.locateLink "/a.conf" =
        .ok ("/a.conf", some (.file "[a]\nb = c\n")) := by decide +kernel
    cases hlocated.symm.trans hlink

lemma run_removal_oneFile : ∃ s', (performAll [⟨"a", "b", none⟩]).run oneFile = (.ok (), s') := by
  obtain ⟨m, hload, -⟩ := loads_oneFile.run_load
  have hcurrent : current.run oneFile = (.ok m, { oneFile with settings := some m }) := by
    rw [current, bind_of_ok (run_get _)]
    exact run_reload hload
  obtain rfl : (load.run oneFile).1.toOption.getD {} = m := by
    rw [hload]
    rfl
  have htarget : targetFile.run oneFile = (.ok "/a.conf", oneFile) := by
    rw [run_targetFile rfl, targetPath_oneFile]
  have hdone : ((Call.mk "a" "b" none).perform.run oneFile).1 = .ok () := by
    rw [Call.perform, set, changeFile, bind_of_ok htarget, bind_of_ok hcurrent]
    decide +kernel
  rcases hrun : (Call.mk "a" "b" none).perform.run oneFile with ⟨r, s'⟩
  rw [hrun] at hdone
  obtain rfl : r = .ok () := hdone
  refine ⟨s', ?_⟩
  rw [performAll, forM_cons, bind_of_ok hrun]
  rfl

/-- An option that was removed from the file is kept until the files are read anew. -/
theorem removed_option_is_kept : Steady oneFile ∧
    ∃ s', (performAll [⟨"a", "b", none⟩]).run oneFile = (.ok (), s') ∧
      ((text "a" "b").run s').1 = .ok "c" ∧
      ((reread "a" "b").run s').1 =
        .error (.failure .configuration "No option 'b' in section: 'a'") := by
  obtain ⟨s', hrun⟩ := run_removal_oneFile
  have hplain : ∀ c ∈ [Call.mk "a" "b" none], c.Plain := by
    intro c hc
    obtain rfl := mem_singleton.1 hc
    exact ⟨by decide, by decide, by decide, by decide, nofun⟩
  obtain ⟨hfiles, -⟩ := kept_against_stored steady_oneFile hplain hrun
  obtain ⟨kept, stored, hsettings, hload, hsound, hsound', hkept, hstored, hlayer, hothers, -⟩ :=
    hfiles (by simp)
  have huser : layer oneFile "/home/.config/stbt/stbt.conf" = View.empty :=
    (layer_of_ok withFile_user_oneFile).trans view_empty
  have hfile : layer oneFile "/a.conf" = ({ sections := [("a", [("b", "c")])] } : Settings).view :=
    layer_of_ok withFile_oneFile
  -- The file of the user is another file.
  have huser' : layer s' "/home/.config/stbt/stbt.conf" = View.empty := by
    rcases hothers "/home/.config/stbt/stbt.conf" (by simp [listed_oneFile]) with hsame | ⟨hsame, -⟩
    · rw [hsame, huser]
    · rw [targetPath_oneFile, huser, hfile] at hsame
      have := congrArg (fun w => w.has "a") hsame
      cases this
  rw [targetPath_oneFile, hfile] at hlayer
  have hstack (r : Session) (w : View) (hr : layer r "/home/.config/stbt/stbt.conf" = View.empty) :
      stack r w (listed oneFile) = (layer r "/a.conf").above w := by
    rw [listed_oneFile, stack, foldl_cons, foldl_cons, hr]
    rfl
  have hkeep (w : View) : keepAll [⟨"a", "b", none⟩] w = w := rfl
  rw [hkeep, hstack oneFile _ huser, hfile] at hkept
  rw [hstack s' _ huser', hlayer] at hstored
  refine ⟨steady_oneFile, s', hrun, ?_, ?_⟩
  · have hget : kept.get "a" "b" = .ok "c" := by
      refine get_of_value hsound ?_ ?_ (by decide)
      · rw [hkept, View.above]
        rfl
      · rw [hkept, View.above]
        rfl
    rw [run_text hsettings, hget]
    rfl
  · have hget : stored.get "a" "b" = .error (.noOption "b" "a") := by
      refine get_of_none hsound' ?_ ?_ ?_
      · rw [hstored, View.above]
        rfl
      · have hbuiltin : "a" ∉ builtinSections := by decide
        simp only [hstored, View.above, (builtinView_of_not_mem hbuiltin).2]
        rfl
      · have hbuiltin : Settings.defaultSection ∉ builtinSections := by decide
        simp only [hstored, View.above, (builtinView_of_not_mem hbuiltin).2]
        rfl
    have hmessage : (Settings.LookupError.noOption "b" "a").message = "No option 'b' in section: 'a'" := by
      decide +kernel
    rw [run_reread (run_load_of_fst hload), hget]
    exact congrArg (fun message => Except.error (Fault.failure .configuration message)) hmessage

end Config

end SetTop
