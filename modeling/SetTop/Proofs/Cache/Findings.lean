import SetTop.Proofs.Cache.Searching

/-!
When a store keeps the answers of searches.

With a store a search is answered with what was kept under its key, whichever search that was. The
key leaves out of what kind the elements of the pictures are, and how many levels are configured. So
the store gives the answers that the searches themselves give if and only if those that only differ
in such a way have the same entries. Searches in pictures of one kind under one configuration are
safe; a template of signed bytes, which a search refuses, is not.
-/

namespace SetTop.Findings

open Act Image

open Cache (held Holds SameEntries plainAnswer collect run_collect run_collect_holds
  run_collect_held)
open Replay (Agrees Stores)

structure Query where
  settings : Settings
  image : Image
  template : Image
  parameters : MatchParameters
  image_isBytes : image.IsBytes
  template_isBytes : template.IsBytes
  lasting : parameters.Lasting

namespace Query

def turns (c : Query) : Nat → Turn :=
  turn (levelsIn c.settings) c.image c.template c.parameters

def key (c : Query) : String := digestText c.image c.template c.parameters

def within (c : Query) (s : Session) : Session := { s with settings := some c.settings }

/-- All that a key tells is the same. -/
structure Alike (a b : Query) : Prop where
  imageShape : a.image.shape = b.image.shape
  imageBytes : a.image.rawBytes = b.image.rawBytes
  templateShape : a.template.shape = b.template.shape
  templateBytes : a.template.rawBytes = b.template.rawBytes
  parameters : a.parameters.sorted = b.parameters.sorted

variable {a b : Query}

lemma Alike.symm (h : a.Alike b) : b.Alike a :=
  ⟨h.imageShape.symm, h.imageBytes.symm, h.templateShape.symm, h.templateBytes.symm,
    h.parameters.symm⟩

lemma key_eq_iff : a.key = b.key ↔ a.Alike b := by
  rw [key, key, digestText_eq_iff a.lasting b.lasting,
    keyPart_eq_iff a.image_isBytes b.image_isBytes,
    keyPart_eq_iff a.template_isBytes b.template_isBytes]
  constructor
  · rintro ⟨⟨himage, himage'⟩, hparameters, htemplate, htemplate'⟩
    exact ⟨himage, himage', htemplate, htemplate', hparameters⟩
  · rintro ⟨himage, himage', htemplate, htemplate', hparameters⟩
    exact ⟨⟨himage, himage'⟩, hparameters, htemplate, htemplate'⟩

lemma Alike.turns_eq (h : a.Alike b) (hlevels : levelsIn a.settings = levelsIn b.settings)
    (himage : a.image.element = b.image.element)
    (htemplate : a.template.element = b.template.element) : a.turns = b.turns := by
  have himage' : a.image = b.image := eq_of_shape_eq h.imageShape himage
    (values_eq_of_rawBytes_eq a.image_isBytes b.image_isBytes himage h.imageBytes)
  have htemplate' : a.template = b.template := eq_of_shape_eq h.templateShape htemplate
    (values_eq_of_rawBytes_eq a.template_isBytes b.template_isBytes htemplate h.templateBytes)
  rw [turns, turns, ← turn_sorted _ _ _ a.parameters, ← turn_sorted _ _ _ b.parameters, hlevels,
    himage', htemplate', h.parameters]

end Query

/-! ### Searches in turn -/

/-- How searches are made: with the pictures, the parameters and the number of findings. -/
abbrev Way := Image → Image → MatchParameters → Nat → Act (List Json × Option Fault)

def ask (way : Way) (c : Query) (limit : Nat) : Act (List Json × Option Fault) := do
  modify c.within
  way c.image c.template c.parameters limit

def askAll (way : Way) : List (Query × Nat) → Act (List (List Json × Option Fault))
  | [] => return []
  | (c, limit) :: calls => do
    let answer ← ask way c limit
    return answer :: (← askAll way calls)

def plainAnswers (calls : List (Query × Nat)) : List (List Json × Option Fault) :=
  calls.map fun c => plainAnswer c.1.turns c.2

section Runs

variable {way : Way} {s s₁ s₂ : Session} {scope : CacheScope}

lemma run_askAll_cons {c : Query} {limit : Nat} {calls : List (Query × Nat)}
    {answer : List Json × Option Fault} {answers : List (List Json × Option Fault)}
    (h : (ask way c limit).run s = (.ok answer, s₁))
    (hcalls : (askAll way calls).run s₁ = (.ok answers, s₂)) :
    (askAll way ((c, limit) :: calls)).run s = (.ok (answer :: answers), s₂) := by
  rw [askAll, bind_of_ok h, bind_of_ok hcalls]
  rfl

lemma run_askAll_search (hs : Quiet s) (calls : List (Query × Nat)) :
    ∃ s', (askAll search calls).run s = (.ok (plainAnswers calls), s') := by
  induction calls generalizing s with
  | nil => exact ⟨s, rfl⟩
  | cons c calls ih =>
    have hs' : Quiet (c.1.within s) := hs
    obtain ⟨s', hcalls⟩ := ih hs'
    exact ⟨s', run_askAll_cons (run_search hs' rfl c.2) hcalls⟩

lemma run_ask_remembered (h : s.cache = some scope) (c : Query) (limit : Nat)
    {answer : List Json × List Nat × Option Fault}
    (hcollect : (collect c.turns c.key limit (.stored 0) [] []).run (c.within s) =
      (.ok answer, s₁)) : (ask remembered c limit).run s = (.ok (answer.1, answer.2.2), s₁) := by
  let call : Cache.Call := ⟨function, dependsOn, arguments c.image c.template c.parameters, c.key,
    digest_eq ..⟩
  have hdigest : (Cache.digest? function dependsOn (arguments c.image c.template c.parameters)).run
      (c.within s) = (.ok (some (scope, c.key)), c.within s) := Cache.run_digest? call h
  have hlevels : (attempt MatchRun.levelCount).run (c.within s) =
      (.ok (levelsIn c.settings), c.within s) := by
    rw [run_attempt, run_levelCount rfl]
  have hmany : (Cache.rememberMany function dependsOn (arguments c.image c.template c.parameters)
      c.turns limit).run (c.within s) = (.ok answer, s₁) := by
    rw [Cache.rememberMany, bind_of_ok hdigest]
    exact hcollect
  rw [ask, bind_of_ok (run_modify _ s), remembered, bind_of_ok hlevels]
  exact bind_of_ok hmany

/-- A store that agrees with a search gives its answer, and agrees afterwards with everything that
it agreed with before, unless it has the key of the search but other entries. -/
lemma run_ask_served (h : s.cache = some scope) (c : Query) (limit : Nat)
    (hstore : Agrees c.turns c.key (held s scope.file)) :
    ∃ s' scope', (ask remembered c limit).run s = (.ok (plainAnswer c.turns limit), s') ∧
      s'.cache = some scope' ∧ scope'.file = scope.file ∧
      ∀ g d, (d = c.key → ∀ n e, Stores c.turns n e → Stores g n e) →
        Agrees g d (held s scope.file) → Agrees g d (held s' scope.file) := by
  have h' : (c.within s).cache = some scope := h
  obtain ⟨produced, s₁, scope₁, hrun, hrest⟩ :=
    run_collect h' Replay.at_start Turn.reaches_zero hstore [] [] []
  have hask := run_ask_remembered h c limit hrun
  exact ⟨s₁, scope₁, hask, hrest⟩

end Runs

/-! ### Kept answers -/

lemma run_askAll_remembered {family : Set Query}
    (hfamily : ∀ a ∈ family, ∀ b ∈ family, a.Alike b → SameEntries a.turns b.turns) {s : Session}
    {scope : CacheScope} (h : s.cache = some scope)
    (hstore : ∀ c ∈ family, Agrees c.turns c.key (held s scope.file)) (calls : List (Query × Nat))
    (hcalls : ∀ c ∈ calls, c.1 ∈ family) :
    ∃ s', (askAll remembered calls).run s = (.ok (plainAnswers calls), s') := by
  induction calls generalizing s scope with
  | nil => exact ⟨s, rfl⟩
  | cons c calls ih =>
    obtain ⟨hc, hcalls⟩ := List.forall_mem_cons.1 hcalls
    obtain ⟨s₁, scope₁, hask, hscope₁, hfile, hkeep⟩ := run_ask_served h c.1 c.2 (hstore c.1 hc)
    have hstore₁ : ∀ b ∈ family, Agrees b.turns b.key (held s₁ scope₁.file) := by
      intro b hb
      rw [hfile]
      refine hkeep b.turns b.key (fun hkey n e he => ?_) (hstore b hb)
      exact (hfamily c.1 hc b hb (Query.key_eq_iff.1 hkey.symm) n e).1 he
    obtain ⟨s', hrest⟩ := ih hscope₁ hstore₁ hcalls
    exact ⟨s', run_askAll_cons hask hrest⟩

def roomy (room : Nat) : Session :=
  { cache := some { file := "cache.lmdb" }, verbosity := some 0, bench := { storeLimit := room } }

lemma run_askAll_alike {a b : Query} (hab : a.Alike b) {n : Nat} {e : Json}
    (he : Stores a.turns n e) :
    ∃ s', (askAll remembered [(a, n + 1), (b, n + 1)]).run (roomy (n + 1)) =
      (.ok [plainAnswer a.turns (n + 1), plainAnswer a.turns (n + 1)], s') := by
  have h : (a.within (roomy (n + 1))).cache = some { file := "cache.lmdb" } := rfl
  have hempty : ∀ k, (held (a.within (roomy (n + 1))) "cache.lmdb").get? k = none := fun _ => rfl
  obtain ⟨produced, s₁, scope₁, hrun, hscope₁, hfile, -⟩ := run_collect h Replay.at_start
    Turn.reaches_zero (Replay.agrees_of_get?_eq_none fun i => hempty ⟨a.key, some i⟩) [] [] []
  have hfirst := run_ask_remembered rfl a (n + 1) hrun
  -- The first search has left all entries up to that one.
  have hheld : Holds a.turns a.key (0 + (n + 1)) (held s₁ "cache.lmdb") := by
    have hnone : Holds a.turns a.key 0 (held (a.within (roomy (n + 1))) "cache.lmdb") :=
      fun i hi => absurd hi (Nat.not_lt_zero i)
    have hholds := run_collect_holds (r := .stored 0) h Turn.reaches_zero rfl hnone
      (Nat.le_of_eq (Nat.zero_add (n + 1))) [] []
    rwa [hrun] at hholds
  have hstored : ∀ i, 0 ≤ i → i < 0 + (n + 1) → ∃ e, Stores a.turns i e ∧
      (held (b.within s₁) scope₁.file).get? ⟨b.key, some i⟩ = some e := by
    intro i _ hi
    obtain ⟨e', he'⟩ := he.exists_of_le (show i ≤ n by omega)
    rw [hfile, ← Query.key_eq_iff.2 hab]
    exact ⟨e', he', hheld i hi e' he'⟩
  obtain ⟨produced', s₂, hrun'⟩ :=
    run_collect_held (s := b.within s₁) hscope₁ hstored [] [] []
  have hsecond := run_ask_remembered hscope₁ b (n + 1) hrun'
  exact ⟨s₂, run_askAll_cons hfirst (run_askAll_cons hsecond rfl)⟩

/-! ### Transparency -/

/-- Searches of the family, made one after the other in any order with an empty store at the start,
are answered with the store as they are without it. -/
def AnswersKept (family : Set Query) : Prop :=
  ∀ calls : List (Query × Nat), (∀ c ∈ calls, c.1 ∈ family) →
    ∀ (s : Session) (scope : CacheScope), Quiet s → s.cache = some scope →
      held s scope.file = {} → ∃ answers, ((askAll remembered calls).run s).1 = .ok answers ∧
        ((askAll search calls).run s).1 = .ok answers

/-- A store keeps the answers of searches if and only if any two of them that are alike have the
same entries. To be alike is to have the same key. Where the kinds of the elements and the number of
levels are the same too, alike searches have the same turns. -/
theorem answers_kept_iff (family : Set Query) :
    (AnswersKept family ↔
      ∀ a ∈ family, ∀ b ∈ family, a.Alike b → SameEntries a.turns b.turns) ∧
    ∀ a ∈ family, ∀ b ∈ family,
      (digest a.image a.template a.parameters = digest b.image b.template b.parameters ↔
        a.Alike b) ∧
      (a.Alike b → levelsIn a.settings = levelsIn b.settings →
        a.image.element = b.image.element → a.template.element = b.template.element →
          a.turns = b.turns) := by
  refine ⟨⟨fun hkept => ?_, fun hfamily calls hcalls s scope hs hscope hempty => ?_⟩,
    fun a _ b _ => ⟨?_, fun hab => hab.turns_eq⟩⟩
  · -- It is enough to go one way, for families do not care which of two searches comes first.
    have hstores {a b : Query} (ha : a ∈ family) (hb : b ∈ family) (hab : a.Alike b) {n : Nat}
        {e : Json} (he : Stores a.turns n e) : Stores b.turns n e := by
      have hs : Quiet (roomy (n + 1)) := ⟨0, rfl, rfl⟩
      obtain ⟨answers, hremembered, hsearch⟩ := hkept [(a, n + 1), (b, n + 1)] (by simp [ha, hb])
        (roomy (n + 1)) { file := "cache.lmdb" } hs rfl rfl
      obtain ⟨s₁, hrun⟩ := run_askAll_alike hab he
      obtain ⟨s₂, hrun'⟩ := run_askAll_search hs [(a, n + 1), (b, n + 1)]
      rw [hrun] at hremembered
      rw [hrun', ← hremembered] at hsearch
      simp only [plainAnswers, List.map_cons, List.map_nil, Except.ok.injEq, List.cons.injEq,
        true_and, and_true] at hsearch
      exact Cache.stores_of_plainAnswer_eq he hsearch.symm
    exact fun a ha b hb hab n e => ⟨hstores ha hb hab, hstores hb ha hab.symm⟩
  · have hstore : ∀ c ∈ family, Agrees c.turns c.key (held s scope.file) := fun c _ =>
      Replay.agrees_of_get?_eq_none fun _ => by rw [hempty]; rfl
    obtain ⟨s₁, hrun⟩ := run_askAll_remembered hfamily hscope hstore calls hcalls
    obtain ⟨s₂, hrun'⟩ := run_askAll_search hs calls
    exact ⟨plainAnswers calls, by rw [hrun], by rw [hrun']⟩
  · rw [digest_eq, digest_eq, Except.ok.injEq]
    exact Query.key_eq_iff

def dot (element : PixelKind) : Image := ⟨1, 1, some 3, #[10, 20, 30], element⟩

lemma dot_isBytes (element : PixelKind) : (dot element).IsBytes := by
  simp [Image.IsBytes, dot]

def dotQuery (levels : String) (element : PixelKind) : Query where
  settings := { sections := [("match", [("pyramid_levels", levels)])] }
  image := dot .byte
  template := dot element
  parameters := ⟨"sqdiff-normed", .number 1, "absdiff", .number 0, .number 1⟩
  image_isBytes := dot_isBytes .byte
  template_isBytes := dot_isBytes element
  lasting := ⟨.int 1, .int 0, .int 1⟩

def outcome : Turn → Option Bool
  | .value _ => some true
  | .refuse _ => some false
  | .stop => none

lemma not_sameEntries_of_outcome {f g : Nat → Turn} (hf : outcome (f 0) = some true)
    (hg : outcome (g 0) = some false) : ¬ SameEntries f g := by
  intro hsame
  cases hvalue : f 0 with
  | value v =>
    have hstores := (hsame 0 _).1 ⟨Turn.reaches_zero, .inl ⟨v, hvalue, rfl⟩⟩
    cases hrefuse : g 0 with
    | refuse e => exact hstores.ne_refuse e hrefuse
    | value | stop => simp [outcome, hrefuse] at hg
  | refuse | stop => simp [outcome, hvalue] at hf

/-- All is well under one configuration and with bytes only. Signed bytes in the template, which a
search refuses, share the key of plain ones, and so does a search without levels. -/
theorem dots_are_confused :
    AnswersKept {c | levelsIn c.settings = .ok 3 ∧ c.image.element = .byte ∧
      c.template.element = .byte} ∧
    ¬ AnswersKept {dotQuery "3" .byte, dotQuery "3" (.other "int8")} ∧
    ¬ AnswersKept {dotQuery "3" .byte, dotQuery "0" .byte} := by
  have hconfused {a b : Query} (hab : a.Alike b) (ha : outcome (a.turns 0) = some true)
      (hb : outcome (b.turns 0) = some false) : ¬ AnswersKept {a, b} := by
    intro hkept
    exact not_sameEntries_of_outcome ha hb
      ((answers_kept_iff {a, b}).1.1 hkept a (by simp) b (by simp) hab)
  refine ⟨(answers_kept_iff _).1.2 ?_, ?_, ?_⟩
  · rintro a ⟨hlevels, himage, htemplate⟩ b ⟨hlevels', himage', htemplate'⟩ hab n e
    rw [hab.turns_eq (hlevels.trans hlevels'.symm) (himage.trans himage'.symm)
      (htemplate.trans htemplate'.symm)]
  · exact hconfused ⟨rfl, rfl, rfl, rfl, rfl⟩ (by decide +kernel) (by decide +kernel)
  · exact hconfused ⟨rfl, rfl, rfl, rfl, rfl⟩ (by decide +kernel) (by decide +kernel)

end SetTop.Findings
