import SetTop.Config.Store
import SetTop.Proofs.Files.Walk
import SetTop.Proofs.Logging

/-!
Replacing a file.

A file is replaced by writing its new text under a free name and then giving it the name of the file.
What comes of this is that one place holds the new text, and that all else is as it was, apart from
directories that were made on the way (`run_replaceFile`, `adds_ensureDirectory`). Ways that lead to
this place are then read anew and all others as before.
-/

namespace SetTop

namespace FileTree

variable {t t' t'' : FileTree} {b : Bool} {n : Nat} {dir p q way text : String}
  {steps : List String} {e : Option Entry}

/-! ### Reading -/

variable {fault : Fault} {source target old : String}

lemma exists_system_of_follow (h : t.follow b n dir steps = .error fault) :
    ∃ code reason, fault = .system code reason := by
  induction n, dir, steps using follow_induct with
  | nil n dir =>
    rw [follow_nil] at h
    cases h
  | cons n dir step rest ih again =>
    rw [follow_cons] at h
    split at h
    · exact ih _ h
    · exact ⟨_, _, (Except.error.inj h).symm⟩
    · unfold arrive at h
      split at h
      · split at h <;> cases h
        exact ⟨_, _, rfl⟩
      · exact ih _ h
      · split at h <;> cases h
        exact ⟨_, _, rfl⟩
      · split at h
        · cases h
        · split at h
          · exact ⟨_, _, (Except.error.inj h).symm⟩
          · exact again _ rfl _ _ h

def Leads (t : FileTree) (way q : String) : Prop :=
  (∃ text, t.locate way = .ok (q, some (.file text))) ∧ wantsDirectory way = false

lemma read_of_locate (h : t.locate way = .ok (q, some (.file text)))
    (hway : wantsDirectory way = false) : t.read way = .ok text := by
  simp only [read, find, h, hway]
  rfl

lemma read_cases (t : FileTree) (way : String) :
    (∃ code reason, t.read way = .error (.system code reason)) ∨
      ∃ q text, t.read way = .ok text ∧ wantsDirectory way = false ∧
        t.locate way = .ok (q, some (.file text)) := by
  cases hlocate : t.locate way with
  | error fault =>
    obtain ⟨code, reason, rfl⟩ := exists_system_of_follow hlocate
    simp only [read, find, hlocate]
    exact .inl ⟨code, reason, rfl⟩
  | ok r =>
    obtain ⟨q, e⟩ := r
    simp only [read, find, hlocate]
    cases e with
    | none => exact .inl ⟨_, _, rfl⟩
    | some entry =>
      cases entry with
      | directory | link => exact .inl ⟨_, _, rfl⟩
      | file text =>
        cases hway : wantsDirectory way with
        | true => exact .inl ⟨_, _, rfl⟩
        | false => exact .inr ⟨q, text, rfl, rfl, rfl⟩

lemma locate_of_read (h : t.read way = .ok text) :
    wantsDirectory way = false ∧ ∃ q, t.locate way = .ok (q, some (.file text)) := by
  obtain ⟨code, reason, hread⟩ | ⟨q, text', hread, hway, hlocate⟩ := read_cases t way
  · cases hread.symm.trans h
  · obtain rfl := Except.ok.inj (hread.symm.trans h)
    exact ⟨hway, q, hlocate⟩

lemma exists_system_of_read (h : t.read way = .error fault) :
    ∃ code reason, fault = .system code reason := by
  obtain ⟨code, reason, hread⟩ | ⟨_, _, hread, -⟩ := read_cases t way
  · exact ⟨code, reason, Except.error.inj (h.symm.trans hread)⟩
  · cases hread.symm.trans h

/-! ### Replacing -/

/-- The way leads somewhere, or at least does not turn back behind a directory that is missing. -/
def Firm (t : FileTree) (way : String) : Prop :=
  (∃ r, t.locate way = .ok r) ∨
    (t.Sound ∧ ".." ∉ Path.parts way ∧
      ∀ p target, t.get? p = some (.link target) → ".." ∉ Path.parts target)

/-- A place is as it was, or a directory was made where nothing was. -/
def Added (before after : Option Entry) : Prop :=
  after = before ∨ (before = none ∧ after = some .directory)

lemma Added.trans {x y z : Option Entry} (h : Added x y) (h' : Added y z) : Added x z := by
  rcases h' with rfl | ⟨rfl, rfl⟩
  · exact h
  · rcases h with rfl | ⟨-, hnew⟩
    · exact .inr ⟨rfl, rfl⟩
    · cases hnew

/-- One place holds a new text, and directories were made where nothing was. -/
structure Replaced (t t' : FileTree) (q text : String) : Prop where
  here : t'.get? q = some (.file text)
  before : IsDead (t.get? q)
  elsewhere : ∀ p, p ≠ q → Added (t.get? p) (t'.get? p)

lemma keeps_of_added
    (h : ∀ p, Added (t.get? p) (t'.get? p) ∨ (IsDead (t.get? p) ∧ IsDead (t'.get? p))) :
    t.Keeps t' := by
  have hplace (p : String) (e : Entry) (he : ∀ old, e ≠ .file old) (hp : t.get? p = some e) :
      t'.get? p = some e := by
    rcases h p with (hsame | ⟨hnone, -⟩) | ⟨hnone | ⟨old, hold⟩, -⟩
    · exact hsame.trans hp
    · cases hp.symm.trans hnone
    · cases hp.symm.trans hnone
    · exact absurd (Option.some.inj (hp.symm.trans hold)) (he old)
  refine ⟨fun p => hplace p _ (by simp), fun p target => hplace p _ (by simp), fun p text hp => ?_,
    fun p target hp => ?_⟩
  · rcases h p with (hsame | ⟨hnone, -⟩) | ⟨-, hdead⟩
    · exact .inr ⟨text, hsame.trans hp⟩
    · cases hp.symm.trans hnone
    · exact hdead
  · rcases h p with (hsame | ⟨-, hnew⟩) | ⟨-, hnone | ⟨text, htext⟩⟩
    · simp [hsame, hp]
    · simp [hnew]
    · simp [hnone]
    · simp [htext]

lemma Replaced.keeps (h : Replaced t t' q text) : t.Keeps t' := by
  refine keeps_of_added fun p => ?_
  by_cases hp : p = q
  · rw [hp]
    exact .inr ⟨h.before, .inr ⟨text, h.here⟩⟩
  · exact .inl (h.elsewhere p hp)

lemma Firm.follow_cases (hfirm : t.Firm way) (hk : t.Keeps t')
    (hlocate : t.locate way = t.follow b maxLinks "/" (Path.parts way))
    (h : t'.follow b maxLinks "/" (Path.parts way) = .ok (p, e)) (he : e ≠ some .directory) :
    t'.get? p = e ∧ (t.locate way = .ok (p, t.get? p) ∨
      (∃ fault, t.locate way = .error fault) ∧ t.get? p = none) := by
  rw [hlocate]
  cases hfollow : t.follow b maxLinks "/" (Path.parts way) with
  | error fault =>
    obtain ⟨r, hr⟩ | ⟨ht, hway, hlinks⟩ := hfirm
    · cases hr.symm.trans (hlocate.trans hfollow)
    · have hsteps : ∀ step ∈ Path.parts way, Path.IsStep step ∧ step ≠ ".." := fun step hstep =>
        ⟨Path.isStep_of_mem_parts hstep, fun hup => hway (hup ▸ hstep)⟩
      obtain ⟨hnone, hthere⟩ := hk.follow_fresh ht hlinks (.inl rfl) hsteps hfollow h
      exact ⟨hthere, .inr ⟨⟨fault, rfl⟩, hnone⟩⟩
  | ok r =>
    obtain ⟨p', e'⟩ := r
    obtain ⟨rfl, rfl⟩ := Prod.mk.inj (Except.ok.inj ((hk.follow_eq hfollow).symm.trans h))
    have hne : e' ≠ some .directory := fun hdirectory => he (if_pos hdirectory)
    rw [if_neg hne, (get?_of_follow hfollow).resolve_left hne]
    exact ⟨rfl, .inl rfl⟩

lemma Replaced.read_here (h : Replaced t t' q text) (hfirm : t.Firm way) (hleads : t'.Leads way q) :
    t'.read way = .ok text ∧ ∀ old, t.read way = .ok old ↔ t.get? q = some (.file old) := by
  obtain ⟨⟨x, hx⟩, hway⟩ := hleads
  obtain ⟨hthere, hbefore⟩ := hfirm.follow_cases h.keeps rfl hx (by simp)
  obtain rfl : x = text := by simpa using hthere.symm.trans h.here
  refine ⟨read_of_locate hx hway, fun old => ⟨fun hread => ?_, fun hold => ?_⟩⟩
  · obtain ⟨-, p, hp⟩ := locate_of_read hread
    rcases hbefore with hsame | ⟨⟨fault, hfault⟩, -⟩
    · exact (Prod.mk.inj (Except.ok.inj (hsame.symm.trans hp))).2
    · cases hfault.symm.trans hp
  · rcases hbefore with hsame | ⟨-, hnone⟩
    · rw [hold] at hsame
      exact read_of_locate hsame hway
    · cases hold.symm.trans hnone

lemma Keeps.read_of_read (hk : t.Keeps t') (hadded : ∀ p, wantsDirectory way = false →
      t'.locate way = .ok (p, t'.get? p) → Added (t.get? p) (t'.get? p))
    (hread : t.read way = .ok text) : t'.read way = .ok text := by
  obtain ⟨hway, p, hp⟩ := locate_of_read hread
  have hthere : t.get? p = some (.file text) := (get?_of_follow hp).resolve_left (by simp)
  have hp' : t'.locate way = .ok (p, t'.get? p) := by
    rw [locate, hk.follow_eq hp, if_neg (by simp)]
  rcases hadded p hway hp' with hsame | ⟨hnone, -⟩
  · rw [hsame, hthere] at hp'
    exact read_of_locate hp' hway
  · cases hthere.symm.trans hnone

lemma Firm.read_of_read (hfirm : t.Firm way) (hk : t.Keeps t') (hadded : ∀ p,
      wantsDirectory way = false → t'.locate way = .ok (p, t'.get? p) → Added (t.get? p) (t'.get? p))
    (hread : t'.read way = .ok text) : t.read way = .ok text := by
  obtain ⟨hway, p, hp⟩ := locate_of_read hread
  obtain ⟨hthere, hbefore⟩ := hfirm.follow_cases hk rfl hp (by simp)
  have hsame : t.get? p = some (.file text) := by
    rcases hadded p hway (hthere ▸ hp) with hsame | ⟨-, hnew⟩
    · exact hsame.symm.trans hthere
    · cases hnew.symm.trans hthere
  rcases hbefore with hlocate | ⟨-, hnone⟩
  · rw [hsame] at hlocate
    exact read_of_locate hlocate hway
  · cases hsame.symm.trans hnone

lemma Replaced.read_elsewhere (h : Replaced t t' q text) (hfirm : t.Firm way)
    (hleads : ¬t'.Leads way q) (x : String) : t'.read way = .ok x ↔ t.read way = .ok x := by
  have hadded (p : String) (hway : wantsDirectory way = false)
      (hp : t'.locate way = .ok (p, t'.get? p)) : Added (t.get? p) (t'.get? p) := by
    refine h.elsewhere p ?_
    rintro rfl
    rw [h.here] at hp
    exact hleads ⟨⟨text, hp⟩, hway⟩
  exact ⟨hfirm.read_of_read h.keeps hadded, h.keeps.read_of_read hadded⟩

lemma Replaced.trans {text' : String} (h : Replaced t t' q text) (h' : Replaced t' t'' q text') :
    Replaced t t'' q text' :=
  ⟨h'.here, h.before, fun p hp => (h.elsewhere p hp).trans (h'.elsewhere p hp)⟩

/-! ### Making directories -/

/-- Directories were made where nothing was. -/
def Adds (t t' : FileTree) : Prop := ∀ p, Added (t.get? p) (t'.get? p)

lemma Adds.refl (t : FileTree) : t.Adds t := fun _ => .inl rfl

lemma Adds.trans (h : t.Adds t') (h' : t'.Adds t'') : t.Adds t'' := fun p => (h p).trans (h' p)

lemma Adds.keeps (h : t.Adds t') : t.Keeps t' := keeps_of_added fun p => .inl (h p)

lemma Adds.replaced (h : t.Adds t') (h' : Replaced t' t'' q text) : Replaced t t'' q text := by
  refine ⟨h'.here, ?_, fun p hp => (h p).trans (h'.elsewhere p hp)⟩
  rcases h q with hsame | ⟨-, hnew⟩
  · rw [← hsame]
    exact h'.before
  · rcases h'.before with hnone | ⟨old, hold⟩
    · cases hnew.symm.trans hnone
    · cases hnew.symm.trans hold

lemma ne_root_of_get? (h : t.get? q = e) (he : e ≠ some .directory) : q ≠ "/" := by
  rintro rfl
  exact he h.symm

lemma adds_of_makeDirectory (h : t.makeDirectory way = .ok t') : t.Adds t' := by
  obtain ⟨⟨q, e⟩, hlocate, h⟩ := exists_of_bind_eq_ok h
  cases e with
  | some entry => cases h
  | none =>
    obtain rfl := Except.ok.inj h
    have hnone : t.get? q = none := (get?_of_follow hlocate).resolve_left (by simp)
    intro p
    rw [get?_put t (ne_root_of_get? hnone (by simp))]
    split
    · next hp => exact .inr ⟨hp ▸ hnone, rfl⟩
    · exact .inl rfl

/-! ### Giving a new file the name of an old one -/

/-- A way does not end at a link. -/
def Unlinked (t : FileTree) (way : String) : Prop :=
  ∀ q target, t.locateLink way ≠ .ok (q, some (.link target))

lemma Unlinked.locate_eq (h : t.Unlinked way) : t.locate way = t.locateLink way := follow_true_eq h

lemma Firm.unlinked (hfirm : t.Firm way) (hk : t.Keeps t') (h : t.Unlinked way) : t'.Unlinked way := by
  intro q target hlink
  obtain ⟨hthere, hbefore⟩ := hfirm.follow_cases hk h.locate_eq hlink (by simp)
  cases hentry : t.get? q with
  | none => exact hk.fresh _ _ hentry hthere
  | some entry =>
    cases entry with
    | directory => cases (hk.directory _ hentry).symm.trans hthere
    | link target' =>
      rw [h.locate_eq, hentry] at hbefore
      exact h _ _ (hbefore.resolve_right (by simp))
    | file old => rcases hk.file _ _ hentry with hgone | ⟨text, hgone⟩ <;> cases hthere.symm.trans hgone

lemma create_eq_ok (h : t.create way = .ok t') :
    ∃ q, t.locateLink way = .ok (q, none) ∧ wantsDirectory way = false ∧ t' = t.put q (.file "") := by
  obtain ⟨⟨q, e⟩, hlocate, h⟩ := exists_of_bind_eq_ok h
  cases e with
  | some entry => cases h
  | none =>
    dsimp only at h
    split at h
    · cases h
    · next hway => exact ⟨q, hlocate, by simpa using hway, (Except.ok.inj h).symm⟩

lemma write_of_locate (h : t.locate way = .ok (q, some (.file p))) (hway : wantsDirectory way = false)
    (text : String) : t.write way text = .ok (t.put q (.file text)) := by
  simp only [write, h, hway]
  rfl

lemma rename_eq_ok (hsource : t.locateLink source = .ok (old, some (.file text)))
    (h : t.rename source target = .ok t') :
    ∃ new there, t.locateLink target = .ok (new, there) ∧ there ≠ some .directory ∧
      wantsDirectory target = false ∧ t' = (t.erase old).put new (.file text) := by
  obtain ⟨r, hr, h⟩ := exists_of_bind_eq_ok h
  obtain rfl := Except.ok.inj (hsource.symm.trans hr)
  obtain ⟨⟨new, there⟩, htarget, h⟩ := exists_of_bind_eq_ok h
  simp only  at h
  split at h
  · cases h
  · split at h
    · cases h
    · next hdirectory =>
      split at h
      · cases h
      · next hway =>
        refine ⟨new, there, htarget, by simpa using hdirectory, by simpa using hway, ?_⟩
        exact (Except.ok.inj h).symm

/-- One place holds a text, and all else is as before. -/
def Beside (t : FileTree) (q text : String) (t' : FileTree) : Prop :=
  ∀ p, t'.get? p = if p = q then some (.file text) else t.get? p

lemma Beside.keeps (h : t.Beside q text t') (hq : IsDead (t.get? q)) : t.Keeps t' := by
  refine keeps_of_added fun p => ?_
  by_cases hp : p = q
  · rw [h, hp, if_pos rfl]
    exact .inr ⟨hq, .inr ⟨text, rfl⟩⟩
  · exact .inl (.inl ((h p).trans (if_neg hp)))

lemma Beside.locateLink_eq (h : t.Beside q text t') (hfree : t.locateLink way = .ok (q, none)) :
    t'.locateLink way = .ok (q, some (.file text)) := by
  have hnone : t.get? q = none := (get?_of_follow hfree).resolve_left (by simp)
  rw [locateLink, (h.keeps (.inl hnone)).follow_eq hfree, if_neg (by simp), h, if_pos rfl]

lemma locate_of_locateLink (h : t.locateLink way = .ok (q, e))
    (he : ∀ target, e ≠ some (.link target)) : t.locate way = .ok (q, e) := by
  have hunlinked : t.Unlinked way := by
    intro p target hlink
    exact he target (Prod.mk.inj (Except.ok.inj (h.symm.trans hlink))).2
  rw [hunlinked.locate_eq, h]

lemma replaced_of_rename {t₂ : FileTree} (hfree : t.locateLink source = .ok (old, none))
    (hget : t.Beside old text t₂) (hunlinked : t.Unlinked target) (h : t₂.rename source target = .ok t') :
    ∃ q, Replaced t t' q text ∧ t'.locateLink target = .ok (q, some (.file text)) ∧
      wantsDirectory target = false ∧ t.locateLink target = .ok (q, t.get? q) := by
  have hnone : t.get? old = none := (get?_of_follow hfree).resolve_left (by simp)
  have hroot := ne_root_of_get? hnone (by simp)
  have hnew : IsDead (t.get? old) ∧ IsDead (t₂.get? old) :=
    ⟨.inl hnone, .inr ⟨text, by rw [hget, if_pos rfl]⟩⟩
  have hkeeps' : t₂.Keeps t := by
    refine keeps_of_added fun p => ?_
    by_cases hp : p = old
    · exact .inr (hp ▸ hnew.symm)
    · exact .inl (.inl ((hget p).trans (if_neg hp)).symm)
  obtain ⟨q, there, htarget, hdirectory, hway, rfl⟩ := rename_eq_ok (hget.locateLink_eq hfree) h
  have hthere : t₂.get? q = there := (get?_of_follow htarget).resolve_left hdirectory
  have htarget' : t.locateLink target = .ok (q, t.get? q) := by
    rw [locateLink, hkeeps'.follow_eq htarget, if_neg hdirectory]
  have hdead : IsDead (t.get? q) ∧ IsDead (t₂.get? q) := by
    by_cases hq : q = old
    · exact hq ▸ hnew
    · have hsame : t₂.get? q = t.get? q := (hget q).trans (if_neg hq)
      rw [hsame, and_self]
      cases hentry : t.get? q with
      | none => exact .inl rfl
      | some entry =>
        cases entry with
        | directory => exact absurd ((hthere.symm.trans hsame).trans hentry) hdirectory
        | file x => exact .inr ⟨x, rfl⟩
        | link x =>
          rw [hentry] at htarget'
          exact absurd htarget' (hunlinked _ _)
  have hq : q ≠ "/" := by
    rintro rfl
    rcases hdead.1 with h | ⟨x, h⟩ <;> cases h
  -- Then it has the name of what the way leads to, and no other.
  have hget' (p : String) : ((t₂.erase old).put q (.file text)).get? p =
      if p = q then some (.file text) else t.get? p := by
    rw [get?_put _ hq, get?_erase _ hroot, hget]
    by_cases hp : p = old
    · simp [hp, hnone]
    · simp [hp]
  have hkeeps₃ : t₂.Keeps ((t₂.erase old).put q (.file text)) := by
    refine keeps_of_added fun p => ?_
    rw [hget' p]
    by_cases hp : p = q
    · rw [hp, if_pos rfl]
      exact .inr ⟨hdead.2, .inr ⟨text, rfl⟩⟩
    · rw [if_neg hp]
      by_cases hp' : p = old
      · exact .inr (hp' ▸ hnew.symm)
      · exact .inl (.inl ((hget p).trans (if_neg hp')).symm)
  refine ⟨q, ⟨(hget' q).trans (if_pos rfl), hdead.1, fun p hp => .inl ((hget' p).trans (if_neg hp))⟩, ?_,
    hway, htarget'⟩
  rw [locateLink, hkeeps₃.follow_eq htarget, if_neg hdirectory, hget', if_pos rfl]

end FileTree

/-! ### Actions on files -/

def Session.withFiles (s : Session) (t : FileTree) : Session :=
  { s with bench := { s.bench with files := t } }

variable {s s' : Session} {p text : String}

variable {f : FileTree → Except Fault FileTree} (p : String)

lemma run_changeFiles_of_ok {t : FileTree} (h : f s.bench.files = .ok t) :
    (changeFiles f).run s = (.ok (), s.withFiles t) := by
  rw [changeFiles, bench, bind_assoc, Act.bind_of_ok (Act.run_get s), pure_bind, h]
  rfl

lemma run_changeFiles_of_error {fault : Fault} (h : f s.bench.files = .error fault) :
    (changeFiles f).run s = (.error fault, s) := by
  rw [changeFiles, bench, bind_assoc, Act.bind_of_ok (Act.run_get s), pure_bind, h]
  rfl

lemma run_wayTo (s : Session) : (wayTo p).run s = (way? s.bench.cwd p, s) :=
  Act.run_ofExcept _ s

lemma run_fileContent (s : Session) :
    (fileContent p).run s = (way? s.bench.cwd p >>= s.bench.files.read, s) := by
  rw [fileContent]
  cases hway : way? s.bench.cwd p with
  | error fault => exact Act.bind_of_error (by rw [run_wayTo, hway])
  | ok way =>
    rw [Act.bind_of_ok (by rw [run_wayTo, hway])]
    have hlook : (lookFiles (·.read way)).run s = (.ok (s.bench.files.read way), s) := rfl
    rw [Act.bind_of_ok hlook, Act.run_ofExcept]
    rfl

def textIn (t : FileTree) (cwd p : String) : Except Fault String :=
  (way? cwd p >>= t.read).map fun text => String.ofList (Text.plainLineEnds text.toList)

lemma run_fileText (s : Session) : (fileText p).run s = (textIn s.bench.files s.bench.cwd p, s) := by
  rw [fileText, textIn]
  cases hcontent : way? s.bench.cwd p >>= s.bench.files.read with
  | error fault => exact Act.bind_of_error (by rw [run_fileContent, hcontent])
  | ok text =>
    rw [Act.bind_of_ok (by rw [run_fileContent, hcontent])]
    rfl

/-! ### Making directories -/

/-- Only files changed, and directories were made where nothing was. -/
def AddsDirectories (s s' : Session) : Prop := ∃ t, s' = s.withFiles t ∧ s.bench.files.Adds t

instance : Std.Refl AddsDirectories := ⟨fun s => ⟨s.bench.files, rfl, .refl _⟩⟩

instance : Trans AddsDirectories AddsDirectories AddsDirectories where
  trans := by
    rintro s₁ s₂ s₃ ⟨t, rfl, ht⟩ ⟨t', rfl, ht'⟩
    exact ⟨t', rfl, ht.trans ht'⟩

open Act FileTree

lemma adds_askPath (question : FileTree → String → Bool) (p : String) :
    Moves AddsDirectories (askPath question p) := by
  refine .bind (.attempt (moves_wayTo p)) fun r => ?_
  cases r with
  | ok way => exact .of_run fun s => rfl
  | error fault => exact .pure _

lemma adds_makeDirectory : Moves AddsDirectories (makeDirectory p) := by
  refine .bind (moves_wayTo p) fun way s => ?_
  cases hmake : s.bench.files.makeDirectory way with
  | error fault =>
    rw [run_changeFiles_of_error hmake]
    exact Std.Refl.refl s
  | ok t =>
    rw [run_changeFiles_of_ok hmake]
    exact ⟨t, rfl, adds_of_makeDirectory hmake⟩

lemma adds_makeDirectories (fuel : Nat) (p : String) : Moves AddsDirectories (makeDirectories fuel p) := by
  induction fuel generalizing p with
  | zero => exact adds_makeDirectory p
  | succ fuel ih =>
    have hmake := adds_makeDirectory p
    rw [makeDirectories]
    refine .bind (adds_askPath _ _) fun there => .ite (.bind (.attempt (ih _)) fun r => ?_) hmake
    cases r with
    | ok _ => exact .ite (.pure ()) hmake
    | error fault =>
      exact .ite (.ite (.pure ()) hmake) (.bind (.throw fault) fun _ => .ite (.pure ()) hmake)

lemma adds_ensureDirectory : Moves AddsDirectories (ensureDirectory p) := by
  refine .bind (.attempt (adds_makeDirectories _ _)) fun r => ?_
  cases r with
  | ok _ => exact .pure ()
  | error fault => exact .bind (adds_askPath _ _) fun there => .ite (.pure ()) (.throw fault)

/-! ### Replacing a file -/

namespace Config

variable {file name way q : String}

structure Free (s : Session) (name way q : String) : Prop where
  named : way? s.bench.cwd name = .ok way
  free : s.bench.files.locateLink way = .ok (q, none)
  slash : wantsDirectory way = false

lemma Free.get?_eq (h : Free s name way q) : s.bench.files.get? q = none :=
  (get?_of_follow h.free).resolve_left (by simp)

lemma Free.ne_root (h : Free s name way q) : q ≠ "/" := ne_root_of_get? h.get?_eq (by simp)

lemma createTemporary_cases (file : String) (tries : Nat) (s : Session) :
    (∃ e, (createTemporary file tries).run s = (.error e, s)) ∨
      ∃ name way q t, (createTemporary file tries).run s = (.ok name, s.withFiles t) ∧
        Free s name way q ∧ s.bench.files.Beside q "" t := by
  induction tries with
  | zero => exact .inl ⟨_, rfl⟩
  | succ tries ih =>
    have hrun := run_wayTo (temporaryName file tries) s
    rw [createTemporary]
    cases hway : way? s.bench.cwd (temporaryName file tries) with
    | error e => exact .inl ⟨e, bind_of_error (hrun.trans (by rw [hway]))⟩
    | ok way =>
      rw [bind_of_ok (hrun.trans (by rw [hway])), run_bind, run_attempt]
      cases hcreate : s.bench.files.create way with
      | error fault =>
        rw [run_changeFiles_of_error hcreate]
        dsimp only
        split
        · exact ih
        · exact .inl ⟨fault, rfl⟩
      | ok t =>
        obtain ⟨q, hlocate, hslash, rfl⟩ := create_eq_ok hcreate
        have hfree : Free s (temporaryName file tries) way q := ⟨hway, hlocate, hslash⟩
        rw [run_changeFiles_of_ok hcreate]
        exact .inr ⟨_, way, q, _, rfl, hfree, get?_put _ hfree.ne_root _⟩

lemma Free.run_appendText {old : String} {t : FileTree} (h : Free s name way q)
    (ht : s.bench.files.Beside q old t) (text : String) :
    ∃ t', (appendText name text).run (s.withFiles t) = (.ok (), s.withFiles t') ∧
      s.bench.files.Beside q (old ++ text) t' := by
  have hlocate := locate_of_locateLink (ht.locateLink_eq h.free) (by simp)
  have hcontent : (fileContent name).run (s.withFiles t) = (.ok old, s.withFiles t) := by
    rw [run_fileContent]
    simp only [Session.withFiles, h.named]
    exact congrArg (·, s.withFiles t) (read_of_locate hlocate h.slash)
  have hway : (wayTo name).run (s.withFiles t) = (.ok way, s.withFiles t) :=
    (run_wayTo name _).trans (congrArg (·, s.withFiles t) h.named)
  rw [appendText, bind_of_ok hcontent, putText, bind_of_ok hway]
  refine ⟨_, run_changeFiles_of_ok (write_of_locate hlocate h.slash _), fun p => ?_⟩
  rw [get?_put _ h.ne_root]
  by_cases hp : p = q <;> simp [hp, ht p]

lemma replaceFile_cases (body : (String → Act Unit) → Act Unit) {P : String → Prop} {s : Session}
    (hbody : ∀ {name way q t}, Free s name way q → s.bench.files.Beside q "" t →
      ∃ r text t', (body (appendText name)).run (s.withFiles t) = (r, s.withFiles t') ∧
        s.bench.files.Beside q text t' ∧ P text) (file : String) :
    (∃ name way q text target t t', Free s name way q ∧ s.bench.files.Beside q text t ∧ P text ∧
        way? s.bench.cwd file = .ok target ∧ t.rename way target = .ok t' ∧
        (replaceFile file body).run s = (.ok (), s.withFiles t')) ∨
      ∃ e t, (replaceFile file body).run s = (.error e, s.withFiles t) ∧
        ∀ p, t.get? p = s.bench.files.get? p := by
  obtain ⟨e, hcreate⟩ | ⟨name, way, q, t₀, hcreate, hfree, hempty⟩ :=
    createTemporary_cases file maxTemporaries s
  · exact .inr ⟨e, s.bench.files, bind_of_error hcreate, fun _ => rfl⟩
  obtain ⟨r, text, t, hrun, hget, hP⟩ := hbody hfree hempty
  have hremove : t.removeFile way = .ok (t.erase q) := by
    simp only [removeFile, hget.locateLink_eq hfree.free, hfree.slash]
    rfl
  have hsame (p : String) : (t.erase q).get? p = s.bench.files.get? p := by
    rw [get?_erase _ hfree.ne_root, hget]
    by_cases hp : p = q <;> simp [hp, hfree.get?_eq]
  have hfail (e : Fault) : (do
      changeFiles (·.removeFile way)
      throw e : Act Unit).run (s.withFiles t) = (.error e, s.withFiles (t.erase q)) :=
    bind_of_ok (run_changeFiles_of_ok hremove)
  have hto (p : String) (t : FileTree) :
      (wayTo p).run (s.withFiles t) = (way? s.bench.cwd p, s.withFiles t) := run_wayTo p _
  rw [replaceFile, bind_of_ok hcreate, bind_of_ok ((hto _ _).trans (by rw [hfree.named])), run_bind,
    run_attempt]
  cases r with
  | error e =>
    rw [bind_of_error hrun]
    exact .inr ⟨e, _, hfail e, hsame⟩
  | ok _ =>
    rw [bind_of_ok hrun]
    cases htarget : way? s.bench.cwd file with
    | error e =>
      rw [bind_of_error ((hto _ _).trans (by rw [htarget]))]
      exact .inr ⟨e, _, hfail e, hsame⟩
    | ok target =>
      rw [bind_of_ok ((hto _ _).trans (by rw [htarget]))]
      cases hrename : t.rename way target with
      | error e =>
        rw [run_changeFiles_of_error hrename]
        exact .inr ⟨e, _, hfail e, hsame⟩
      | ok t' =>
        rw [run_changeFiles_of_ok hrename]
        exact .inl ⟨name, way, q, text, target, t, t', hfree, hget, hP, rfl, hrename, rfl⟩

lemma run_replaceFile {text : String}
    (hunlinked : ∀ target, way? s.bench.cwd file = .ok target → s.bench.files.Unlinked target)
    (h : (replaceFile file fun write => write text).run s = (.ok (), s')) :
    ∃ target q t, way? s.bench.cwd file = .ok target ∧ s' = s.withFiles t ∧
      s.bench.files.Replaced t q text ∧ t.locateLink target = .ok (q, some (.file text)) ∧
      wantsDirectory target = false ∧
      s.bench.files.locateLink target = .ok (q, s.bench.files.get? q) := by
  have hwrite {name way q : String} {t : FileTree} (hfree : Free s name way q)
      (ht : s.bench.files.Beside q "" t) :
      ∃ r x t', (appendText name text).run (s.withFiles t) = (r, s.withFiles t') ∧
        s.bench.files.Beside q x t' ∧ x = text := by
    obtain ⟨t', hrun, ht'⟩ := hfree.run_appendText ht text
    exact ⟨_, _, t', hrun, ht', String.empty_append⟩
  obtain ⟨name, way, old, x, target, t, t', hfree, ht, rfl, htarget, hrename, hrun⟩ | ⟨e, t, hrun, -⟩ :=
    replaceFile_cases (fun write => write text) hwrite file
  · obtain ⟨-, rfl⟩ := Prod.mk.inj (h.symm.trans hrun)
    obtain ⟨q, hreplaced⟩ :=
      replaced_of_rename hfree.free ht (hunlinked target htarget) hrename
    exact ⟨target, q, t', htarget, rfl, hreplaced⟩
  · cases h.symm.trans hrun

end Config

end SetTop
