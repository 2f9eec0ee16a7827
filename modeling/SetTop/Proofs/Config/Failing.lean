import SetTop.Proofs.Config.History

/-!
Changes of a configuration that fail.

Until the file is replaced only directories are made (`Spares`), and what a failure to replace it
leaves behind is taken away. Then nothing can fail any more: settings take a value or refuse it
whatever they hold (`exists_set`), and the settings in the file have just taken it.
-/

namespace SetTop.Config

open Act FileTree

variable {α β : Type} {s s' : Session} {e : Fault}

/-- If the action is stopped, then only directories were made. -/
def Spares (a : Act α) : Prop := ∀ s e s', a.run s = (.error e, s') → AddsDirectories s s'

lemma Spares.bind {a : Act α} {f : α → Act β} (ha : Moves AddsDirectories a) (hf : ∀ v, Spares (f v)) :
    Spares (a >>= f) := by
  intro s e s' h
  obtain ⟨_, hrun, -⟩ | ⟨v, s₁, hrun, h⟩ := bind_cases h
  · exact ha.of_run_eq hrun
  · exact Trans.trans (ha.of_run_eq hrun) (hf v s₁ e s' h)

/-- Nothing is done but writing: what each writing keeps is kept. -/
def OnlyWrites (body : (String → Act Unit) → Act Unit) : Prop :=
  ∀ (P : Session → Prop) (write : String → Act Unit), (∀ text s, P s → P ((write text).run s).2) →
    ∀ s, P s → P ((body write).run s).2

lemma OnlyWrites.run_replaceFile {body : (String → Act Unit) → Act Unit} (hbody : OnlyWrites body)
    (file : String) (s : Session) : ∃ r t, (replaceFile file body).run s = (r, s.withFiles t) ∧
      ∀ e, r = .error e → ∀ p, t.get? p = s.bench.files.get? p := by
  have hwrites {name way q : String} {t : FileTree} (hfree : Free s name way q)
      (ht : s.bench.files.Beside q "" t) :
      ∃ r text t', (body (appendText name)).run (s.withFiles t) = (r, s.withFiles t') ∧
        s.bench.files.Beside q text t' ∧ True := by
    obtain ⟨text, t', hs', ht'⟩ := hbody
      (fun s₁ => ∃ text t', s₁ = s.withFiles t' ∧ s.bench.files.Beside q text t') (appendText name)
      (by
        rintro text _ ⟨old, t₁, rfl, ht₁⟩
        obtain ⟨t₂, hrun, ht₂⟩ := hfree.run_appendText ht₁ text
        exact ⟨_, t₂, congrArg Prod.snd hrun, ht₂⟩)
      _ ⟨"", t, rfl, ht⟩
    exact ⟨_, text, t', Prod.ext rfl hs', ht', trivial⟩
  obtain ⟨_, _, _, _, _, _, t', -, -, -, -, -, hrun⟩ | ⟨e, t, hrun, hsame⟩ :=
    replaceFile_cases body hwrites file
  · exact ⟨_, t', hrun, nofun⟩
  · exact ⟨_, t, hrun, fun _ _ => hsame⟩

end SetTop.Config
