import Mathlib.Tactic.Lemma
import SetTop.Session

/-!
Reasoning about actions.

An action is a function from a session to an outcome and a session, and `Act.run` is that function.

`Act.Moves R a` says that `a` takes every session only along `R`. If `R` is reflexive and transitive
this is closed under all constructs, and so a frame condition is stated once, as a relation.
-/

namespace SetTop

variable {α β : Type}

lemma exists_of_bind_eq_ok {ε : Type} {a : Except ε α} {f : α → Except ε β} {w : β}
    (h : (a >>= f) = .ok w) : ∃ v, a = .ok v ∧ f v = .ok w := by
  cases a with
  | error e => cases h
  | ok v => exact ⟨v, rfl, h⟩

lemma eq_ok_of_mapError {ε ε' : Type} {f : ε → ε'} {a : Except ε α} {v : α}
    (h : a.mapError f = .ok v) : a = .ok v := by
  cases a with
  | error e => cases h
  | ok w => exact congrArg Except.ok (Except.ok.inj h)

namespace Act

@[simp] lemma run_pure (v : α) (s : Session) : (pure v : Act α).run s = (.ok v, s) := rfl

@[simp] lemma run_throw (e : Fault) (s : Session) :
    (throw e : Act α).run s = (.error e, s) := rfl

@[simp] lemma run_get (s : Session) : (get : Act Session).run s = (.ok s, s) := rfl

lemma run_bench (s : Session) : bench.run s = (.ok s.bench, s) := rfl

@[simp] lemma run_modify (f : Session → Session) (s : Session) :
    (modify f : Act Unit).run s = (.ok (), f s) := rfl

lemma run_bind (a : Act α) (f : α → Act β) (s : Session) :
    (a >>= f).run s =
      match a.run s with
      | (.ok v, s') => (f v).run s'
      | (.error e, s') => (.error e, s') := by
  simp only [run, ExceptT.run, bind, ExceptT.bind, ExceptT.mk, StateT.run, StateT.bind]
  cases a s with
  | mk r s' => cases r <;> rfl

variable {s s' : Session}

variable {a : Act α} {f : α → Act β}

lemma bind_of_ok {v : α} (h : a.run s = (.ok v, s')) : (a >>= f).run s = (f v).run s' := by
  rw [run_bind, h]

lemma bind_of_error {e : Fault} (h : a.run s = (.error e, s')) :
    (a >>= f).run s = (.error e, s') := by
  rw [run_bind, h]

lemma bind_cases {r : Except Fault β} (h : (a >>= f).run s = (r, s')) :
    (∃ e, a.run s = (.error e, s') ∧ r = .error e) ∨
      ∃ v s₁, a.run s = (.ok v, s₁) ∧ (f v).run s₁ = (r, s') := by
  rw [run_bind] at h
  rcases hrun : a.run s with ⟨r', s₁⟩
  rw [hrun] at h
  cases r' with
  | ok v => exact .inr ⟨v, s₁, rfl, h⟩
  | error e =>
    obtain ⟨rfl, rfl⟩ := Prod.mk.inj h
    exact .inl ⟨e, rfl, rfl⟩

lemma bind_eq_ok {w : β} (h : (a >>= f).run s = (.ok w, s')) :
    ∃ v s₁, a.run s = (.ok v, s₁) ∧ (f v).run s₁ = (.ok w, s') := by
  obtain ⟨e, -, he⟩ | hok := bind_cases h
  · cases he
  · exact hok

@[simp] lemma run_attempt (a : Act α) (s : Session) :
    (attempt a).run s = (.ok (a.run s).1, (a.run s).2) := by
  unfold attempt
  simp only [run, ExceptT.run, tryCatch, tryCatchThe, MonadExceptOf.tryCatch, ExceptT.tryCatch,
    ExceptT.mk, StateT.run, bind, StateT.bind, Functor.map, ExceptT.map]
  cases a s with
  | mk r s' => cases r <;> rfl

@[simp] lemma run_ofExcept (r : Except Fault α) (s : Session) : (ofExcept r).run s = (r, s) := by
  cases r <;> rfl

lemma ensuring_eq (a : Act α) (clean : Act Unit) :
    ensuring a clean = (do let r ← attempt a; clean; ofExcept r) := rfl

lemma run_forM {f : α → Act Unit} {l : List α} (hf : ∀ a ∈ l, (f a).run s = (.ok (), s)) :
    (l.forM f).run s = (.ok (), s) := by
  induction l with
  | nil => rfl
  | cons a l ih =>
    obtain ⟨ha, hl⟩ := List.forall_mem_cons.1 hf
    exact (bind_of_ok ha).trans (ih hl)

/-- The action takes every session only along a relation, whether it is stopped or not. -/
def Moves (R : Session → Session → Prop) (a : Act α) : Prop := ∀ s, R s (a.run s).2

section Moves

variable {R : Session → Session → Prop}

variable {a : Act α}

lemma Moves.of_run [Std.Refl R] (h : ∀ s, (a.run s).2 = s) : Moves R a := by
  intro s
  rw [h s]
  exact Std.Refl.refl s

variable {s : Session}

lemma Moves.of_run_eq {s' : Session} {r : Except Fault α} (ha : Moves R a) (h : a.run s = (r, s')) :
    R s s' := by
  have hs := ha s
  rwa [h] at hs

lemma Moves.exists_run (ha : Moves R a) (h : ∃ v, (a.run s).1 = .ok v) :
    ∃ v s', a.run s = (.ok v, s') ∧ R s s' := by
  obtain ⟨v, hv⟩ := h
  exact ⟨v, (a.run s).2, Prod.ext hv rfl, ha s⟩

lemma Moves.pure [Std.Refl R] (v : α) : Moves R (Pure.pure v : Act α) := .of_run fun _ => rfl

lemma Moves.throw [Std.Refl R] (e : Fault) : Moves R (MonadExcept.throw e : Act α) :=
  .of_run fun _ => rfl

lemma Moves.get [Std.Refl R] : Moves R (MonadState.get : Act Session) := .of_run fun _ => rfl

lemma Moves.bench [Std.Refl R] : Moves R SetTop.bench := .of_run fun _ => rfl

lemma Moves.ofExcept [Std.Refl R] (r : Except Fault α) : Moves R (Act.ofExcept r) :=
  .of_run fun s => by rw [run_ofExcept]

lemma Moves.bind [Trans R R R] {f : α → Act β} (ha : Moves R a) (hf : ∀ v, Moves R (f v)) :
    Moves R (a >>= f) := by
  intro s
  have hs := ha s
  rw [run_bind]
  rcases hrun : a.run s with ⟨r, s'⟩
  rw [hrun] at hs
  cases r with
  | ok v => exact Trans.trans hs (hf v s')
  | error e => exact hs

lemma Moves.attempt (ha : Moves R a) : Moves R (Act.attempt a) := by
  intro s
  rw [run_attempt]
  exact ha s

lemma Moves.forM [Std.Refl R] [Trans R R R] {f : α → Act Unit} {l : List α}
    (hf : ∀ x ∈ l, Moves R (f x)) : Moves R (l.forM f) := by
  induction l with
  | nil => exact .pure ()
  | cons x l ih =>
    exact .bind (hf x (by simp)) fun _ => ih fun y hy => hf y (by simp [hy])

lemma Moves.ite {c : Prop} [Decidable c] {b : Act α} (ha : Moves R a) (hb : Moves R b) :
    Moves R (if c then a else b) := by
  split
  · exact ha
  · exact hb

lemma Moves.when [Trans R R R] {c : Prop} [Decidable c] {b : Act β} (ha : Moves R a) (hb : Moves R b) :
    Moves R (if c then a >>= fun _ => b else b) := .ite (.bind ha fun _ => hb) hb

end Moves

end Act

end SetTop
