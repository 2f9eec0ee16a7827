import SetTop.Proofs.Act

/-!
Low faults.

A fault is low if it comes from a layer below or refuses a value. What the capture reports is not
low, and neither is what ends a program. An action that only low faults can stop is taken for
neither, and one that shields itself against failures goes on after it.
-/

namespace SetTop

/-- Whether a fault comes from a layer below or refuses a value. -/
def Fault.isLow : Fault → Bool
  | .foreign kind _ => kind != .keyboardInterrupt
  | .failure kind _ => kind == .value
  | _ => false

lemma Fault.isOrdinary_of_isLow {e : Fault} (h : e.isLow = true) : e.isOrdinary = true := by
  cases e with
  | failure kind message =>
    obtain rfl : kind = .value := by simpa [isLow] using h
    rfl
  | foreign kind detail =>
    have hkind : kind ≠ .keyboardInterrupt := by simpa [isLow] using h
    cases kind <;> first | rfl | exact absurd rfl hkind
  | system | refused | timedOut | exit | exhausted => cases h

/-- What stops this, if anything does, is low. -/
def Low {α : Type} (r : Except Fault α) : Prop := ∀ e, r = .error e → e.isLow = true

namespace Low

variable {α β : Type}

lemma ok (v : α) : Low (.ok v) := fun _ => nofun

lemma error {e : Fault} (h : e.isLow = true) : Low (.error e : Except Fault α) := by
  rintro _ ⟨⟩
  exact h

lemma bind {r : Except Fault α} {f : α → Except Fault β} (hr : Low r) (hf : ∀ v, Low (f v)) :
    Low (r >>= f) := by
  cases r with
  | ok v => exact hf v
  | error e => exact .error (hr e rfl)

lemma ite {c : Prop} [Decidable c] {r r' : Except Fault α} (hr : Low r) (hr' : Low r') :
    Low (if c then r else r') := by
  split
  · exact hr
  · exact hr'

lemma when {c : Prop} [Decidable c] {r : Except Fault α} {r' : Except Fault β} (hr : Low r)
    (hr' : Low r') : Low (if c then r >>= fun _ => r' else r') := .ite (.bind hr fun _ => hr') hr'

lemma foldlM {f : β → α → Except Fault β} (hf : ∀ b x, Low (f b x)) (l : List α) (b : β) :
    Low (l.foldlM f b) := by
  induction l generalizing b with
  | nil => exact .ok b
  | cons x l ih => exact .bind (hf b x) ih

end Low

def Act.Low {α : Type} (a : Act α) : Prop := ∀ s, SetTop.Low (a.run s).1

namespace Act.Low

variable {α β : Type}

lemma pure (v : α) : Act.Low (Pure.pure v : Act α) := fun _ => .ok v

lemma throw {e : Fault} (h : e.isLow = true) : Act.Low (MonadExcept.throw e : Act α) :=
  fun _ => .error h

lemma get : Act.Low (MonadState.get : Act Session) := fun s => .ok s

lemma modify (f : Session → Session) : Act.Low (modify f : Act Unit) := fun _ => .ok ()

lemma ofExcept {r : Except Fault α} (hr : SetTop.Low r) : Act.Low (Act.ofExcept r) := by
  intro s
  rw [run_ofExcept]
  exact hr

lemma bind {a : Act α} {f : α → Act β} (ha : Act.Low a) (hf : ∀ v, Act.Low (f v)) :
    Act.Low (a >>= f) := by
  intro s
  have hs := ha s
  rw [run_bind]
  rcases hrun : a.run s with ⟨r, s'⟩
  rw [hrun] at hs
  cases r with
  | ok v => exact hf v s'
  | error e => exact .error (hs e rfl)

lemma forM {f : α → Act Unit} (hf : ∀ x, Act.Low (f x)) (l : List α) : Act.Low (l.forM f) := by
  induction l with
  | nil => exact .pure ()
  | cons x l ih => exact .bind (hf x) fun _ => ih

lemma ite {c : Prop} [Decidable c] {a b : Act α} (ha : Act.Low a) (hb : Act.Low b) :
    Act.Low (if c then a else b) := by
  split
  · exact ha
  · exact hb

end Act.Low

namespace Num

lemma low_checked {α : Type} (v : Option α) : Low (checked v) := by
  cases v with
  | some v => exact .ok v
  | none => exact .error rfl

lemma low_whole (n : Num) : Low n.whole := by
  rw [whole]
  split
  · exact .ok _
  · refine .error ?_
    split <;> rfl

end Num

namespace Sample

lemma low_wrongSize {α : Type} (shape : List Num) (actual : Nat) (size : Num) :
    Low (throw (wrongSize shape actual size) : Except Fault α) := by
  refine .error ?_
  rw [wrongSize]
  split
  · rfl
  · next h => exact Num.low_whole size _ h

lemma low_shape (x : Sample) : Low x.shape := by
  refine .ite (.ok _) ?_
  cases x.data with
  | some d => exact .ok _
  | none => exact .error rfl

lemma low_extents (shape : List Num) : Low (extents shape) := by
  induction shape with
  | nil => exact .ok _
  | cons n shape ih =>
    cases n with
    | int n => exact .bind ih fun more => .when (.error rfl) (.ok _)
    | _ => exact .error rfl

lemma low_array (x : Sample) (writing : Bool) : Low (x.array writing) := by
  refine .bind (low_shape x) fun shape => ?_
  refine .bind (.foldlM (fun a b => Num.low_checked _) shape 1) fun size => ?_
  cases x.data with
  | none => exact .error rfl
  | some d =>
    refine .when (.error rfl) (.when (low_wrongSize shape d.size size) ?_)
    exact .bind (low_extents shape) fun _ => .ok _

lemma low_frame (x : Sample) (writing : Bool) : Low (x.frame writing) := by
  refine .bind (low_array x writing) fun a => ?_
  dsimp only
  split <;> exact .ok _

end Sample

end SetTop
