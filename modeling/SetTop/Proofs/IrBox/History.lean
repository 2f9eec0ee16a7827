import SetTop.IrBox.Proxy
import SetTop.Proofs.Act

/-!
What a proxy does, written down.

The journal of a run does not say on which message something was sent. A `History` lists what the
proxy read, what it sent to whom, and how the registry changed, in order.

`Step s e s'` ties every entry to the session. Between two entries a session changes only along
`Quiet`: nothing is sent or read and the registry stays. So a history of a run (`Trace`) accounts for
all of these.

`Follows P a Q E` is the triple for actions with a history. An action that starts where `P` holds
goes on with a history after which `Q` holds of its result, or `E` if it is stopped.
-/

namespace SetTop.IrBox.Proxy

inductive Happening
  /-- the connections were opened, unless they could not be -/
  | opened
  /-- a command of a client was read -/
  | took (client : Nat) (m : Incoming)
  /-- a command was registered under a number -/
  | numbered (p : Pending) (n : Nat)
  /-- a text was sent to the emitter -/
  | passed (text : Data)
  /-- a message of the emitter was read -/
  | heard (m : Incoming)
  /-- a text was sent to a client, whose connection may have failed -/
  | sent (client : Nat) (text : Data) (arrived : Bool)
  /-- the record under a number was dropped -/
  | settled (n : Nat)
  /-- reading from a connection came to nothing -/
  | lost (link : Nat)

abbrev History := List Happening

def sends (journal : List Event) : List (String × String) :=
  journal.filterMap fun
    | .send label text => some (label, text)
    | _ => none

/-- Nothing is sent and nothing is read, and the registry and the emitter stay the same. -/
structure Quiet (s s' : Session) : Prop where
  registry : s'.proxy.registry = s.proxy.registry
  box : s'.proxy.box = s.proxy.box
  links : s.bench.links <+: s'.bench.links
  sends : sends s'.bench.journal = sends s.bench.journal

instance : Std.Refl Quiet := ⟨fun _ => ⟨rfl, rfl, List.prefix_refl _, rfl⟩⟩

instance : Trans Quiet Quiet Quiet where
  trans h₁ h₂ := ⟨h₂.registry.trans h₁.registry, h₂.box.trans h₁.box, h₁.links.trans h₂.links,
    h₂.sends.trans h₁.sends⟩

def withRegistry (s : Session) (r : Registry) : Session :=
  { s with proxy := { s.proxy with registry := r } }

def fresh (s : Session) (verbosity : Nat) : Session :=
  { s with proxy := { verbosity := verbosity } }

/-- What an entry of a history stands for. -/
inductive Step : Session → Happening → Session → Prop
  | opened {s s' : Session} {place : Place} {r : Except Fault Nat}
      (h : (openConnections place).run s = (r, s')) : Step s .opened s'
  | took {s s' : Session} {client : Nat} {m : Incoming}
      (h : (readCommand client).run s = (.ok m, s')) : Step s (.took client m) s'
  | numbered {s : Session} {client k n : Nat} {data : Data} {r : Registry}
      (hk : data.bigEndian = .ok k) (hn : s.proxy.registry.freshNumber = some (n, r)) :
      Step s (.numbered ⟨client, k⟩ n) (withRegistry s (r.put n (some ⟨client, k⟩)))
  | passed {s s' : Session} {text : Data}
      (h : (Net.send s.proxy.box (String.ofList text)).run s = (.ok (), s')) :
      Step s (.passed text) s'
  | heard {s s' : Session} {m : Incoming} (h : receiveIncoming.run s = (.ok m, s')) :
      Step s (.heard m) s'
  | sent {s s' : Session} {client : Nat} {text : Data}
      (h : (Net.send client (String.ofList text)).run s = (.ok (), s')) :
      Step s (.sent client text true) s'
  | unsent {s s' : Session} {client : Nat} {text : Data} {e : Fault}
      (h : (Net.send client (String.ofList text)).run s = (.error e, s')) :
      Step s (.sent client text false) s'
  | settled {s : Session} (n : Nat) :
      Step s (.settled n) (withRegistry s (s.proxy.registry.forget n))
  | lostCommand {s s' : Session} {client : Nat} {e : Fault}
      (h : (readCommand client).run s = (.error e, s')) : Step s (.lost client) s'
  | lostMessage {s s' : Session} {e : Fault} (h : receiveIncoming.run s = (.error e, s')) :
      Step s (.lost s.proxy.box) s'

/-- The history of what took one session to another. -/
inductive Trace : Session → History → Session → Prop
  | done (s : Session) : Trace s [] s
  | quiet {s s₁ s' : Session} {h : History} (hq : Quiet s s₁) (ht : Trace s₁ h s') : Trace s h s'
  | step {s s₁ s' : Session} {e : Happening} {h : History} (he : Step s e s₁)
      (ht : Trace s₁ h s') : Trace s (e :: h) s'

namespace Trace

variable {s s' : Session}

lemma of_quiet (hq : Quiet s s') : Trace s [] s' := .quiet hq (.done s')

lemma of_step {e : Happening} (he : Step s e s') : Trace s [e] s' :=
  .step he (.done s')

lemma append {s₁ : Session} {h₁ h₂ : History} (ht₁ : Trace s h₁ s₁) (ht₂ : Trace s₁ h₂ s') :
    Trace s (h₁ ++ h₂) s' := by
  induction ht₁ with
  | done => exact ht₂
  | quiet hq _ ih => exact .quiet hq (ih ht₂)
  | step he _ ih => exact .step he (ih ht₂)

end Trace

/-! ### Actions with a history -/

/-- After a history that satisfies `P` the action goes on with one after which `Q` holds of its
result, or `E` if it is stopped. -/
def Follows {α : Type} (P : History → Session → Prop) (a : Act α)
    (Q : α → History → Session → Prop) (E : History → Session → Prop) : Prop :=
  ∀ h s, P h s → ∃ h', Trace s h' (a.run s).2 ∧
    match (a.run s).1 with
    | .ok v => Q v (h ++ h') (a.run s).2
    | .error _ => E (h ++ h') (a.run s).2

namespace Follows

variable {α β : Type} {P P' : History → Session → Prop} {Q : α → History → Session → Prop}
  {R : β → History → Session → Prop} {E : History → Session → Prop}

lemma pure (v : α) (hQ : ∀ h s, P h s → Q v h s) : Follows P (Pure.pure v) Q E := by
  intro h s hP
  refine ⟨[], .done s, ?_⟩
  simpa using hQ h s hP

lemma throw (e : Fault) (hE : ∀ h s, P h s → E h s) :
    Follows P (MonadExcept.throw e : Act α) Q E := by
  intro h s hP
  refine ⟨[], .done s, ?_⟩
  simpa using hE h s hP

lemma throw_bind (e : Fault) (f : α → Act β) (hE : ∀ h s, P h s → E h s) :
    Follows P (MonadExcept.throw e >>= f) R E := .throw e hE

lemma ofExcept (r : Except Fault α) (hE : ∀ h s, P h s → E h s) :
    Follows P (Act.ofExcept r) (fun v h s => P h s ∧ r = .ok v) E := by
  cases r with
  | ok v => exact .pure v fun _ _ hP => ⟨hP, rfl⟩
  | error e => exact .throw e hE

variable {a : Act α} {f : α → Act β} {E' : History → Session → Prop}

lemma bind (ha : Follows P a Q E) (hf : ∀ v, Follows (Q v) (f v) R E) : Follows P (a >>= f) R E := by
  intro h s hP
  obtain ⟨h₁, ht₁, hQ⟩ := ha h s hP
  rw [Act.run_bind]
  rcases hrun : a.run s with ⟨r, s₁⟩
  rw [hrun] at ht₁ hQ
  cases r with
  | error e => exact ⟨h₁, ht₁, hQ⟩
  | ok v =>
    obtain ⟨h₂, ht₂, hR⟩ := hf v (h ++ h₁) s₁ hQ
    refine ⟨h₁ ++ h₂, ht₁.append ht₂, ?_⟩
    rw [List.append_assoc] at hR
    exact hR

lemma attempt (ha : Follows P a Q E) :
    Follows P (Act.attempt a)
      (fun r h s => match r with
        | .ok v => Q v h s
        | .error _ => E h s) E' := by
  intro h s hP
  obtain ⟨h', ht, hQ⟩ := ha h s hP
  rw [Act.run_attempt]
  exact ⟨h', ht, hQ⟩

lemma weaken {Q' : α → History → Session → Prop} (ha : Follows P a Q E) (hP : ∀ h s, P' h s → P h s)
    (hQ : ∀ v h s, Q v h s → Q' v h s) (hE : ∀ h s, E h s → E' h s) : Follows P' a Q' E' := by
  intro h s hp
  obtain ⟨h', ht, hq⟩ := ha h s (hP h s hp)
  refine ⟨h', ht, ?_⟩
  cases hrun : (a.run s).1 with
  | ok v =>
    rw [hrun] at hq
    exact hQ v _ _ hq
  | error e =>
    rw [hrun] at hq
    exact hE _ _ hq

lemma pre (ha : Follows P a Q E) (hP : ∀ h s, P' h s → P h s) :
    Follows P' a Q E := ha.weaken hP (fun _ _ _ h => h) fun _ _ h => h

lemma bind_look {g : Session → α} (ha : ∀ s, a.run s = (.ok (g s), s))
    (hf : ∀ v, Follows (fun h s => P h s ∧ g s = v) (f v) R E) : Follows P (a >>= f) R E := by
  intro h s hP
  rw [Act.bind_of_ok (ha s)]
  exact hf (g s) h s ⟨hP, rfl⟩

lemma of_moves (ha : Act.Moves Quiet a) (hP : ∀ h s s', P h s → Quiet s s' → P h s')
    (hE : ∀ h s, P h s → E h s) : Follows P a (fun _ => P) E := by
  intro h s hp
  have hP' : P h (a.run s).2 := hP h s _ hp (ha s)
  refine ⟨[], .of_quiet (ha s), ?_⟩
  rw [List.append_nil]
  split
  · exact hP'
  · exact hE h _ hP'

lemma of_moves_of_ok (ha : Act.Moves Quiet a) (hok : ∀ s, ∃ v, (a.run s).1 = .ok v)
    (hP : ∀ h s s', P h s → Quiet s s' → P h s') : Follows P a (fun _ => P) E := by
  intro h s hp
  obtain ⟨v, hv⟩ := hok s
  refine ⟨[], .of_quiet (ha s), ?_⟩
  rw [hv, List.append_nil]
  exact hP h s _ hp (ha s)

lemma of_step (hok : ∀ h s v s', P h s → a.run s = (.ok v, s') → ∃ e, Step s e s' ∧ Q v (h ++ [e]) s')
    (herr : ∀ h s f s', P h s → a.run s = (.error f, s') → ∃ e, Step s e s' ∧ E (h ++ [e]) s') :
    Follows P a Q E := by
  intro h s hP
  rcases hrun : a.run s with ⟨r, s'⟩
  cases r with
  | ok v =>
    obtain ⟨e, he, hQ⟩ := hok h s v s' hP hrun
    exact ⟨[e], .of_step he, hQ⟩
  | error f =>
    obtain ⟨e, he, hE⟩ := herr h s f s' hP hrun
    exact ⟨[e], .of_step he, hE⟩

lemma of_point (hp : ∀ h s, P h s → Follows (fun h' s' => h' = h ∧ s' = s) a Q E) : Follows P a Q E :=
  fun h s hP => hp h s hP h s ⟨rfl, rfl⟩

lemma forM {items : List β} {f : β → Act PUnit} (hf : ∀ x, Follows P (f x) (fun _ => P) E) :
    Follows P (items.forM f) (fun _ => P) E := by
  induction items with
  | nil => exact .pure _ fun _ _ hP => hP
  | cons x items ih => exact .bind (hf x) fun _ => ih

end Follows

end SetTop.IrBox.Proxy
