import SetTop.Proofs.IrBox.History
import SetTop.Proofs.IrBox.Registry

/-!
What the actions of a proxy leave alone.

Three frames are enough. An action that reads from a connection keeps the state of the proxy itself
and sends nothing (`OnlyReads`), an action that neither reads nor sends is quiet, and opening the
connections keeps the registry. All of them are relations in the sense of `Act.Moves`, so only the
primitives need an argument of their own.
-/

namespace SetTop.IrBox.Proxy

open List Net
open Act (Moves)

/-! ### Reading -/

/-- The state of the proxy stays the same, and nothing is sent. -/
structure OnlyReads (s s' : Session) : Prop where
  proxy : s'.proxy = s.proxy
  sends : sends s'.bench.journal = sends s.bench.journal

instance : Std.Refl OnlyReads := ⟨fun _ => ⟨rfl, rfl⟩⟩

instance : Trans OnlyReads OnlyReads OnlyReads where
  trans h₁ h₂ := ⟨h₂.proxy.trans h₁.proxy, h₂.sends.trans h₁.sends⟩

variable {α : Type} {n : Nat} {text : String} {s s' : Session}

section Receiving

-- What holds of reading from a connection holds of all that is received in that way.
variable {R : Session → Session → Prop} [Std.Refl R] [Trans R R R]
  (hreading : ∀ {α : Type} n (f : List Chunk → α × List Chunk), Moves R (reading n f))

include hreading

lemma moves_receiveExactly (n count : Nat) : Moves R (receiveExactly n count) := by
  refine .bind (hreading n _) fun r => ?_
  split
  · exact .pure _
  · exact .of_run fun _ => rfl
  · exact .throw _

lemma moves_receiveIncoming : Moves R receiveIncoming := by
  refine .bind (.bind .get fun _ => .pure _) fun p => ?_
  refine .bind (moves_receiveExactly hreading _ _) fun header => ?_
  refine .bind (.ofExcept _) fun _ => ?_
  exact .bind (moves_receiveExactly hreading _ _) fun _ => .pure _

lemma moves_readCommand (client : Nat) : Moves R (readCommand client) := by
  refine .bind (moves_receiveExactly hreading _ _) fun header => ?_
  refine .bind (.ofExcept _) fun _ => .bind (.ofExcept _) fun named => ?_
  refine .ite (.of_run fun _ => rfl) (.ite (.of_run fun _ => rfl) ?_)
  exact .bind (moves_receiveExactly hreading _ _) fun _ => .pure _

end Receiving

lemma onlyReads_reading (n : Nat) (f : List Chunk → α × List Chunk) :
    Moves OnlyReads (reading n f) := fun _ => ⟨rfl, rfl⟩

lemma onlyReads_receiveIncoming : Moves OnlyReads receiveIncoming :=
  moves_receiveIncoming onlyReads_reading

lemma onlyReads_readCommand (client : Nat) : Moves OnlyReads (readCommand client) :=
  moves_readCommand onlyReads_reading client

/-! ### Sending -/

def label (s : Session) (n : Nat) : String := ((s.bench.links[n]?).getD { peer := {} }).peer.label

lemma run_link (n : Nat) (s : Session) :
    (link n).run s = (.ok ((s.bench.links[n]?).getD { peer := {} }), s) := rfl

lemma send_cases (n : Nat) (text : String) (s : Session) :
    (∃ s', (send n text).run s = (.ok (), s') ∧ s'.proxy = s.proxy ∧
      sends s'.bench.journal = sends s.bench.journal ++ [(label s n, text)]) ∨
    ∃ e : Fault, (send n text).run s = (.error e, s) ∧ e.isOrdinary = true := by
  rw [send, Act.bind_of_ok (run_link n s)]
  split
  · exact .inr ⟨brokenPipe, rfl, rfl⟩
  · refine .inl ⟨_, rfl, rfl, ?_⟩
    rw [sends, filterMap_append]
    rfl

lemma send_ok (h : (send n text).run s = (.ok (), s')) : s'.proxy = s.proxy ∧
      sends s'.bench.journal = sends s.bench.journal ++ [(label s n, text)] := by
  obtain ⟨s₁, h₁, hsent⟩ | ⟨e, h₁, _⟩ := send_cases n text s
  · obtain ⟨_, rfl⟩ := Prod.mk.inj (h₁.symm.trans h)
    exact hsent
  · exact absurd (Prod.mk.inj (h₁.symm.trans h)).1 (by simp)

lemma send_error {e : Fault} (h : (send n text).run s = (.error e, s')) :
    e.isOrdinary = true ∧ s' = s := by
  obtain ⟨s₁, h₁, _⟩ | ⟨e', h₁, hordinary⟩ := send_cases n text s
  · exact absurd (Prod.mk.inj (h₁.symm.trans h)).1 (by simp)
  · obtain ⟨⟨rfl⟩, rfl⟩ := Prod.mk.inj (h₁.symm.trans h)
    exact ⟨hordinary, rfl⟩

/-! ### Quiet actions -/

lemma quiet_modifyBench {f : Bench → Bench} (hl : ∀ b, b.links <+: (f b).links)
    (hj : ∀ b, sends (f b).journal = sends b.journal) : Moves Quiet (modifyBench f) :=
  fun s => ⟨rfl, rfl, hl s.bench, hj s.bench⟩

lemma quiet_modifyState {f : Proxy → Proxy} (hr : ∀ p, (f p).registry = p.registry)
    (hb : ∀ p, (f p).box = p.box) : Moves Quiet (modifyState f) :=
  fun s => ⟨hr s.proxy, hb s.proxy, prefix_refl _, rfl⟩

lemma run_state (s : Session) : state.run s = (.ok s.proxy, s) := rfl

lemma quiet_state : Moves Quiet state := .bind .get fun _ => .pure _

lemma quiet_link (n : Nat) : Moves Quiet (link n) := .bind .bench fun _ => .pure _

lemma quiet_say (text : String) : Moves Quiet (say text) :=
  quiet_modifyBench (fun _ => prefix_refl _) fun _ => rfl

lemma quiet_complain (text : String) : Moves Quiet (complain text) :=
  quiet_modifyBench (fun _ => prefix_refl _) fun _ => rfl

lemma quiet_note {e : Event} (he : sends [e] = []) : Moves Quiet (note e) :=
  quiet_modifyBench (fun _ => prefix_refl _) fun b => by
    simp only [sends] at he ⊢
    rw [filterMap_append, he, append_nil]

lemma quiet_info (text : String) : Moves Quiet (info text) :=
  .bind quiet_state fun _ => .ite (quiet_say _) (.pure _)

lemma quiet_warn (text : String) : Moves Quiet (warn text) :=
  .bind quiet_state fun _ => .ite (quiet_complain _) (.pure _)

lemma quiet_report (text : String) : Moves Quiet (report text) :=
  .bind quiet_state fun _ =>
    .when (quiet_complain _) (quiet_complain _)

lemma quiet_giveUp (text : String) : Moves Quiet (giveUp text : Act α) :=
  .bind (quiet_report _) fun _ => .throw _

lemma quiet_adopt (p : Peer) (timeout : Option Num) : Moves Quiet (adopt p timeout) :=
  .bind .bench fun _ =>
    .bind (quiet_modifyBench (fun _ => prefix_append _ _) fun _ => rfl) fun _ => .pure _

lemma quiet_close (n : Nat) : Moves Quiet (close n) :=
  .bind (quiet_link n) fun _ => quiet_note rfl

lemma quiet_connect (address : Address) (timeout : Option Num) :
    Moves Quiet (Net.connect address timeout) := by
  refine .bind (quiet_note rfl) fun _ => .bind .bench fun b => ?_
  refine .bind (quiet_modifyBench (fun _ => prefix_refl _) fun _ => rfl) fun _ => ?_
  split
  · exact .throw _
  · exact quiet_adopt _ _

lemma quiet_accept : Moves Quiet accept := by
  refine .bind .bench fun b => ?_
  split
  · exact .throw _
  · refine .bind (quiet_modifyBench (fun _ => prefix_refl _) fun _ => rfl) fun _ => ?_
    split
    · exact .throw _
    · exact .bind (quiet_adopt _ _) fun _ => .pure _

lemma quiet_select : Moves Quiet select := by
  refine .bind .bench fun b => ?_
  split
  · exact .throw _
  · exact .bind (quiet_modifyBench (fun _ => prefix_refl _) fun _ => rfl) fun _ => .pure _

lemma quiet_watch (link : Nat) : Moves Quiet (watch link) :=
  .bind (quiet_link link) fun _ => quiet_modifyState (fun _ => rfl) fun _ => rfl

lemma quiet_welcome : Moves Quiet welcome :=
  .bind quiet_accept fun _ => .bind (quiet_info _) fun _ => quiet_watch _

lemma quiet_dropClient (client : Nat) : Moves Quiet (dropClient client) := by
  refine .bind (quiet_link client) fun l => .bind quiet_state fun p => .when (.throw _) ?_
  exact .bind (quiet_modifyState (fun _ => rfl) fun _ => rfl) fun _ => quiet_close client

lemma quiet_forClient (m : Incoming) : Moves Quiet (forClient m) :=
  .ite (.bind quiet_state fun _ => .bind (.ofExcept _) fun _ => .pure _) (.pure _)

lemma quiet_incomingBound : Moves Quiet incomingBound :=
  .bind quiet_state fun _ => .bind (quiet_link _) fun _ => .pure _

lemma quiet_describe (n : Nat) : Moves Quiet (describe n) :=
  .bind (quiet_link n) fun _ => .pure _

/-! ### Opening -/

/-- The registry stays the same, and nothing is sent. -/
structure KeepsRegistry (s s' : Session) : Prop where
  registry : s'.proxy.registry = s.proxy.registry
  sends : sends s'.bench.journal = sends s.bench.journal

instance : Std.Refl KeepsRegistry := ⟨fun _ => ⟨rfl, rfl⟩⟩

instance : Trans KeepsRegistry KeepsRegistry KeepsRegistry where
  trans h₁ h₂ := ⟨h₂.registry.trans h₁.registry, h₂.sends.trans h₁.sends⟩

lemma keepsRegistry_openConnections (place : Place) :
    Moves KeepsRegistry (openConnections place) := by
  have hquiet {α : Type} {a : Act α} (ha : Moves Quiet a) : Moves KeepsRegistry a :=
    fun s => ⟨(ha s).registry, (ha s).sends⟩
  refine .bind (hquiet (quiet_note rfl)) fun _ => .bind (hquiet (quiet_note rfl)) fun _ => ?_
  refine .bind (hquiet (quiet_adopt _ _)) fun listener => ?_
  refine .bind (.attempt (hquiet (quiet_connect _ _))) fun r => ?_
  cases r with
  | error e => exact .ite (hquiet (quiet_giveUp _)) (.throw e)
  | ok box =>
    refine .bind (fun _ => ⟨rfl, rfl⟩) fun _ => .bind (hquiet (quiet_watch _)) fun _ => ?_
    exact .bind (hquiet (quiet_watch _)) fun _ => .pure _

/-! ### Actions that are never stopped -/

lemma warn_ok (text : String) (s : Session) : ∃ v, ((warn text).run s).1 = .ok v := by
  refine ⟨(), ?_⟩
  rw [warn, Act.bind_of_ok (run_state s)]
  split <;> rfl

lemma report_ok (text : String) (s : Session) : ∃ v, ((report text).run s).1 = .ok v := by
  refine ⟨(), ?_⟩
  rw [report, Act.bind_of_ok (run_state s)]
  split <;> rfl

end SetTop.IrBox.Proxy
