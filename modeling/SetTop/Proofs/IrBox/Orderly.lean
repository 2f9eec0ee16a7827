import SetTop.Proofs.IrBox.History
import SetTop.Proofs.IrBox.Registry

/-!
Histories in which every report of completion reaches the client that waits for it.

`awaiting h n` is who waits for number `n` after the history `h`: the client whose command was
registered under `n` last, unless a report about `n` was read since. `Orderly h` is kept by every
entry that a proxy can add, and only two kinds of entries need an argument: what is sent to a client
has to stand behind a message that allows it, and a report has to be followed by its delivery.
-/

namespace SetTop.IrBox.Proxy

open List Happening Incoming

/-! ### Entries of a longer history -/

variable {h t post : History} {e : Happening} {m : Incoming} {n : Nat}

lemma append_eq_append_cons {pre : History} (hsplit : h ++ t = pre ++ e :: post) :
    (∃ a, pre = h ++ a ∧ t = a ++ e :: post) ∨ ∃ c, h = pre ++ e :: c ∧ post = c ++ t := by
  rcases append_eq_append_iff.mp hsplit with ⟨a, hpre, ht⟩ | ⟨c, hh, hcons⟩
  · exact .inl ⟨a, hpre, ht⟩
  · cases c with
    | nil => exact .inl ⟨[], by simpa using hh.symm, by simpa using hcons.symm⟩
    | cons e' c =>
      simp only [cons_append, cons.injEq] at hcons
      obtain ⟨rfl, rfl⟩ := hcons
      exact .inr ⟨c, hh, rfl⟩

lemma singleton_eq_append_cons {a : History} {e' : Happening} (hsplit : [e] = a ++ e' :: post) :
    a = [] ∧ e = e' ∧ post = [] := by
  cases a with
  | nil => simpa using hsplit
  | cons e₀ a => simp at hsplit

/-! ### Who waits for a number -/

/-- The number that a report of completion is about. -/
def Incoming.reported? (m : Incoming) : Option Nat :=
  if m.type = asyncComplete then m.data.bigEndian.toOption else none

/-- Who waits for a number after an entry, given who did before. -/
def Happening.hands (n : Nat) (who : Option Pending) : Happening → Option Pending
  | .numbered p k => if k = n then some p else who
  | .heard m => if m.reported? = some n then none else who
  | _ => who

/-- Who waits for a number: whose command was registered under it last, unless a report about it
was read since. -/
def awaiting (h : History) (n : Nat) : Option Pending :=
  h.foldl (fun who e => e.hands n who) none

@[simp] lemma awaiting_nil (n : Nat) : awaiting [] n = none := rfl

@[simp] lemma awaiting_snoc (h : History) (e : Happening) (n : Nat) :
    awaiting (h ++ [e]) n = e.hands n (awaiting h n) := by
  simp [awaiting]

lemma reported?_of_ok (ht : m.type = asyncComplete) (hd : m.data.bigEndian = .ok n) :
    m.reported? = some n := by
  simp [reported?, ht, hd, Except.toOption]

lemma reported?_of_error {e : Fault} (hd : m.data.bigEndian = .error e) : m.reported? = none := by
  simp [reported?, hd, Except.toOption]

lemma reported?_eq_some (h : m.reported? = some n) :
    m.type = asyncComplete ∧ m.data.bigEndian = .ok n := by
  unfold reported? at h
  split at h
  · refine ⟨‹_›, ?_⟩
    cases hd : m.data.bigEndian with
    | error e => simp [hd, Except.toOption] at h
    | ok k => simpa [hd, Except.toOption] using h
  · simp at h

lemma reported?_of_ne (ht : m.type ≠ asyncComplete) : m.reported? = none := by
  simp [reported?, ht]

lemma awaiting_append_of_no_numbered (hm : m.reported? = some n) (ht : ∀ p, .numbered p n ∉ t) :
    awaiting (h ++ .heard m :: t) n = none := by
  have hstart : awaiting (h ++ [.heard m]) n = none := by simp [hands, hm]
  have hfold : ∀ u : History, (∀ p, .numbered p n ∉ u) →
      u.foldl (fun who e => e.hands n who) none = none := by
    intro u hu
    induction u with
    | nil => rfl
    | cons e u ih =>
      have he : e.hands n none = none := by
        cases e with
        | numbered p k =>
          have hk : k ≠ n := fun hk => hu p (hk ▸ mem_cons_self)
          simp [hands, hk]
        | heard m => simp [hands]
        | _ => rfl
      rw [foldl_cons, he]
      exact ih fun p hp => hu p (mem_cons_of_mem e hp)
  rw [append_cons, awaiting, foldl_append]
  rw [awaiting] at hstart
  rw [hstart]
  exact hfold t ht

/-- What is recorded under a number after an entry, given what was before. -/
def Happening.records (n : Nat) (who : Option Pending) : Happening → Option Pending
  | .numbered p k => if k = n then some p else who
  | .settled k => if k = n then none else who
  | _ => who

def recorded (h : History) (n : Nat) : Option Pending :=
  h.foldl (fun who e => e.records n who) none

@[simp] lemma recorded_snoc (h : History) (e : Happening) (n : Nat) :
    recorded (h ++ [e]) n = e.records n (recorded h n) := by
  simp [recorded]

/-- The records are those of the commands that somebody waits for. -/
def Level (h : History) : Prop := ∀ n, recorded h n = awaiting h n

/-! ### What is sent on a message -/

def Happening.isReading : Happening → Bool
  | .took .. => true
  | .heard .. => true
  | _ => false

/-- Whether an entry is part of routing a report or of answering a client. -/
def Happening.isRouting : Happening → Bool
  | .sent .. => true
  | .settled .. => true
  | _ => false

def Happening.delivery? : Happening → Option (Nat × Data)
  | .sent client text _ => some (client, text)
  | _ => none

/-- What is sent to clients before the next message is read. -/
def burst (h : History) : List (Nat × Data) :=
  (h.takeWhile (!·.isReading)).filterMap (·.delivery?)

/-- What has to be sent to clients on a report of completion: its header, the number that the
command has at the client that waits for it, and the rest of its data. -/
def due (h : History) (m : Incoming) : List (Nat × Data) :=
  match m.data.bigEndian with
  | .error _ => []
  | .ok n =>
    match awaiting h n with
    | none => []
    | some p => [(p.client, m.header ++ (numberData p.number ++ m.data.drop 2))]

lemma burst_append_of_nil (c : History) (ht : burst t = []) : burst (c ++ t) = burst c := by
  unfold burst at ht ⊢
  rw [takeWhile_append]
  split
  · rename_i hall
    have hc : c.takeWhile (!·.isReading) = c := ( takeWhile_prefix _).eq_of_length hall
    rw [filterMap_append, ht, append_nil, hc]
  · rfl

lemma burst_append_of_reading {c : History} (t : History)
    (hc : ∃ e ∈ c, e.isReading = true) : burst (c ++ t) = burst c := by
  obtain ⟨e, he, hread⟩ := hc
  unfold burst
  rw [takeWhile_append]
  split
  · rename_i hall
    have hc : c.takeWhile (!·.isReading) = c := ( takeWhile_prefix _).eq_of_length hall
    have hnone : c.all (!·.isReading) = true := hc ▸ all_takeWhile
    have := all_eq_true.mp hnone e he
    simp [hread] at this
  · rfl

/-- Every report was followed by another message, so that what is sent now is not sent on it. -/
def Free (h : History) : Prop :=
  ∀ pre m post, h = pre ++ .heard m :: post → m.type = asyncComplete →
    ∃ e ∈ post, e.isReading = true

lemma free_snoc_of_reading (h : History) (he : e.isReading = true)
    (hm : ∀ m, e = .heard m → m.type ≠ asyncComplete) : Free (h ++ [e]) := by
  intro pre m post hsplit hreport
  -- Only the last entry is new, and it is a message, so it ends what an earlier report sends.
  rcases eq_nil_or_concat post with rfl | ⟨post, last, rfl⟩
  · have := append_inj_right' hsplit rfl
    simp only [cons.injEq, and_true] at this
    exact absurd hreport (hm m this)
  · rw [concat_eq_append, ← cons_append, ← append_assoc] at hsplit
    have := append_inj_right' hsplit rfl
    simp only [cons.injEq] at this
    exact ⟨e, by simp [this], he⟩

lemma Free.append (hf : Free h) (ht : ∀ m, .heard m ∉ t) : Free (h ++ t) := by
  intro pre m post hsplit hreport
  rcases append_eq_append_cons hsplit with ⟨a, -, htail⟩ | ⟨c, hhead, rfl⟩
  · exact absurd (htail ▸ mem_append_right a mem_cons_self) (ht m)
  · obtain ⟨e, he, hread⟩ := hf pre m c hhead hreport
    exact ⟨e, mem_append_left t he, hread⟩

/-- Whose command was read last. -/
def served (h : History) : Option Nat :=
  h.foldl (fun who e => match e with
    | .took client _ => some client
    | _ => who) none

/-! ### Orderly histories -/

/-- Whether a text is a command that will be reported on. -/
def isAsync (text : Data) : Prop := text[3]?.map Char.toNat = some outputAsync

instance : DecidablePred isAsync := fun _ => inferInstanceAs (Decidable (_ = _))

/-- What an entry needs before it. -/
def Lawful (h : History) : Happening → Prop
  | .numbered p n => awaiting h n = none ∧ n ≤ maxNumber ∧ p.number < 65536
  | .passed text => isAsync text → ∃ h₀ client m k n,
      h = h₀ ++ [.took client m, .numbered ⟨client, k⟩ n] ∧ m.data.bigEndian = .ok k ∧
        text = m.header ++ (numberData n ++ m.data.drop 2)
  | .sent client _ _ => Free h → served h = some client
  | _ => True

/-- A history in which every entry is lawful, exactly what is due is sent on a report of
completion, and the records are up to date unless a report is being routed. -/
structure Orderly (h : History) : Prop where
  lawful : ∀ pre e post, h = pre ++ e :: post → Lawful pre e
  level : ∀ pre e post, h = pre ++ e :: post → e.isRouting = false → Level pre
  routed : ∀ pre m post, h = pre ++ .heard m :: post → m.type = asyncComplete →
    burst post = due pre m

lemma orderly_nil : Orderly [] := by
  constructor <;>
  · intro pre x post h
    simp at h

namespace Orderly

variable {h t : History}

lemma append (ho : Orderly h) (hlaw : ∀ a e post, t = a ++ e :: post → Lawful (h ++ a) e)
    (hlevel : ∀ a e post, t = a ++ e :: post → e.isRouting = false → Level (h ++ a))
    (hdue : ∀ a m post, t = a ++ .heard m :: post → m.type = asyncComplete →
      burst post = due (h ++ a) m)
    (hold : ∀ pre m c, h = pre ++ .heard m :: c → m.type = asyncComplete →
      burst (c ++ t) = burst c) : Orderly (h ++ t) := by
  constructor
  · intro pre e post hsplit
    rcases append_eq_append_cons hsplit with ⟨a, rfl, htail⟩ | ⟨c, hhead, -⟩
    · exact hlaw a e post htail
    · exact ho.lawful pre e c hhead
  · intro pre e post hsplit he
    rcases append_eq_append_cons hsplit with ⟨a, rfl, htail⟩ | ⟨c, hhead, -⟩
    · exact hlevel a e post htail he
    · exact ho.level pre e c hhead he
  · intro pre m post hsplit hreport
    rcases append_eq_append_cons hsplit with ⟨a, rfl, htail⟩ | ⟨c, hhead, rfl⟩
    · exact hdue a m post htail hreport
    · -- An old report: what is added must not count as sent on it.
      rw [hold pre m c hhead hreport]
      exact ho.routed pre m c hhead hreport

lemma snoc {e : Happening} (ho : Orderly h) (hlevel : Level h) (hlaw : Lawful h e)
    (hsend : e.delivery? = none)
    (hm : ∀ m, e = .heard m → m.type ≠ asyncComplete) : Orderly (h ++ [e]) := by
  have hburst : burst [e] = [] := by
    cases hread : e.isReading <;> simp [burst, hread, hsend]
  refine ho.append ?_ ?_ ?_ fun _ _ c _ _ => burst_append_of_nil c hburst
  · intro a e' post hsplit
    obtain ⟨rfl, rfl, rfl⟩ := singleton_eq_append_cons hsplit
    simpa using hlaw
  · intro a e' post hsplit _
    obtain ⟨rfl, rfl, rfl⟩ := singleton_eq_append_cons hsplit
    simpa using hlevel
  · intro a m post hsplit hreport
    obtain ⟨rfl, he, rfl⟩ := singleton_eq_append_cons hsplit
    exact absurd hreport (hm m he)

lemma snoc_sent {client : Nat} {text : Data} {arrived : Bool} (ho : Orderly h) (hf : Free h)
    (hs : served h = some client) : Orderly (h ++ [.sent client text arrived]) := by
  refine ho.append ?_ ?_ ?_ ?_
  · intro a e post hsplit
    obtain ⟨rfl, rfl, rfl⟩ := singleton_eq_append_cons hsplit
    simpa [Lawful] using fun _ => hs
  · intro a e post hsplit he
    obtain ⟨rfl, rfl, rfl⟩ := singleton_eq_append_cons hsplit
    simp [isRouting] at he
  · intro a m post hsplit
    obtain ⟨-, he, -⟩ := singleton_eq_append_cons hsplit
    cases he
  · intro pre m c hsplit hreport
    exact burst_append_of_reading _ (hf pre m c hsplit hreport)

lemma append_report {m : Incoming} (ho : Orderly h) (hlevel : Level h) (hdue : burst t = due h m)
    (hrouting : ∀ e ∈ t, e.isRouting = true)
    (hlaw : ∀ a e post, t = a ++ e :: post → Lawful (h ++ .heard m :: a) e) :
    Orderly (h ++ .heard m :: t) := by
  have hburst : burst (.heard m :: t) = [] := by simp [burst, isReading]
  refine ho.append ?_ ?_ ?_ fun _ _ c _ _ => burst_append_of_nil c hburst
  · intro a e post hsplit
    cases a with
    | nil =>
      simp only [nil_append, cons.injEq] at hsplit
      obtain ⟨rfl, rfl⟩ := hsplit
      trivial
    | cons e' a =>
      simp only [cons_append, cons.injEq] at hsplit
      obtain ⟨rfl, rfl⟩ := hsplit
      exact hlaw a e post rfl
  · intro a e post hsplit he
    cases a with
    | nil => simpa using hlevel
    | cons e' a =>
      simp only [cons_append, cons.injEq] at hsplit
      have := hrouting e (hsplit.2 ▸ mem_append_right a mem_cons_self)
      simp [he] at this
  · intro a m' post hsplit _
    cases a with
    | nil =>
      obtain ⟨rfl, rfl⟩ := hsplit
      simpa using hdue
    | cons e' a =>
      simp only [cons_append, cons.injEq] at hsplit
      have := hrouting (.heard m') (hsplit.2 ▸ mem_append_right a mem_cons_self)
      simp [isRouting] at this

end Orderly

end SetTop.IrBox.Proxy
