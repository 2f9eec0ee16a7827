import SetTop.Proofs.IrBox.Frame
import SetTop.Proofs.IrBox.Orderly

/-!
The invariant of a proxy.

`Sound h s` holds between two actions of a proxy: the registry of the session holds exactly those
commands that somebody waits for after the history, each under a number of its own, and the
history is orderly. Until what is due on a report of completion has been sent and the record
was dropped, the registry is ahead of the history, so these entries are added together.
-/

namespace SetTop.IrBox.Proxy

open Happening List Registry

/-! ### Sessions along a history -/

variable {s s' : Session} {e : Happening} {h : History}

lemma Step.registry_cases (h : Step s e s') :
    (s'.proxy.registry = s.proxy.registry ∧ ∀ n who, e.records n who = who) ∨
    (∃ p n r, e = .numbered p n ∧ s.proxy.registry.freshNumber = some (n, r) ∧
      s'.proxy.registry = r.put n (some p)) ∨
    (∃ n, e = .settled n ∧ s'.proxy.registry = s.proxy.registry.forget n) := by
  have hreads {e : Happening} (hr : OnlyReads s s') (hrec : ∀ n who, e.records n who = who) :
      s'.proxy.registry = s.proxy.registry ∧ ∀ n who, e.records n who = who :=
    ⟨congrArg Proxy.registry hr.proxy, hrec⟩
  cases h with
  | opened h => exact .inl ⟨((keepsRegistry_openConnections _).of_run_eq h).registry, fun _ _ => rfl⟩
  | took h | lostCommand h =>
    exact .inl (hreads ((onlyReads_readCommand _).of_run_eq h) fun _ _ => rfl)
  | numbered hk hn => exact .inr (.inl ⟨_, _, _, rfl, hn, rfl⟩)
  | passed h | sent h => exact .inl ⟨congrArg Proxy.registry (send_ok h).1, fun _ _ => rfl⟩
  | heard h | lostMessage h =>
    exact .inl (hreads (onlyReads_receiveIncoming.of_run_eq h) fun _ _ => rfl)
  | unsent h => exact .inl ⟨by rw [(send_error h).2], fun _ _ => rfl⟩
  | settled n => exact .inr (.inr ⟨n, rfl, rfl⟩)

lemma Trace.valid (ht : Trace s h s') (hv : s.proxy.registry.Valid) : s'.proxy.registry.Valid := by
  induction ht with
  | done => exact hv
  | quiet hq _ ih => exact ih (hq.registry ▸ hv)
  | step he _ ih =>
    refine ih ?_
    obtain ⟨hr, _⟩ | ⟨p, n, r, _, hn, hr⟩ | ⟨n, _, hr⟩ := he.registry_cases
    · exact hr ▸ hv
    · exact hr ▸ hv.put_fresh hn _
    · exact hr ▸ hv.forget n

lemma Trace.lookup_eq (ht : Trace s h s') {n : Nat} {w : Option Pending}
    (hs : s.proxy.registry.entries.lookup n = w.map some) :
    s'.proxy.registry.entries.lookup n = (h.foldl (fun who e => e.records n who) w).map some := by
  induction ht generalizing w with
  | done => exact hs
  | quiet hq _ ih => exact ih (hq.registry ▸ hs)
  | step he _ ih =>
    rw [foldl_cons]
    refine ih ?_
    obtain ⟨hr, hrec⟩ | ⟨p, k, r, rfl, hk, hr⟩ | ⟨k, rfl, hr⟩ := he.registry_cases
    · rw [hr, hrec, hs]
    · rw [hr, lookup_put_fresh hk, records]
      by_cases hn : n = k
      · simp [hn]
      · simp [hn, Ne.symm hn, hs]
    · rw [hr, lookup_forget, records]
      by_cases hn : n = k
      · simp [hn]
      · simp [hn, Ne.symm hn, hs]

/-- The text that an entry sends, if it goes through. -/
def Happening.text? : Happening → Option String
  | .passed text => some (String.ofList text)
  | .sent _ text true => some (String.ofList text)
  | _ => none

def texts (s : Session) : List String := (sends s.bench.journal).map (·.2)

lemma Step.texts_eq (h : Step s e s') : texts s' = texts s ++ e.text?.toList := by
  have hnone (hr : sends s'.bench.journal = sends s.bench.journal) :
      texts s' = texts s ++ none.toList := by simp [texts, hr]
  cases h with
  | opened h => exact hnone ((keepsRegistry_openConnections _).of_run_eq h).sends
  | took h | lostCommand h => exact hnone ((onlyReads_readCommand _).of_run_eq h).sends
  | numbered | settled => exact hnone rfl
  | passed h | sent h => simp [texts, (send_ok h).2, text?]
  | heard h | lostMessage h => exact hnone (onlyReads_receiveIncoming.of_run_eq h).sends
  | unsent h => exact hnone (by rw [(send_error h).2])

lemma Trace.texts_eq (ht : Trace s h s') : texts s' = texts s ++ h.filterMap (·.text?) := by
  induction ht with
  | done => simp
  | quiet hq _ ih => rw [ih, texts, hq.sends, ← texts]
  | @step _ _ _ e _ he _ ih =>
    rw [ih, he.texts_eq, append_assoc, filterMap_cons]
    cases e.text? <;> rfl

/-! ### The invariant -/

structure Sound (h : History) (s : Session) : Prop where
  valid : s.proxy.registry.Valid
  known : ∀ n, s.proxy.registry.entries.lookup n = (awaiting h n).map some
  level : Level h
  small : ∀ n p, awaiting h n = some p → p.number < 65536
  orderly : Orderly h

namespace Sound

variable {h : History} {s s' : Session} (hs : Sound h s)

include hs

lemma of_registry (hr : s'.proxy.registry = s.proxy.registry) : Sound h s' :=
  ⟨hr ▸ hs.valid, hr ▸ hs.known, hs.level, hs.small, hs.orderly⟩

lemma of_quiet (hq : Quiet s s') : Sound h s' := hs.of_registry hq.registry

lemma append {t : History} (hr : s'.proxy.registry = s.proxy.registry)
    (hawait : ∀ n, awaiting (h ++ t) n = awaiting h n)
    (hrec : ∀ n, recorded (h ++ t) n = recorded h n) (ho : Orderly (h ++ t)) : Sound (h ++ t) s' where
  valid := hr ▸ hs.valid
  known n := by rw [hr, hawait, hs.known]
  level n := by rw [hrec, hawait, hs.level]
  small n p hp := hs.small n p (hawait n ▸ hp)
  orderly := ho

lemma snoc {e : Happening} (hr : s'.proxy.registry = s.proxy.registry)
    (hlaw : Lawful h e) (hsend : e.delivery? = none)
    (hm : ∀ m, e = .heard m → m.type ≠ asyncComplete) (hk : ∀ n who, e.hands n who = who)
    (hrec : ∀ n who, e.records n who = who) : Sound (h ++ [e]) s' :=
  hs.append hr (fun n => by rw [awaiting_snoc, hk]) (fun n => by rw [recorded_snoc, hrec])
    (hs.orderly.snoc hs.level hlaw hsend hm)

variable {m : Incoming} {client n : Nat} {r : Registry}

lemma heard (hm : m.type ≠ asyncComplete) : Sound (h ++ [.heard m]) s := by
  refine hs.snoc rfl trivial rfl ?_ ?_ fun _ _ => rfl
  · intro m' he
    simp only [heard.injEq] at he
    exact he ▸ hm
  · simp [hands, reported?_of_ne hm]

lemma sent {text : Data} {arrived : Bool} (hf : Free h) (hc : served h = some client)
    (hr : s'.proxy.registry = s.proxy.registry) : Sound (h ++ [.sent client text arrived]) s' :=
  hs.append hr (awaiting_snoc h _) (recorded_snoc h _) (hs.orderly.snoc_sent hf hc)

lemma awaiting_of_fresh (hn : s.proxy.registry.freshNumber = some (n, r)) :
    awaiting h n = none := by
  have hnone := lookup_eq_none_iff_not_mem.mpr (freshNumber_spec hn).1
  rw [hs.known n, Option.map_eq_none_iff] at hnone
  exact hnone

lemma numbered {k : Nat} {data : Data}
    (hn : s.proxy.registry.freshNumber = some (n, r)) (hk : data.bigEndian = .ok k) :
    Sound (h ++ [.numbered ⟨client, k⟩ n]) (withRegistry s (r.put n (some ⟨client, k⟩))) := by
  have hle := (freshNumber_spec hn).2.1
  refine ⟨hs.valid.put_fresh hn _, ?_, ?_, ?_, ?_⟩
  · intro j
    change (r.put n _).entries.lookup j = _
    rw [lookup_put_fresh hn, awaiting_snoc, hands]
    by_cases hj : j = n
    · simp [hj]
    · simp [hj, Ne.symm hj, hs.known j]
  · -- Who waits and what is recorded change alike.
    intro j
    rw [recorded_snoc, awaiting_snoc, records, hands, hs.level j]
  · intro j p hp
    rw [awaiting_snoc, hands] at hp
    split at hp
    · simp only [Option.some.injEq] at hp
      exact hp ▸ lt_of_bigEndian hk
    · exact hs.small j p hp
  · refine hs.orderly.snoc hs.level ⟨hs.awaiting_of_fresh hn, hle, lt_of_bigEndian hk⟩ rfl
      (by simp)

lemma report_nobody (hdue : due h m = [])
    (hk : ∀ n, m.reported? = some n → awaiting h n = none) : Sound (h ++ [.heard m]) s := by
  refine hs.append rfl (fun n => ?_) (recorded_snoc h _) ?_
  · rw [awaiting_snoc, hands]
    split
    · rename_i hn
      exact (hk n hn).symm
    · rfl
  · refine hs.orderly.append_report hs.level (by rw [hdue]; rfl) (by simp) ?_
    intro a e post hsplit
    simp at hsplit

lemma report_pending {p : Pending} {b : Bool} (ht : m.type = asyncComplete)
    (hd : m.data.bigEndian = .ok n) (hn : awaiting h n = some p) : Sound (h ++ .heard m ::
        [.sent p.client (m.header ++ (numberData p.number ++ m.data.drop 2)) b, .settled n])
      (withRegistry s (s.proxy.registry.forget n)) := by
  have hawait : ∀ k, awaiting (h ++ .heard m ::
      [.sent p.client (m.header ++ (numberData p.number ++ m.data.drop 2)) b,
        .settled n]) k = if k = n then none else awaiting h k := by
    intro k
    rw [append_cons, append_cons (h ++ _), awaiting_snoc, awaiting_snoc]
    by_cases hk : k = n
    · simp [hands, reported?_of_ok ht hd, hk]
    · simp [hands, reported?_of_ok ht hd, hk, Ne.symm hk]
  refine ⟨hs.valid.forget n, ?_, ?_, ?_, ?_⟩
  · intro k
    change (s.proxy.registry.forget n).entries.lookup k = _
    rw [lookup_forget, hawait]
    by_cases hk : k = n
    · simp [hk]
    · simp [hk, hs.known k]
  · intro k
    rw [hawait, append_cons, append_cons (h ++ _), recorded_snoc, recorded_snoc]
    by_cases hk : k = n
    · simp [records, hk]
    · simp [records, hk, Ne.symm hk, hs.level k]
  · intro k q hq
    rw [hawait] at hq
    split at hq
    · simp at hq
    · exact hs.small k q hq
  · refine hs.orderly.append_report hs.level ?_ (by simp [isRouting]) ?_
    · simp [burst, isReading, delivery?, due, hd, hn]
    · intro a e post hsplit
      -- The delivery stands right behind the report, so the history is not free there.
      have hbound : ¬ Free (h ++ .heard m :: []) := by
        intro hf
        obtain ⟨e, he, _⟩ := hf h m [] rfl ht
        simp at he
      rcases a with _ | ⟨e₁, _ | ⟨e₂, a⟩⟩
      · simp only [nil_append, cons.injEq] at hsplit
        rw [← hsplit.1]
        exact fun hf => absurd hf hbound
      · simp only [cons_append, nil_append, cons.injEq] at hsplit
        rw [← hsplit.2.1]
        trivial
      · simp at hsplit

end Sound

end SetTop.IrBox.Proxy
