import SetTop.Proofs.IrBox.Framing
import SetTop.Proofs.IrBox.Refusal

/-!
Reports of completion, and how long they are.

A report begins with a number of two bytes. If it has one, it is routed or not, and at most the record
under its number is dropped. A report without a number stops what the proxy was doing. In the turn of
the emitter the proxy goes down. While a client waits for its response, it is the client that is let
go.
-/

namespace SetTop.IrBox.Proxy

open Act List

/-! ### Clients that stay -/

def descriptor (s : Session) (n : Nat) : Int :=
  ((s.bench.links[n]?).getD { peer := {} }).peer.descriptor

def closes (journal : List Event) : List String :=
  journal.filterMap fun
    | .close label => some label
    | _ => none

structure Holds (s s' : Session) : Prop where
  readers : s'.proxy.readers = s.proxy.readers
  descriptors : ∀ n, descriptor s' n = descriptor s n
  labels : ∀ n, label s' n = label s n
  closes : closes s'.bench.journal = closes s.bench.journal

instance : Std.Refl Holds := ⟨fun _ => ⟨rfl, fun _ => rfl, fun _ => rfl, rfl⟩⟩

instance : Trans Holds Holds Holds where
  trans h₁ h₂ := ⟨h₂.readers.trans h₁.readers, fun n => (h₂.descriptors n).trans (h₁.descriptors n),
    fun n => (h₂.labels n).trans (h₁.labels n), h₂.closes.trans h₁.closes⟩

lemma holds_modifyLink (n : Nat) {f : Link → Link}
    (hd : ∀ l, (f l).peer.descriptor = l.peer.descriptor) (hl : ∀ l, (f l).peer.label = l.peer.label) :
    Moves Holds (Net.modifyLink n f) := by
  have hlink (s : Session) (k : Nat) : ((Net.modifyLink n f).run s).2.bench.links[k]? =
      (fun l => if n = k then f l else l) <$> s.bench.links[k]? := getElem?_modify ..
  intro s
  refine ⟨rfl, fun k => ?_, fun k => ?_, rfl⟩
  · rw [descriptor, descriptor, hlink]
    cases s.bench.links[k]? with
    | none => rfl
    | some l => by_cases hk : n = k <;> simp [hk, hd]
  · rw [label, label, hlink]
    cases s.bench.links[k]? with
    | none => rfl
    | some l => by_cases hk : n = k <;> simp [hk, hl]

lemma holds_reading {α : Type} (n : Nat) (f : List Chunk → α × List Chunk) :
    Moves Holds (Net.reading n f) := by
  refine .bind (fun _ => ⟨rfl, fun _ => rfl, fun _ => rfl, rfl⟩) fun l => ?_
  exact .bind (holds_modifyLink n (fun _ => rfl) fun _ => rfl) fun _ => .pure _

lemma holds_receiveIncoming : Moves Holds receiveIncoming := moves_receiveIncoming holds_reading

lemma holds_receiveCommand (client : Nat) : Moves Holds (receiveCommand client) := by
  refine .bind (moves_readCommand holds_reading client) fun m => .ite ?_ (.pure _)
  refine .bind (.of_run fun _ => rfl) fun p => .bind (.ofExcept _) fun _ => ?_
  exact .bind (fun _ => ⟨rfl, fun _ => rfl, fun _ => rfl, rfl⟩) fun _ => .pure _

lemma holds_complain (text : String) : Moves Holds (complain text) :=
  fun _ => ⟨rfl, fun _ => rfl, fun _ => rfl, rfl⟩

lemma holds_report (text : String) : Moves Holds (report text) :=
  .bind (.of_run fun _ => rfl) fun _ =>
    .when (holds_complain _) (holds_complain _)

lemma holds_send (n : Nat) (text : String) : Moves Holds (Net.send n text) := by
  refine .bind (.of_run fun _ => rfl) fun l => .ite (.of_run fun _ => rfl) ?_
  refine .bind (holds_modifyLink n (fun _ => rfl) fun _ => rfl) fun _ => ?_
  intro s
  refine ⟨rfl, fun _ => rfl, fun _ => rfl, ?_⟩
  change closes (s.bench.journal ++ [.send l.peer.label text]) = _
  rw [closes, filterMap_append]
  exact append_nil _

lemma holds_handleCompletion (header data : Data) : Moves Holds (handleCompletion header data) := by
  refine .bind (.of_run fun _ => rfl) fun p => ?_
  have hset (r : Registry) : Moves Holds (setRegistry r) :=
    fun _ => ⟨rfl, fun _ => rfl, fun _ => rfl, rfl⟩
  cases p.registry.complete header data with
  | mk what registry =>
    cases what with
    | unknown n => exact .bind (.of_run fun _ => rfl) fun _ => .ite (holds_complain _) (.pure _)
    | malformed => exact .bind (holds_report _) fun _ => .throw _
    | undeliverable => exact .bind (holds_report _) fun _ => hset _
    | deliver client message =>
      refine .bind (.attempt (holds_send _ _)) fun r => ?_
      cases r with
      | ok _ => exact hset _
      | error e => exact .ite (.bind (holds_report _) fun _ => hset _) (.of_run fun _ => rfl)

lemma holds_forClient (m : Incoming) : Moves Holds (forClient m) :=
  .ite (.bind (.of_run fun _ => rfl) fun _ => .bind (.ofExcept _) fun _ => .pure _) (.pure _)

lemma holds_awaitResponse (fuel : Nat) : Moves Holds (awaitResponse fuel) := by
  induction fuel with
  | zero => exact .of_run fun _ => rfl
  | succ fuel ih =>
    refine .bind holds_receiveIncoming fun m => .ite ?_ (holds_forClient m)
    exact .bind (holds_handleCompletion _ _) fun _ => ih

lemma holds_answer (client : Nat) (m : Incoming) : Moves Holds (answer client m) := by
  refine .ite (holds_send _ _) (.bind (.of_run fun _ => rfl) fun p => .bind (holds_send _ _) fun _ => ?_)
  refine .bind (.of_run fun _ => rfl) fun _ => .bind (holds_awaitResponse _) fun r => ?_
  exact holds_send _ _

/-! ### Reports with and without a number -/

def Incoming.Short (m : Incoming) : Prop := m.type = asyncComplete ∧ m.data.length < 2

variable {data : Data} {s : Session} {m : Incoming} {client : Nat}

lemma handleCompletion_short (h : data.length < 2) (header : Data) (s : Session) :
    ((handleCompletion header data).run s).1 = .error (.foreign .unboundLocal "") := by
  cases hd : data.bigEndian with
  | error e =>
    obtain ⟨s', hrun, -⟩ := handleCompletion_malformed hd s
    rw [hrun]
  | ok k => exact absurd (two_le_of_bigEndian hd) (Nat.not_le.2 h)

lemma awaitResponse_short {fuel : Nat} (h : ∃ m ∈ answers fuel s, m.Short) :
    ((awaitResponse fuel).run s).1 = .error (.foreign .unboundLocal "") := by
  induction fuel generalizing s with
  | zero =>
    obtain ⟨m, hm, -⟩ := h
    cases hm
  | succ fuel ih =>
    rw [answers] at h
    rw [awaitResponse, run_bind]
    rcases hrun : receiveIncoming.run s with ⟨r, s₁⟩
    rw [hrun] at h
    cases r with
    | error e =>
      obtain ⟨m, hm, -⟩ := h
      cases hm
    | ok m =>
      dsimp only at h ⊢
      by_cases htype : m.type = asyncComplete
      · rw [if_pos htype] at h
        rw [if_pos htype, run_bind]
        have hshort (h : m.data.length < 2) := handleCompletion_short h m.header s₁
        rcases hroute : (handleCompletion m.header m.data).run s₁ with ⟨r, s₂⟩
        rw [hroute] at h hshort
        cases r with
        | error e =>
          obtain ⟨m', hm', hm''⟩ := h
          rw [mem_singleton.1 hm'] at hm''
          cases hshort hm''.2
          rfl
        | ok _ =>
          obtain ⟨m', hm', hm''⟩ := h
          obtain rfl | hmem := mem_cons.1 hm'
          · cases hshort hm''.2
          · exact ih ⟨m', hmem, hm''⟩
      · rw [if_neg htype] at h
        obtain ⟨m', hm', hm''⟩ := h
        rw [mem_singleton.1 hm'] at hm''
        exact absurd hm''.1 htype

lemma answer_short (client : Nat) (h : ∃ x ∈ heardOn m s, x.Short) :
    ((answer client m).run s).1 = .error (.foreign .unboundLocal "") := by
  unfold heardOn at h
  unfold answer
  split
  case isTrue hpower =>
    rw [if_pos hpower] at h
    obtain ⟨x, hx, -⟩ := h
    cases hx
  case isFalse hpower =>
    rw [if_neg hpower] at h
    rw [bind_of_ok (run_state s), run_bind]
    rcases hsend : (Net.send s.proxy.box (String.ofList (m.header ++ m.data))).run s with ⟨r, s₁⟩
    rw [hsend] at h
    cases r with
    | error e =>
      obtain ⟨x, hx, -⟩ := h
      cases hx
    | ok _ =>
      have hwait := awaitResponse_short h
      dsimp only
      rw [bind_of_ok (run_incomingBound s₁), run_bind]
      rcases hawait : (awaitResponse _).run s₁ with ⟨r, s₂⟩
      rw [hawait] at hwait
      cases hwait
      rfl

lemma dropClient_run (h : s.proxy.readers.any (·.1 == descriptor s client) = true) :
    ∃ s', (dropClient client).run s = (.ok (), s') ∧
      s'.proxy.readers = s.proxy.readers.filter (·.1 != descriptor s client) ∧
      closes s'.bench.journal = closes s.bench.journal ++ [label s client] := by
  rw [dropClient, bind_of_ok (run_link client s), bind_of_ok (run_state s), if_neg]
  · refine ⟨_, rfl, rfl, ?_⟩
    rw [closes, filterMap_append]
    rfl
  · change ¬(!s.proxy.readers.any (·.1 == descriptor s client)) = true
    rw [h]
    decide

lemma serve_short (hknown : s.proxy.readers.any (·.1 == descriptor s client) = true)
    (h : ∃ x ∈ (exchangeWith client s).heard, x.Short) : ∃ s', (serve client).run s = (.ok (), s') ∧
      s'.proxy.readers = s.proxy.readers.filter (·.1 != descriptor s client) ∧
      closes s'.bench.journal = closes s.bench.journal ++ [label s client] := by
  unfold exchangeWith at h
  rcases hcommand : (receiveCommand client).run s with ⟨r, s₁⟩
  rw [hcommand] at h
  cases r with
  | error e =>
    obtain ⟨x, hx, -⟩ := h
    cases hx
  | ok m =>
    have hstopped := answer_short client h
    have hholds : Holds s ((answer client m).run s₁).2 :=
      Trans.trans ((holds_receiveCommand client).of_run_eq hcommand) (holds_answer client m s₁)
    rcases hanswer : (answer client m).run s₁ with ⟨r, s₂⟩
    rw [hanswer] at hstopped hholds
    cases hstopped
    rw [serve, run_bind, run_attempt, hcommand]
    dsimp only
    rw [run_bind, run_attempt, hanswer]
    rw [← hholds.readers, ← hholds.descriptors] at hknown
    obtain ⟨s₃, hdrop, hreaders, hcloses⟩ := dropClient_run hknown
    obtain ⟨_, s', hreport, hkept⟩ := (holds_report _).exists_run
      (report_ok "Error reading from client. Connection closed" s₃)
    refine ⟨s', (bind_of_ok hdrop).trans hreport, ?_, ?_⟩
    · rw [hkept.readers, hreaders, hholds.readers, hholds.descriptors]
    · rw [hkept.closes, hcloses, hholds.closes, hholds.labels]

lemma readEmitter_report {s₁ : Session} (hread : receiveIncoming.run s = (.ok m, s₁))
    (hm : m.type = asyncComplete) :
    readEmitter.run s = (handleCompletion m.header m.data).run s₁ ∧
    ∀ fuel, (awaitResponse (fuel + 1)).run s = (do
      handleCompletion m.header m.data
      awaitResponse fuel).run s₁ := by
  constructor
  · rw [readEmitter, bind_of_ok hread, if_pos hm]
  · intro fuel
    rw [awaitResponse, bind_of_ok hread, if_pos hm]

/-- **Reports.** Of a report with two bytes or more, in the turn of the emitter as well as in a wait,

* nothing is stopped and nobody is let go, and
* every record stays but for the one under the number that the report is about.

A shorter one also leaves records and connections alone, but it stops what is done. In the turn of the
emitter the proxy is stopped altogether, and in the turn of a client that client is let go. -/
theorem reports_by_length (s : Session) :
    (∀ (m : Incoming) (s₁ : Session), receiveIncoming.run s = (.ok m, s₁) → m.type = asyncComplete →
      m.data.all (·.toNat < 256) = true →
      ∃ r s₂, readEmitter.run s = (r, s₂) ∧
        (∀ fuel, (awaitResponse (fuel + 1)).run s =
          match r with
          | .ok () => (awaitResponse fuel).run s₂
          | .error e => (.error e, s₂)) ∧
        r = (if 2 ≤ m.data.length then .ok () else .error (.foreign .unboundLocal "")) ∧
        Holds s s₂ ∧
        (∀ k, m.reported? ≠ some k →
          s₂.proxy.registry.entries.lookup k = s.proxy.registry.entries.lookup k) ∧
        ∀ (listener : Nat) (fd : Int) (fds : List Int) (s₀ : Session) (fuel : Nat),
          Net.select.run s₀ = (.ok (fd :: fds), s) → s.proxy.readers.lookup fd = some s.proxy.box →
          s.proxy.box ≠ listener → m.data.length < 2 →
          (serveAll listener (fuel + 1)).run s₀ = (.error (.foreign .unboundLocal ""), s₂)) ∧
    ∀ client, s.proxy.readers.any (·.1 == descriptor s client) = true →
      (∃ m ∈ (exchangeWith client s).heard, m.Short) →
      ∃ s', (serve client).run s = (.ok (), s') ∧
        s'.proxy.readers = s.proxy.readers.filter (·.1 != descriptor s client) ∧
        closes s'.bench.journal = closes s.bench.journal ++ [label s client] := by
  refine ⟨fun m s₁ hread hm hbytes => ?_, fun client hknown h => serve_short hknown h⟩
  obtain ⟨hturn, hwait⟩ := readEmitter_report hread hm
  have hproxy : s₁.proxy = s.proxy := (onlyReads_receiveIncoming.of_run_eq hread).proxy
  have hregistry := handleCompletion_registry hm s₁
  have hholds := Trans.trans (holds_receiveIncoming.of_run_eq hread)
    (holds_handleCompletion m.header m.data s₁)
  have hresult : ((handleCompletion m.header m.data).run s₁).1 =
      if 2 ≤ m.data.length then .ok () else .error (.foreign .unboundLocal "") := by
    split
    case isTrue hlong =>
      obtain ⟨k, hk⟩ := exists_bigEndian hbytes hlong
      obtain ⟨s', hrun, -⟩ := handleCompletion_run hk s₁
      rw [hrun]
    case isFalse hshort => exact handleCompletion_short (Nat.lt_of_not_le hshort) m.header s₁
  rcases hroute : (handleCompletion m.header m.data).run s₁ with ⟨r, s₂⟩
  rw [hroute] at hturn hregistry hholds hresult
  refine ⟨r, s₂, hturn, fun fuel => ?_, hresult, hholds, fun k hk => ?_, ?_⟩
  · rw [hwait, Act.run_bind, hroute]
    cases r <;> rfl
  · rw [hregistry, hproxy, Incoming.settle]
    cases hreported : m.reported? with
    | none => rfl
    | some n =>
      rw [hreported] at hk
      exact (Registry.lookup_forget _ n k).trans (if_neg fun hkn => hk (congrArg some hkn.symm))
  · intro listener fd fds s₀ fuel hselect hlookup hbox hshort
    obtain rfl : r = .error (.foreign .unboundLocal "") := hresult.trans (if_neg (Nat.not_le.2 hshort))
    have hready : (serveReady listener fd).run s = (.error (.foreign .unboundLocal ""), s₂) := by
      rw [serveReady, Act.bind_of_ok (run_state s), hlookup]
      dsimp only
      rw [if_neg hbox, if_pos rfl, hturn]
    have hall : ((fd :: fds).forM (serveReady listener)).run s =
        (.error (.foreign .unboundLocal ""), s₂) := Act.bind_of_error hready
    rw [serveAll, Act.bind_of_ok hselect, Act.bind_of_error hall]

set_option maxRecDepth 4096 in
/-- An emitter that reports without a number brings the proxy down. -/
theorem empty_report_stops_proxy :
    ∃ (s₀ s₂ : Session), (serveAll 0 1).run s₀ = (.error (.foreign .unboundLocal ""), s₂) ∧
      s₀.proxy.readers = [(3, 0), (4, 1), (5, 2)] ∧
      Net.heard s₀ 1 = [some ['\x00', '\x00', '1']] := by
  let emitter : Peer := { chunks := [some ['\x00', '\x00', '1']], descriptor := 4 }
  let s₀ : Session :=
    { bench := { ready := [[4]], links := [{ peer := {} }, { peer := emitter }, { peer := {} }] }
      proxy := { box := 1, readers := [(3, 0), (4, 1), (5, 2)] } }
  let s : Session := { s₀ with bench := { s₀.bench with ready := [] } }
  obtain ⟨hreport, -⟩ := reports_by_length s
  obtain ⟨r, s₂, -, -, -, -, -, hstop⟩ := hreport ⟨asyncComplete, ['\x00', '\x00', '1'], []⟩ _ rfl rfl rfl
  exact ⟨s₀, s₂, hstop 0 4 [] s₀ 0 rfl rfl (by decide) (by decide), rfl, rfl⟩

end SetTop.IrBox.Proxy
