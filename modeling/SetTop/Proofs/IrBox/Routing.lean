import SetTop.Proofs.IrBox.Invariant

/-!
A proxy routes every report of completion to the client that waits for it.

Every function of the proxy keeps `Sound`, whether it is stopped or not. While a client waits for
its response, reports for others are routed in between; that they do not get in the way of the
response is what `Free` and `served` keep track of.
-/

namespace SetTop.IrBox.Proxy

open Registry Act String

/-! ### Messages of the emitter -/

/-- The invariant, and whose command was read last. -/
def Serving (client : Option Nat) (h : History) (s : Session) : Prop :=
  Sound h s ∧ served h = client

/-- A message was read just now, before which the invariant held. -/
def JustHeard (client : Option Nat) (m : Incoming) (h : History) (s : Session) : Prop :=
  ∃ h₀, h = h₀ ++ [.heard m] ∧ Serving client h₀ s

@[simp] lemma served_snoc (h : History) (e : Happening) :
    served (h ++ [e]) = match e with
      | .took client _ => some client
      | _ => served h := by
  rw [served, List.foldl_append]
  cases e <;> rfl

lemma follows_quiet {α : Type} {a : Act α} (ha : Act.Moves Quiet a) :
    Follows Sound a (fun _ => Sound) Sound := .of_moves ha (fun _ _ _ => .of_quiet) fun _ _ h => h

lemma serving_of_quiet (client : Option Nat) (h : History) (s s' : Session)
    (hs : Serving client h s) (hq : Quiet s s') : Serving client h s' :=
  ⟨hs.1.of_quiet hq, hs.2⟩

/-- A delivery was tried just now. It can only fail in the usual way. -/
def Delivered (client : Nat) (text : Data) (h₀ : History) (s₀ : Session) (r : Except Fault Unit)
    (h : History) (s : Session) : Prop :=
  (∃ arrived, h = h₀ ++ [.sent client text arrived]) ∧
    s.proxy.registry = s₀.proxy.registry ∧ ∀ e, r = .error e → e.isOrdinary

variable {h : History} {s : Session} {m : Incoming} {client : Option Nat} {n : Nat}

lemma follows_attempt_send (client : Nat) (text : Data) (E : History → Session → Prop) :
    Follows (fun h' s' => h' = h ∧ s' = s) (attempt (Net.send client (ofList text)))
      (Delivered client text h s) E := by
  refine .of_step ?_ ?_
  · rintro _ s r s' ⟨rfl, rfl⟩ hrun
    have hsend : (Net.send client (ofList text)).run s = (r, s') := by
      rw [run_attempt, Prod.mk.injEq, Except.ok.injEq] at hrun
      exact Prod.ext hrun.1 hrun.2
    cases r with
    | ok _ => exact ⟨_, .sent hsend, ⟨true, rfl⟩, by rw [(send_ok hsend).1], by simp⟩
    | error e =>
      obtain ⟨hordinary, rfl⟩ := send_error hsend
      refine ⟨_, .unsent hsend, ⟨false, rfl⟩, rfl, ?_⟩
      rintro _ ⟨rfl⟩
      exact hordinary
  · intro h s e s' _ hrun
    rw [run_attempt] at hrun
    simp at hrun

lemma follows_receiveIncoming (client : Option Nat) :
    Follows (Serving client) receiveIncoming (JustHeard client) Sound := by
  refine .of_step ?_ ?_
  · intro h s m s' hs hrun
    have hsame : s'.proxy = s.proxy := (onlyReads_receiveIncoming.of_run_eq hrun).proxy
    exact ⟨_, .heard hrun, h, rfl, hs.1.of_registry (by rw [hsame]), hs.2⟩
  · intro h s e s' hs hrun
    have hsame : s'.proxy = s.proxy := (onlyReads_receiveIncoming.of_run_eq hrun).proxy
    exact ⟨_, .lostMessage hrun, hs.1.snoc (by rw [hsame]) trivial rfl (by simp) (fun _ _ => rfl)
      fun _ _ => rfl⟩

lemma follows_settle {p : Pending} (hs : Serving client h s) (hm : m.type = asyncComplete)
    (hd : m.data.bigEndian = .ok n) (hn : awaiting h n = some p) : Follows
      (fun h' s' => (∃ arrived, h' = h ++ .heard m ::
          [.sent p.client (m.header ++ (numberData p.number ++ m.data.drop 2)) arrived]) ∧
        s'.proxy.registry = s.proxy.registry)
      (setRegistry (s.proxy.registry.forget n)) (fun _ => Serving client) Sound := by
  refine .of_step ?_ ?_
  · rintro _ s₁ _ s' ⟨⟨arrived, rfl⟩, hr⟩ hrun
    have hs' : s' = withRegistry s₁ (s₁.proxy.registry.forget n) := by
      rw [hr]
      exact (Prod.mk.inj hrun).2.symm
    subst hs'
    refine ⟨_, .settled n, ?_, ?_⟩
    · have hreport := (hs.1.of_registry hr).report_pending (b := arrived) hm hd hn
      simpa using hreport
    · rw [served_snoc, List.append_cons, served_snoc, served_snoc]
      exact hs.2
  · intro h s e s' _ hrun
    exact absurd (Prod.mk.inj hrun).1 (by simp)

lemma Serving.report_nobody (hs : Serving client h s) (hdue : due h m = [])
    (hk : ∀ n, m.reported? = some n → awaiting h n = none) : Serving client (h ++ [.heard m]) s :=
  ⟨hs.1.report_nobody hdue hk, by simpa using hs.2⟩

lemma follows_handleCompletion (client : Option Nat) (hm : m.type = asyncComplete) :
    Follows (JustHeard client m) (handleCompletion m.header m.data)
      (fun _ => Serving client) Sound := by
  refine .of_point ?_
  rintro _ s ⟨h, rfl, hs⟩
  refine .bind_look (fun _ => rfl) fun p => .of_point ?_
  rintro _ s ⟨⟨rfl, rfl⟩, rfl⟩
  cases hd : m.data.bigEndian with
  | error e =>
    rw [complete_malformed hd]
    have hnobody : Serving client (h ++ [.heard m]) s := by
      refine hs.report_nobody (by simp [due, hd]) ?_
      intro n hn
      simp [reported?_of_error hd] at hn
    refine .pre ?_ (by rintro _ _ ⟨rfl, rfl⟩; exact hnobody.1)
    exact .bind (follows_quiet (quiet_report _)) fun _ => .throw _ fun _ _ h => h
  | ok n =>
    cases hn : awaiting h n with
    | none =>
      have hlookup : s.proxy.registry.entries.lookup n = none := by simp [hs.1.known n, hn]
      rw [complete_unknown hd hlookup]
      have hnobody : Serving client (h ++ [.heard m]) s := by
        refine hs.report_nobody (by simp [due, hd, hn]) ?_
        intro k hk
        rw [reported?_of_ok hm hd, Option.some.injEq] at hk
        exact hk ▸ hn
      refine .pre ?_ (by rintro _ _ ⟨rfl, rfl⟩; exact hnobody)
      exact .of_moves (quiet_warn _) (serving_of_quiet client) fun _ _ h => h.1
    | some p =>
      have hlookup : s.proxy.registry.entries.lookup n = some (some p) := by
        simp [hs.1.known n, hn]
      rw [complete_pending hd hlookup (hs.1.small n p hn)]
      refine .bind (follows_attempt_send p.client _ Sound) fun r => ?_
      have hsettle : Follows (Delivered p.client _ (h ++ [.heard m]) s r)
          (setRegistry (s.proxy.registry.forget n)) (fun _ => Serving client) Sound :=
        (follows_settle hs hm hd hn).pre fun _ _ hp => ⟨by simpa using hp.1, hp.2.1⟩
      cases r with
      | ok _ => exact hsettle
      | error e =>
        dsimp only
        split
        · -- The report on the failure stands where the record is still there.
          refine .bind (.of_moves_of_ok (quiet_report _) (report_ok _) ?_) fun _ => hsettle
          intro h s s' hp hq
          exact ⟨hp.1, hq.registry.trans hp.2.1, hp.2.2⟩
        · rename_i hordinary
          refine .of_point fun h s hp => ?_
          exact absurd (hp.2.2 e rfl) hordinary

/-- The invariant where something can be sent to the client whose command was read last. -/
def Answering (client : Option Nat) (h : History) (s : Session) : Prop :=
  Serving client h s ∧ Free h

lemma JustHeard.answering (hs : JustHeard client m h s) (hm : m.type ≠ asyncComplete) :
    Answering client h s := by
  obtain ⟨h₀, rfl, hs, hserved⟩ := hs
  refine ⟨⟨hs.heard hm, by simpa using hserved⟩, free_snoc_of_reading h₀ rfl ?_⟩
  rintro _ ⟨rfl⟩
  exact hm

lemma follows_forClient (hm : m.type ≠ asyncComplete) :
    Follows (JustHeard client m) (forClient m) (fun _ => Answering client) Sound := by
  refine .pre ?_ fun _ _ hs => hs.answering hm
  exact .of_moves (quiet_forClient m)
    (fun h s s' hs hq => ⟨serving_of_quiet client h s s' hs.1 hq, hs.2⟩) fun _ _ h => h.1.1

lemma follows_awaitResponse (client : Option Nat) (fuel : Nat) :
    Follows (Serving client) (awaitResponse fuel) (fun _ => Answering client) Sound := by
  induction fuel with
  | zero =>
    have hquiet {α : Type} {a : Act α} (ha : Act.Moves Quiet a) :
        Follows (Serving client) a (fun _ => Serving client) Sound :=
      .of_moves ha (serving_of_quiet client) fun _ _ h => h.1
    refine .bind (hquiet quiet_state) fun p => .bind (hquiet (quiet_describe p.box)) fun _ => ?_
    exact .throw _ fun _ _ h => h.1
  | succ fuel ih =>
    refine .bind (follows_receiveIncoming client) fun m => ?_
    -- A report goes to whoever waits for it, and the client goes on waiting.
    split
    · exact .bind (follows_handleCompletion client ‹_›) fun _ => ih
    · exact follows_forClient ‹_›

lemma follows_readEmitter (client : Option Nat) :
    Follows (Serving client) readEmitter (fun _ => Sound) Sound := by
  refine .bind (follows_receiveIncoming client) fun m => ?_
  split
  · exact (follows_handleCompletion client ‹_›).weaken (fun _ _ h => h) (fun _ _ _ h => h.1)
      fun _ _ h => h
  · exact .bind (follows_forClient ‹_›) fun _ => .pure _ fun _ _ h => h.1.1

/-! ### Commands of clients -/

lemma readHeader_ok {header : Data} {length type : Nat}
    (h : readHeader header = .ok (length, type)) : header[2]?.map Char.toNat = some type := by
  unfold readHeader Data.bytes at h
  split at h
  · rename_i hsmall
    rcases header with _ | ⟨a, _ | ⟨b, _ | ⟨c, _ | ⟨d, rest⟩⟩⟩⟩
    case cons.cons.cons.nil =>
      have hc : c.toNat < 256 := by
        have hall := List.all_eq_true.mp hsmall c (by simp)
        simpa using hall
      have htype : (UInt8.ofNat c.toNat).toNat = type := (Prod.mk.inj (Except.ok.inj h)).2
      rw [UInt8.toNat_ofNat', Nat.mod_eq_of_lt hc] at htype
      simp [htype]
    all_goals
      exact absurd h (by simp [Bytes.ofChars, bind, Except.bind])
  · exact absurd h (by simp [bind, Except.bind])

lemma readCommand_type {client : Nat} {s' : Session} (h : (readCommand client).run s = (.ok m, s')) :
    m.header[3]?.map Char.toNat = some m.type := by
  unfold readCommand at h
  obtain ⟨header, s₁, h₁, h⟩ := bind_eq_ok h
  obtain ⟨_, s₂, h₂, h⟩ := bind_eq_ok h
  obtain ⟨⟨length, type⟩, s₃, h₃, h⟩ := bind_eq_ok h
  rw [run_ofExcept] at h₃
  have htype := readHeader_ok (Prod.mk.inj h₃).1
  rw [List.getElem?_drop] at htype
  dsimp only at h
  split at h
  · exact absurd (Prod.mk.inj h).1 (by simp)
  split at h
  · exact absurd (Prod.mk.inj h).1 (by simp)
  obtain ⟨data, s₄, _, h⟩ := bind_eq_ok h
  obtain ⟨rfl⟩ := (Prod.mk.inj h).1
  exact htype

/-- A command was read that can be passed on. -/
def Taken (client : Nat) (m : Incoming) (h : History) (s : Session) : Prop :=
  Answering (some client) h s ∧ Lawful h (.passed (m.header ++ m.data))

def JustTook (client : Nat) (m : Incoming) (h : History) (s : Session) : Prop :=
  ∃ h₀, h = h₀ ++ [.took client m] ∧ Answering (some client) h s ∧
    m.header[3]?.map Char.toNat = some m.type

lemma follows_readCommand (client : Nat) :
    Follows Sound (readCommand client) (JustTook client) Sound := by
  refine .of_step ?_ ?_
  · intro h s m s' hs hrun
    have hsame : s'.proxy = s.proxy := ((onlyReads_readCommand _).of_run_eq hrun).proxy
    have hs' : Sound (h ++ [.took client m]) s' :=
      hs.snoc (by rw [hsame]) trivial rfl (by simp) (fun _ _ => rfl) fun _ _ => rfl
    refine ⟨_, .took hrun, h, rfl, ⟨⟨hs', by simp⟩, ?_⟩, readCommand_type hrun⟩
    exact free_snoc_of_reading h rfl (by simp)
  · intro h s e s' hs hrun
    have hsame : s'.proxy = s.proxy := ((onlyReads_readCommand _).of_run_eq hrun).proxy
    exact ⟨_, .lostCommand hrun, hs.snoc (by rw [hsame]) trivial rfl (by simp) (fun _ _ => rfl)
      fun _ _ => rfl⟩

lemma Answering.numbered {client k : Nat} {r : Registry}
    (hs : Answering (some client) (h ++ [.took client m]) s) (hk : m.data.bigEndian = .ok k)
    (hn : s.proxy.registry.freshNumber = some (n, r)) :
    Taken client { m with data := numberData n ++ m.data.drop 2 }
      (h ++ [.took client m] ++ [.numbered ⟨client, k⟩ n])
      (withRegistry s (r.put n (some ⟨client, k⟩))) := by
  refine ⟨⟨⟨hs.1.1.numbered hn hk, ?_⟩, hs.2.append (by simp)⟩, fun _ => ?_⟩
  · rw [served_snoc]
    exact hs.1.2
  · exact ⟨h, client, m, k, n, by simp, hk, rfl⟩

lemma follows_enroll (client : Nat) (m : Incoming) :
    Follows (JustTook client m) (enroll client m) (Taken client) Sound := by
  refine .of_point ?_
  rintro _ s ⟨h, rfl, hs, htype⟩
  unfold enroll
  split
  · refine .bind_look (fun _ => rfl) fun p => .of_point ?_
    rintro _ s ⟨⟨rfl, rfl⟩, rfl⟩
    refine .bind (.ofExcept _ (by rintro _ _ ⟨rfl, rfl⟩; exact hs.1.1)) fun r => .of_point ?_
    rintro _ s ⟨⟨rfl, rfl⟩, hr⟩
    obtain ⟨data, registry⟩ := r
    obtain ⟨k, n, r₁, hk, hn, rfl, rfl⟩ := register_spec hr
    refine .bind
      (.of_step ?_ ?_) fun _ => .pure _ fun _ _ h => h
    · rintro _ s _ s' ⟨rfl, rfl⟩ hrun
      obtain ⟨_, rfl⟩ := Prod.mk.inj hrun
      exact ⟨_, .numbered hk hn, hs.numbered hk hn⟩
    · intro _ _ e s' _ hrun
      exact absurd (Prod.mk.inj hrun).1 (by simp)
  · rename_i hsync
    refine .pure _ ?_
    rintro _ _ ⟨rfl, rfl⟩
    refine ⟨hs, fun hasync => ?_⟩
    -- The type that was looked at is the one in the text that is passed on.
    have hlt : 3 < m.header.length := by
      refine Nat.lt_of_not_le fun hle => ?_
      rw [List.getElem?_eq_none hle] at htype
      simp at htype
    rw [isAsync, List.getElem?_append_left hlt, htype, Option.some.injEq] at hasync
    exact absurd hasync hsync

lemma follows_pass {box : Nat} {text : Data} : Follows
      (fun h s => (Serving client h s ∧ Lawful h (.passed text)) ∧ s.proxy.box = box)
      (Net.send box (ofList text)) (fun _ => Serving client) Sound := by
  rintro h s ⟨⟨hs, hlaw⟩, rfl⟩
  rcases hrun : (Net.send s.proxy.box (ofList text)).run s with ⟨r, s'⟩
  cases r with
  | ok _ =>
    refine ⟨_, .of_step (.passed hrun), ?_, by simpa using hs.2⟩
    exact hs.1.snoc (by rw [(send_ok hrun).1]) hlaw rfl (by simp) (fun _ _ => rfl) fun _ _ => rfl
  | error e =>
    obtain ⟨_, rfl⟩ := send_error hrun
    exact ⟨[], .done _, by simpa using hs.1⟩

lemma follows_reply {client : Nat} (text : Data) :
    Follows (Answering (some client)) (Net.send client (ofList text)) (fun _ => Sound)
      Sound := by
  refine .of_step ?_ ?_
  · intro h s _ s' hs hrun
    exact ⟨_, .sent hrun, hs.1.1.sent hs.2 hs.1.2 (by rw [(send_ok hrun).1])⟩
  · intro h s e s' hs hrun
    exact ⟨_, .unsent hrun, hs.1.1.sent hs.2 hs.1.2 (by rw [(send_error hrun).2])⟩

lemma follows_answer (client : Nat) (m : Incoming) :
    Follows (Taken client m) (answer client m) (fun _ => Sound) Sound := by
  unfold answer
  split
  · exact (follows_reply _).pre fun _ _ h => h.1
  · refine .bind_look (fun _ => rfl) fun p => ?_
    refine .bind (Q := fun _ => Serving (some client)) (follows_pass.pre ?_) fun _ => ?_
    · rintro h s ⟨⟨hs, hlaw⟩, rfl⟩
      exact ⟨⟨hs.1, hlaw⟩, rfl⟩
    · refine .bind (.of_moves quiet_incomingBound (serving_of_quiet _) fun _ _ h => h.1)
        fun fuel => ?_
      exact .bind (follows_awaitResponse _ fuel) fun r => follows_reply _

lemma follows_serve (client : Nat) : Follows Sound (serve client) (fun _ => Sound) Sound := by
  unfold serve
  refine .bind (.attempt (.bind (follows_readCommand client) (follows_enroll client))) fun r => ?_
  cases r with
  | error e =>
    dsimp only
    split
    · exact .throw_bind e _ fun _ _ h => h
    refine .bind (follows_quiet (quiet_dropClient client)) fun _ => ?_
    split
    · exact follows_quiet (quiet_info _)
    · exact follows_quiet (quiet_report _)
  | ok m =>
    refine .bind (.attempt (follows_answer client m)) fun r => ?_
    cases r with
    | ok _ => exact .pure _ fun _ _ h => h
    | error e =>
      dsimp only
      split
      · exact .throw_bind e _ fun _ _ h => h
      exact .bind (follows_quiet (quiet_dropClient client)) fun _ => follows_quiet (quiet_report _)

/-! ### Running -/

lemma follows_serveReady (listener : Nat) (fd : Int) :
    Follows Sound (serveReady listener fd) (fun _ => Sound) Sound := by
  unfold serveReady
  refine .bind (follows_quiet quiet_state) fun p => ?_
  split
  · exact .throw _ fun _ _ h => h
  split
  · exact follows_quiet quiet_welcome
  split
  · refine .of_point fun h s hs => (follows_readEmitter (served h)).pre ?_
    rintro _ _ ⟨rfl, rfl⟩
    exact ⟨hs, rfl⟩
  · exact follows_serve _

lemma follows_serveAll (listener fuel : Nat) :
    Follows Sound (serveAll listener fuel) (fun _ => Sound) Sound := by
  induction fuel with
  | zero => exact .throw _ fun _ _ h => h
  | succ fuel ih =>
    refine .bind (follows_quiet quiet_select) fun ready => ?_
    exact .bind (.forM (follows_serveReady listener)) fun _ => ih

lemma follows_manage {type : Int} (htype : ∀ text, request type [] = .ok text → ¬ isAsync text) :
    Follows Sound (manage type) (fun _ => Sound) Sound := by
  refine .of_point fun h s hs => ?_
  refine .bind_look (fun _ => rfl) fun p => .pre (P := fun h' s' =>
    Serving (served h) h' s' ∧ s'.proxy.box = p.box) ?_ ?_
  · refine .bind (.ofExcept _ fun _ _ h => h.1.1) fun text => ?_
    refine .bind (Q := fun _ => Serving (served h)) (follows_pass.pre ?_) fun _ => ?_
    · rintro h' s' ⟨⟨hs', hbox⟩, htext⟩
      exact ⟨⟨hs', fun hasync => absurd hasync (htype text htext)⟩, hbox⟩
    refine .bind (.of_moves quiet_incomingBound (serving_of_quiet _) fun _ _ h => h.1)
        fun fuel => ?_
    refine .bind (follows_awaitResponse _ fuel) fun r => ?_
    split
    · exact .throw _ fun _ _ h => h.1.1
    · exact .pure _ fun _ _ h => h.1.1
  · rintro _ _ ⟨⟨rfl, rfl⟩, rfl⟩
    exact ⟨⟨hs, rfl⟩, rfl⟩

lemma follows_powerOn : Follows Sound (manage powerOn) (fun _ => Sound) Sound := by
  refine follows_manage ?_
  rintro _ ⟨rfl⟩
  decide

lemma follows_shutDown : Follows Sound shutDown (fun _ => Sound) Sound := by
  have hoff : Follows Sound (manage powerOff) (fun _ => Sound) Sound := by
    refine follows_manage ?_
    rintro _ ⟨rfl⟩
    decide
  unfold shutDown
  have hclose : Follows Sound (do (← state).readers.forM fun reader => Net.close reader.2)
      (fun _ => Sound) Sound :=
    .bind (follows_quiet quiet_state) fun p => .forM fun _ => follows_quiet (quiet_close _)
  refine .bind (.attempt hoff) fun r => ?_
  cases r with
  | ok _ => exact hclose
  | error e =>
    dsimp only
    split
    · exact .bind (follows_quiet (quiet_report _)) fun _ => hclose
    · exact .throw_bind e _ fun _ _ h => h

lemma follows_openConnections (place : Place) :
    Follows Sound (openConnections place) (fun _ => Sound) Sound := by
  have hopen {h : History} {s s' : Session} {r : Except Fault Nat} (hs : Sound h s)
      (hrun : (openConnections place).run s = (r, s')) : Sound (h ++ [.opened]) s' :=
    hs.snoc ((keepsRegistry_openConnections place).of_run_eq hrun).registry trivial rfl (by simp)
      (fun _ _ => rfl) fun _ _ => rfl
  refine .of_step ?_ ?_ <;>
  · intro h s _ s' hs hrun
    exact ⟨_, .opened hrun, hopen hs hrun⟩

lemma follows_run (place : Place) : Follows Sound (run place) (fun _ => Sound) Sound := by
  unfold run
  refine .bind (follows_openConnections place) fun listener => ?_
  refine .bind (.attempt follows_powerOn) fun r => ?_
  have hserve : Follows Sound (do
      info s!"Listening for connections on {place.listenHost}:{place.listenPort}"
      ensuring (do serveAll listener ((← bench).ready.length + 1)) shutDown)
      (fun _ => Sound) Sound := by
    refine .bind (follows_quiet (quiet_info _)) fun _ => ?_
    rw [ensuring_eq]
    refine .bind (.attempt (.bind (follows_quiet .bench) fun b =>
      follows_serveAll listener _)) fun r => ?_
    refine .bind (follows_shutDown.pre ?_) fun _ => ?_
    · intro h s hs
      cases r with
      | ok | error => exact hs
    · exact (Follows.ofExcept r fun _ _ h => h).weaken (fun _ _ h => h) (fun _ _ _ h => h.1)
        fun _ _ h => h
  cases r with
  | ok _ => exact hserve
  | error e =>
    dsimp only
    split
    · exact .bind (follows_quiet (quiet_giveUp _)) fun _ => hserve
    · exact .throw_bind e _ fun _ _ h => h

/-! ### Histories of runs -/

lemma sound_fresh (s : Session) (verbosity : Nat) : Sound [] (fresh s verbosity) where
  valid := valid_empty
  known _ := rfl
  level _ := rfl
  small n p h := by simp at h
  orderly := orderly_nil

/-- Every run has a history, after which the invariant holds. -/
lemma exists_history (place : Place) (s : Session) (verbosity : Nat) :
    ∃ h, Trace (fresh s verbosity) h ((run place).run (fresh s verbosity)).2 ∧
      Sound h ((run place).run (fresh s verbosity)).2 := by
  obtain ⟨h, ht, hs⟩ := follows_run place [] _ (sound_fresh s verbosity)
  refine ⟨h, ht, ?_⟩
  split at hs
  · exact hs
  · exact hs

/-- **Routing.** Every run of a proxy has a history such that

* what was sent in the run is what the history says;
* at every point of it the numbers in the registry are distinct and at most 65535;
* a command that will be reported on is passed on under a number that was free before, and that
  stands for this command of this client from then on;
* on a report about a number the one thing sent is the report, under the client's own number, to
  the client that waits for it; nothing is sent if nobody does, or if there is no number in it;
* on a second report about a number nothing is sent unless it was given to a command in between;
* whatever else is sent to a client is sent to the one whose command was read last. -/
theorem run_routes_reports (place : Place) (s : Session) (verbosity : Nat) :
    ∃ h, Trace (fresh s verbosity) h ((run place).run (fresh s verbosity)).2 ∧
      texts ((run place).run (fresh s verbosity)).2 = texts s ++ h.filterMap (·.text?) ∧
      (∀ pre mid, Trace (fresh s verbosity) pre mid →
        mid.proxy.registry.numbers.Nodup ∧ (∀ n ∈ mid.proxy.registry.numbers, n ≤ 65535) ∧
        ∀ n, mid.proxy.registry.entries.lookup n = (recorded pre n).map some) ∧
      (∀ pre text post, h = pre ++ .passed text :: post → isAsync text →
        ∃ h₀ client m k n, pre = h₀ ++ [.took client m, .numbered ⟨client, k⟩ n] ∧
          m.data.bigEndian = .ok k ∧ text = m.header ++ (numberData n ++ m.data.drop 2) ∧
          n ≤ 65535 ∧ recorded h₀ n = none) ∧
      (∀ pre m post n, h = pre ++ .heard m :: post → m.reported? = some n →
        burst post = (awaiting pre n).toList.map fun p =>
          (p.client, m.header ++ (numberData p.number ++ m.data.drop 2))) ∧
      (∀ pre m post, h = pre ++ .heard m :: post → m.type = asyncComplete →
        m.reported? = none → burst post = []) ∧
      (∀ pre m mid m' post n, h = pre ++ .heard m :: mid ++ .heard m' :: post →
        m.reported? = some n → m'.reported? = some n → (∀ p, .numbered p n ∉ mid) →
        burst post = []) ∧
      (∀ pre client text arrived post, h = pre ++ .sent client text arrived :: post →
        Free pre → served pre = some client) := by
  obtain ⟨h, ht, hs⟩ := exists_history place s verbosity
  have hrouted {pre post : History} {m : Incoming} {n : Nat}
      (hsplit : h = pre ++ .heard m :: post) (hm : m.reported? = some n) :
      burst post = (awaiting pre n).toList.map fun p =>
        (p.client, m.header ++ (numberData p.number ++ m.data.drop 2)) := by
    obtain ⟨htype, hn⟩ := reported?_eq_some hm
    rw [hs.orderly.routed pre m post hsplit htype, due, hn]
    dsimp only
    cases awaiting pre n <;> rfl
  refine ⟨h, ht, ht.texts_eq, ?_, ?_, fun _ _ _ _ => hrouted, ?_, ?_, ?_⟩
  · intro pre mid hmid
    have hvalid := hmid.valid valid_empty
    exact ⟨hvalid.distinct, hvalid.bounded, fun _ => hmid.lookup_eq rfl⟩
  · intro pre text post hsplit hasync
    obtain ⟨h₀, client, m, k, n, rfl, hk, htext⟩ := hs.orderly.lawful pre _ post hsplit hasync
    have hlevel := hs.orderly.level h₀ (.took client m)
      (.numbered ⟨client, k⟩ n :: .passed text :: post) (by simpa using hsplit) rfl
    have hlaw := hs.orderly.lawful (h₀ ++ [.took client m]) (.numbered ⟨client, k⟩ n)
      (.passed text :: post) (by simpa using hsplit)
    have hfree : recorded h₀ n = none := by
      rw [hlevel n]
      simpa [Happening.hands] using hlaw.1
    exact ⟨h₀, client, m, k, n, rfl, hk, htext, hlaw.2.1, hfree⟩
  · intro pre m post hsplit htype hm
    rw [hs.orderly.routed pre m post hsplit htype]
    cases hd : m.data.bigEndian with
    | error e => simp [due, hd]
    | ok n => simp [reported?_of_ok htype hd] at hm
  · intro pre m mid m' post n hsplit hm hm' hmid
    rw [hrouted hsplit hm', awaiting_append_of_no_numbered hm hmid]
    rfl
  · intro pre client text arrived post hsplit
    exact hs.orderly.lawful pre (.sent client text arrived) post hsplit

end SetTop.IrBox.Proxy
