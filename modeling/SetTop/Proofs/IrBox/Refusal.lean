import SetTop.Proofs.IrBox.Frame
import SetTop.Proofs.IrBox.Orderly

/-!
Commands that the emitter does not accept.

A proxy works in turns. What is said in a turn (`Exchange`) is a function of the session that it
starts in. From the exchanges of a run, `book` tells which commands were accepted and not reported on
yet, and which were not accepted. The registry is the two of them together.

A record is dropped only on a report, and an emitter reports only on what it has accepted. So the
record of a command that it refuses stays for good, and its number is never free again.
-/

namespace SetTop.IrBox.Proxy

open List Incoming Registry
open Act

/-! ### What is said in a turn -/

def answers : Nat → Session → List Incoming
  | 0, _ => []
  | fuel + 1, s =>
    match receiveIncoming.run s with
    | (.error _, _) => []
    | (.ok m, s₁) =>
      if m.type = asyncComplete then
        match (handleCompletion m.header m.data).run s₁ with
        | (.error _, _) => [m]
        | (.ok _, s₂) => m :: answers fuel s₂
      else [m]

/-- What is said in a turn: the number that a command was registered under, and the messages of the
emitter. -/
structure Exchange where
  asked : Option Nat := none
  heard : List Incoming := []

def heardOn (m : Incoming) (s : Session) : List Incoming :=
  if m.type = powerOn || m.type = powerOff then []
  else
    match (Net.send s.proxy.box (String.ofList (m.header ++ m.data))).run s with
    | (.error _, _) => []
    | (.ok _, s₁) =>
      answers (Stream.size ((s₁.bench.links[s₁.proxy.box]?).getD { peer := {} }).peer.chunks + 1) s₁

def exchangeWith (client : Nat) (s : Session) : Exchange :=
  match (receiveCommand client).run s with
  | (.error _, _) => {}
  | (.ok m, s₁) =>
    { asked := if m.type = outputAsync then m.data.bigEndian.toOption else none
      heard := heardOn m s₁ }

def exchange (listener : Nat) (fd : Int) (s : Session) : Exchange :=
  match s.proxy.readers.lookup fd with
  | none => {}
  | some link =>
    if link = listener then {}
    else if link = s.proxy.box then { heard := (receiveIncoming.run s).1.toOption.toList }
    else exchangeWith link s

/-! ### What a turn does to the registry -/

/-- The registry after a message of the emitter. -/
def Incoming.settle (r : Registry) (m : Incoming) : Registry :=
  match m.reported? with
  | some n => r.forget n
  | none => r

variable {h data : Data} {n client verbosity listener : Nat} {e : Fault} {m : Incoming}
  {s s' s₁ : Session} {b : Book} {xs : List Exchange} {r : Registry} {x : Exchange} {place : Place}

lemma handleCompletion_run (hd : data.bigEndian = .ok n) (s : Session) :
    ∃ s', (handleCompletion h data).run s = (.ok (), s') ∧
      s'.proxy.registry = s.proxy.registry.forget n := by
  obtain ⟨hsnd, hfst⟩ := complete_snd hd
  rw [handleCompletion, bind_of_ok (run_state s)]
  rcases hc : s.proxy.registry.complete h data with ⟨what, registry⟩
  rw [hc] at hsnd hfst
  have hset (s₁ : Session) : (setRegistry registry).run s₁ =
      (.ok (), withRegistry s₁ (s.proxy.registry.forget n)) := by rw [← hsnd]; rfl
  cases what with
  | malformed => exact absurd rfl hfst
  | unknown k =>
    obtain ⟨_, s', hrun, hq⟩ := (quiet_warn s!"Sequence ID not recognised: {k}").exists_run
      (warn_ok _ s)
    refine ⟨s', hrun, ?_⟩
    -- Nothing is recorded under the number, so there is nothing to forget.
    have hsame : registry = s.proxy.registry := complete_unknown_snd hc
    rw [hq.registry, ← hsnd, hsame]
  | undeliverable =>
    obtain ⟨_, s₁, hrun, _⟩ := (quiet_report _).exists_run (report_ok _ s)
    refine ⟨_, (bind_of_ok hrun).trans (hset s₁), rfl⟩
  | deliver client message =>
    rcases send_cases client (String.ofList message) s with ⟨s₁, hsend, _⟩ | ⟨e, hsend, he⟩
    · rw [run_bind, run_attempt, hsend]
      exact ⟨_, hset s₁, rfl⟩
    · rw [run_bind, run_attempt, hsend]
      dsimp only
      rw [if_pos he]
      obtain ⟨_, s₁, hrun, _⟩ := (quiet_report _).exists_run (report_ok _ s)
      exact ⟨_, (bind_of_ok hrun).trans (hset s₁), rfl⟩

lemma handleCompletion_malformed (hd : data.bigEndian = .error e) (s : Session) :
    ∃ s', (handleCompletion h data).run s = (.error (.foreign .unboundLocal ""), s') ∧
      s'.proxy.registry = s.proxy.registry := by
  rw [handleCompletion, bind_of_ok (run_state s), complete_malformed hd]
  obtain ⟨_, s₁, hrun, hq⟩ := (quiet_report "Error sending async complete command").exists_run
    (report_ok _ s)
  exact ⟨s₁, bind_of_ok hrun, hq.registry⟩

lemma handleCompletion_registry (hm : m.type = asyncComplete) (s : Session) :
    ((handleCompletion m.header m.data).run s).2.proxy.registry = m.settle s.proxy.registry := by
  cases hd : m.data.bigEndian with
  | error e =>
    obtain ⟨s', hrun, hr⟩ := handleCompletion_malformed hd s
    rw [hrun, settle, reported?_of_error hd]
    exact hr
  | ok n =>
    obtain ⟨s', hrun, hr⟩ := handleCompletion_run hd s
    rw [hrun, settle, reported?_of_ok hm hd]
    exact hr

lemma settle_of_ne (hm : m.type ≠ asyncComplete) (r : Registry) : m.settle r = r := by
  rw [settle, reported?_of_ne hm]

lemma awaitResponse_registry (fuel : Nat) (s : Session) :
    ((awaitResponse fuel).run s).2.proxy.registry =
      (answers fuel s).foldl settle s.proxy.registry := by
  induction fuel generalizing s with
  | zero => rfl
  | succ fuel ih =>
    rw [awaitResponse, answers, run_bind]
    rcases hrun : receiveIncoming.run s with ⟨r, s₁⟩
    have hsame : s₁.proxy = s.proxy := (onlyReads_receiveIncoming.of_run_eq hrun).proxy
    cases r with
    | error e => exact congrArg Proxy.registry hsame
    | ok m =>
      dsimp only
      split
      case isTrue hm =>
        have hr := handleCompletion_registry hm s₁
        rw [run_bind]
        rcases hroute : (handleCompletion m.header m.data).run s₁ with ⟨r, s₂⟩
        rw [hroute, hsame] at hr
        cases r with
        | error e => exact hr
        | ok _ =>
          rw [foldl_cons, ← hr]
          exact ih s₂
      case isFalse hm =>
        rw [(quiet_forClient m s₁).registry, hsame, foldl_cons, foldl_nil, settle_of_ne hm]

lemma readEmitter_registry (s : Session) : (readEmitter.run s).2.proxy.registry =
      (receiveIncoming.run s).1.toOption.toList.foldl settle s.proxy.registry := by
  rw [readEmitter, run_bind]
  rcases hrun : receiveIncoming.run s with ⟨r, s₁⟩
  have hsame : s₁.proxy = s.proxy := (onlyReads_receiveIncoming.of_run_eq hrun).proxy
  cases r with
  | error e => exact congrArg Proxy.registry hsame
  | ok m =>
    change _ = m.settle s.proxy.registry
    dsimp only
    split
    case isTrue hm => rw [handleCompletion_registry hm, hsame]
    case isFalse hm =>
      have hkept : Moves Quiet (do let _ ← forClient m) :=
        .bind (quiet_forClient m) fun _ => .pure _
      rw [(hkept s₁).registry, hsame, settle_of_ne hm]

/-- A registry with a command registered under a number, if there is one. -/
def Enrolled (asked : Option Nat) (r r' : Registry) : Prop :=
  match asked with
  | none => r' = r
  | some n => ∃ r₀ p, r.freshNumber = some (n, r₀) ∧ r' = r₀.put n (some p)

lemma enroll_enrolled {m' : Incoming} (h : (enroll client m).run s = (.ok m', s')) :
    Enrolled (if m'.type = outputAsync then m'.data.bigEndian.toOption else none)
      s.proxy.registry s'.proxy.registry := by
  unfold enroll at h
  split at h
  case isTrue hm =>
    rw [bind_of_ok (run_state s)] at h
    obtain ⟨⟨data, registry⟩, s₂, hreg, h⟩ := bind_eq_ok h
    rw [run_ofExcept, Prod.mk.injEq] at hreg
    obtain ⟨hreg, rfl⟩ := hreg
    obtain ⟨k, n, r₀, hk, hn, rfl, rfl⟩ := register_spec hreg
    obtain ⟨⟨rfl⟩, rfl⟩ := Prod.mk.inj h
    have hle := (freshNumber_spec hn).2.1
    have hall : (m.data.drop 2).all (·.toNat < 256) = true := by
      have hall := all_eq_true.mp (all_lt_of_bigEndian hk)
      exact all_eq_true.mpr fun c hc => hall c (mem_of_mem_drop hc)
    rw [maxNumber] at hle
    rw [if_pos hm, bigEndian_numberData (by omega) hall]
    exact ⟨r₀, ⟨client, k⟩, hn, rfl⟩
  case isFalse hm =>
    obtain ⟨⟨rfl⟩, rfl⟩ := Prod.mk.inj h
    rw [if_neg hm]
    rfl

lemma enroll_error (h : (enroll client m).run s = (.error e, s')) : s' = s := by
  unfold enroll at h
  split at h
  · rw [bind_of_ok (run_state s)] at h
    cases hreg : s.proxy.registry.register client m.data with
    | error f =>
      rw [hreg] at h
      exact (Prod.mk.inj h).2.symm
    | ok r =>
      rw [hreg] at h
      exact absurd (Prod.mk.inj h).1 (by simp)
  · exact absurd (Prod.mk.inj h).1 (by simp)

lemma run_incomingBound (s : Session) :
    incomingBound.run s = (.ok (Stream.size
      ((s.bench.links[s.proxy.box]?).getD { peer := {} }).peer.chunks + 1), s) := rfl

lemma answer_registry (client : Nat) (m : Incoming) (s : Session) :
    ((answer client m).run s).2.proxy.registry =
      (heardOn m s).foldl settle s.proxy.registry := by
  have hreply (client : Nat) (text : String) (s : Session) :
      ((Net.send client text).run s).2.proxy.registry = s.proxy.registry := by
    rcases send_cases client text s with ⟨s₁, hrun, hsame, _⟩ | ⟨e, hrun, _⟩
    · rw [hrun, hsame]
    · rw [hrun]
  unfold answer heardOn
  split
  · exact hreply client _ s
  · rw [bind_of_ok (run_state s), run_bind]
    rcases send_cases s.proxy.box (String.ofList (m.header ++ m.data)) s with
      ⟨s₁, hrun, hsame, _⟩ | ⟨e, hrun, _⟩
    · rw [hrun]
      dsimp only
      rw [bind_of_ok (run_incomingBound s₁), run_bind, ← hsame, ← awaitResponse_registry]
      split
      · rename_i hawait
        rw [hreply, hawait]
      · rename_i hawait
        rw [hawait]
    · rw [hrun]
      rfl

/-- What is said in a turn changes the registry: a command is registered under a fresh number, and
what is reported on is settled. -/
def Exchange.Changes (x : Exchange) (r r' : Registry) : Prop :=
  ∃ r₁, Enrolled x.asked r r₁ ∧ r' = x.heard.foldl settle r₁

lemma changes_refl (r : Registry) : Exchange.Changes {} r r := ⟨r, rfl, rfl⟩

lemma serve_registry (client : Nat) (s : Session) :
    ((serve client).run s).2.proxy.registry =
      match (receiveCommand client).run s with
      | (.error _, s₁) => s₁.proxy.registry
      | (.ok m, s₁) => ((answer client m).run s₁).2.proxy.registry := by
  unfold serve
  rw [run_bind, run_attempt]
  rcases hrun : (receiveCommand client).run s with ⟨r, s₁⟩
  cases r with
  | error e =>
    refine Quiet.registry (Moves.when (.throw e) (.bind (quiet_dropClient client) fun _ => ?_) s₁)
    split
    · exact quiet_info _
    · exact quiet_report _
  | ok m =>
    dsimp only
    rw [run_bind, run_attempt]
    rcases hanswer : (answer client m).run s₁ with ⟨r, s₂⟩
    cases r with
    | ok _ => rfl
    | error e =>
      exact Quiet.registry (Moves.when (.throw e) (.bind (quiet_dropClient client) fun _ =>
        quiet_report _) s₂)

lemma serve_changes (client : Nat) (s : Session) :
    (exchangeWith client s).Changes s.proxy.registry ((serve client).run s).2.proxy.registry := by
  rw [serve_registry]
  unfold exchangeWith
  rw [receiveCommand, run_bind]
  rcases hread : (readCommand client).run s with ⟨r, s₁⟩
  have hsame : s₁.proxy = s.proxy := ((onlyReads_readCommand client).of_run_eq hread).proxy
  cases r with
  | error e =>
    dsimp only
    rw [hsame]
    exact changes_refl _
  | ok m =>
    dsimp only
    rcases henroll : (enroll client m).run s₁ with ⟨r, s₂⟩
    cases r with
    | error e =>
      dsimp only
      rw [enroll_error henroll, hsame]
      exact changes_refl _
    | ok m' =>
      dsimp only
      rw [answer_registry, ← hsame]
      exact ⟨_, enroll_enrolled henroll, rfl⟩

lemma serveReady_changes (listener : Nat) (fd : Int) (s : Session) :
    (exchange listener fd s).Changes s.proxy.registry
      ((serveReady listener fd).run s).2.proxy.registry := by
  rw [serveReady, bind_of_ok (run_state s)]
  unfold exchange
  cases s.proxy.readers.lookup fd with
  | none => exact changes_refl _
  | some link =>
    dsimp only
    split
    · exact (quiet_welcome s).registry ▸ changes_refl _
    · split
      · rw [readEmitter_registry]
        exact ⟨_, rfl, rfl⟩
      · exact serve_changes link s

/-! ### Commands that are accepted, and others -/

/-- Whether a message says that a command is accepted. -/
def Incoming.isAck (m : Incoming) : Bool :=
  m.type == outputAsync && m.data[3]?.map Char.toNat == some 1

/-- The numbers under which commands were accepted and not reported on yet; and those under which a
command was registered that was not accepted. -/
structure Book where
  accepted : List Nat := []
  refused : List Nat := []

/-- What is left to be reported on after a message. -/
def Incoming.strike (accepted : List Nat) (m : Incoming) : List Nat :=
  match m.reported? with
  | some n => accepted.erase n
  | none => accepted

/-- Enters what was said in a turn. -/
def Book.enter (b : Book) (x : Exchange) : Book :=
  let left := x.heard.foldl (fun acc m => m.strike acc) b.accepted
  match x.asked with
  | none => { b with accepted := left }
  | some n =>
    if x.heard.any (·.isAck) then { b with accepted := left ++ [n] }
    else { accepted := left, refused := b.refused ++ [n] }

def book (xs : List Exchange) : Book := xs.foldl Book.enter {}

/-- Reports are only about commands that were accepted, and only about each of them once. -/
def Proper (accepted : List Nat) : List Incoming → Prop
  | [] => True
  | m :: ms => (m.type = asyncComplete → ∃ n ∈ accepted, m.reported? = some n) ∧
      Proper (m.strike accepted) ms

instance decidableProper : (accepted : List Nat) → (ms : List Incoming) →
    Decidable (Proper accepted ms)
  | _, [] => .isTrue trivial
  | accepted, m :: ms =>
    have := decidableProper (m.strike accepted) ms
    inferInstanceAs (Decidable (_ ∧ _))

/-- All that is said after some turns is proper. -/
def ProperFrom (b : Book) : List Exchange → Prop
  | [] => True
  | x :: xs => Proper b.accepted x.heard ∧ ProperFrom (b.enter x) xs

instance decidableProperFrom : (b : Book) → (xs : List Exchange) → Decidable (ProperFrom b xs)
  | _, [] => .isTrue trivial
  | b, x :: xs =>
    have := decidableProperFrom (b.enter x) xs
    inferInstanceAs (Decidable (_ ∧ _))

/-- The emitter reports only on what it has accepted, and once. -/
def Disciplined (xs : List Exchange) : Prop := ProperFrom {} xs

instance : DecidablePred Disciplined := fun xs => decidableProperFrom {} xs

lemma properFrom_append {ys : List Exchange} :
    ProperFrom b (xs ++ ys) ↔ ProperFrom b xs ∧ ProperFrom (xs.foldl Book.enter b) ys := by
  induction xs generalizing b with
  | nil => simp [ProperFrom]
  | cons x xs ih => simp [ProperFrom, ih, and_assoc]

/-- The registry holds what is in the book. -/
structure Kept (b : Book) (r : Registry) : Prop where
  valid : r.Valid
  perm : r.numbers.Perm (b.accepted ++ b.refused)

lemma settle_perm {ms : List Incoming} {accepted rest : List Nat} (hr : r.Valid)
    (hperm : r.numbers.Perm (accepted ++ rest)) (hms : Proper accepted ms) :
    (ms.foldl settle r).Valid ∧
      (ms.foldl settle r).numbers.Perm (ms.foldl strike accepted ++ rest) := by
  induction ms generalizing r accepted with
  | nil => exact ⟨hr, hperm⟩
  | cons m ms ih =>
    obtain ⟨hreport, hms⟩ := hms
    rw [foldl_cons, foldl_cons]
    by_cases hm : m.type = asyncComplete
    · obtain ⟨n, hn, hreported⟩ := hreport hm
      have hsettle : m.settle r = r.forget n := by rw [settle, hreported]
      have hstrike : m.strike accepted = accepted.erase n := by rw [strike, hreported]
      rw [hstrike] at hms
      rw [hsettle, hstrike]
      -- No number is taken twice, so dropping its record is erasing it once.
      refine ih (hr.forget n) ?_ hms
      rw [numbers_forget, ← hr.distinct.erase_eq_filter, ← erase_append_left _ hn]
      exact hperm.erase n
    · have hstrike : m.strike accepted = accepted := by
        rw [strike, reported?_of_ne hm]
      rw [hstrike] at hms
      rw [settle_of_ne hm, hstrike]
      exact ih hr hperm hms

lemma Kept.enter {r' : Registry} (hk : Kept b r) (hx : x.Changes r r')
    (hp : Proper b.accepted x.heard) : Kept (b.enter x) r' := by
  obtain ⟨r₁, henrolled, rfl⟩ := hx
  unfold Book.enter
  cases hasked : x.asked with
  | none =>
    rw [hasked] at henrolled
    obtain rfl : r₁ = r := henrolled
    obtain ⟨hvalid, hperm⟩ := settle_perm hk.valid hk.perm hp
    exact ⟨hvalid, hperm⟩
  | some n =>
    rw [hasked] at henrolled
    obtain ⟨r₀, p, hfresh, rfl⟩ := henrolled
    -- The command counts as refused until its turn is over; the messages of the turn decide.
    have hnumbers : (r₀.put n (some p)).numbers.Perm (b.accepted ++ (b.refused ++ [n])) := by
      rw [numbers_put_fresh hfresh, ← append_assoc]
      exact hk.perm.append_right [n]
    obtain ⟨hvalid, hperm⟩ := settle_perm (hk.valid.put_fresh hfresh _) hnumbers hp
    dsimp only
    split
    · refine ⟨hvalid, hperm.trans ?_⟩
      rw [append_assoc]
      exact perm_append_comm.append_left _
    · exact ⟨hvalid, hperm⟩

/-! ### Courses of turns -/

/-- The sessions between the turns of a proxy, with what was said in the turns before. Connections
may be served in any order. -/
inductive Course (place : Place) (s : Session) (verbosity listener : Nat) :
    List Exchange → Session → Prop
  | opened {s₁ s₂ : Session}
      (hopen : (openConnections place).run (fresh s verbosity) = (.ok listener, s₁))
      (hpower : (manage powerOn).run s₁ = (.ok (), s₂)) : Course place s verbosity listener [] s₂
  | idle {xs : List Exchange} {s₁ s₂ : Session}
      (hc : Course place s verbosity listener xs s₁) (hq : Quiet s₁ s₂) :
      Course place s verbosity listener xs s₂
  | served {xs : List Exchange} {s₁ : Session} (fd : Int)
      (hc : Course place s verbosity listener xs s₁) :
      Course place s verbosity listener (xs ++ [exchange listener fd s₁])
        ((serveReady listener fd).run s₁).2

lemma settle_numbers_subset (m : Incoming) (r : Registry) : (m.settle r).numbers ⊆ r.numbers := by
  unfold settle
  split
  · rw [numbers_forget]
    exact fun n hn => (mem_filter.mp hn).1
  · exact List.Subset.refl _

lemma foldl_settle_numbers_subset (ms : List Incoming) (r : Registry) :
    (ms.foldl settle r).numbers ⊆ r.numbers := by
  induction ms generalizing r with
  | nil => exact List.Subset.refl _
  | cons m ms ih => exact List.Subset.trans (ih (m.settle r)) (settle_numbers_subset m r)

/-- Numbers are at most released. -/
def Releases (s s' : Session) : Prop := s'.proxy.registry.numbers ⊆ s.proxy.registry.numbers

instance : Std.Refl Releases := ⟨fun _ => List.Subset.refl _⟩

instance : Trans Releases Releases Releases := ⟨fun h h' => List.Subset.trans h' h⟩

lemma releases_manage (type : Int) : Moves Releases (manage type) := by
  refine .bind (.of_run fun _ => rfl) fun p => .bind (.ofExcept _) fun text => .bind (fun s => ?_)
    fun _ => .bind (.of_run fun s => by rw [run_incomingBound]) fun fuel => .bind (fun s => ?_)
    fun r => .ite (.throw _) (.pure ())
  · rcases send_cases p.box (String.ofList text) s with ⟨s₁, hrun, hsame, _⟩ | ⟨e, hrun, _⟩
    · rw [hrun, Releases, hsame]
      exact List.Subset.refl _
    · rw [hrun]
      exact Std.Refl.refl s
  · rw [Releases, awaitResponse_registry]
    exact foldl_settle_numbers_subset _ _

lemma Course.kept {mid : Session} (hc : Course place s verbosity listener xs mid)
    (hd : Disciplined xs) : Kept (book xs) mid.proxy.registry := by
  induction hc with
  | @opened s₁ s₂ hopen hpower =>
    have hr : s₁.proxy.registry = {} :=
      ((keepsRegistry_openConnections place).of_run_eq hopen).registry
    have hempty : Releases s₁ s₂ := (releases_manage powerOn).of_run_eq hpower
    rw [Releases, hr] at hempty
    have hnumbers : s₂.proxy.registry.numbers = [] := subset_nil.mp hempty
    refine ⟨⟨by simp [hnumbers], by simp [hnumbers]⟩, ?_⟩
    rw [hnumbers]
    exact .nil
  | idle hc hq ih =>
    rw [hq.registry]
    exact ih hd
  | @served xs s₁ fd hc ih =>
    obtain ⟨hbefore, hlast, _⟩ := properFrom_append.mp hd
    rw [book, foldl_append]
    exact (ih hbefore).enter (serveReady_changes listener fd s₁) hlast

lemma refused_prefix_enter (b : Book) (x : Exchange) : b.refused <+: (b.enter x).refused := by
  unfold Book.enter
  split
  · exact prefix_refl _
  · split
    · exact prefix_refl _
    · exact prefix_append _ _

lemma refused_prefix_foldl (b : Book) (xs : List Exchange) :
    b.refused <+: (xs.foldl Book.enter b).refused := by
  induction xs generalizing b with
  | nil => exact prefix_refl _
  | cons x xs ih => exact (refused_prefix_enter b x).trans (ih (b.enter x))

lemma mem_refused (hx : x ∈ xs) (hn : x.asked = some n) (hack : ∀ m ∈ x.heard, m.isAck = false) :
    n ∈ (book xs).refused := by
  obtain ⟨pre, post, rfl⟩ := append_of_mem hx
  have hany : x.heard.any (·.isAck) = false := by
    rw [any_eq_false]
    intro m hm
    rw [hack m hm]
    simp
  have henter : n ∈ ((book pre).enter x).refused := by simp [Book.enter, hn, hany]
  rw [book, foldl_append]
  exact (refused_prefix_foldl _ post).subset henter

/-- **Refusal.** Between turns, with an emitter that reports on a command once, and only if it has
accepted it,

* the registry holds the commands that were accepted and not reported on yet, and besides them
  every command that was not accepted;
* so it holds exactly the former if and only if every command was accepted;
* the record of a command that was not accepted is there for good;
* and the numbers are exhausted as soon as both together are 65536. -/
theorem registry_eq_accepted_iff {place : Place} {s mid : Session} {verbosity listener : Nat}
    {xs : List Exchange} (hc : Course place s verbosity listener xs mid) (hd : Disciplined xs) :
    mid.proxy.registry.numbers.Perm ((book xs).accepted ++ (book xs).refused) ∧
      ((∀ n, n ∈ mid.proxy.registry.numbers ↔ n ∈ (book xs).accepted) ↔
        (book xs).refused = []) ∧
      (∀ x ∈ xs, ∀ n, x.asked = some n → (∀ m ∈ x.heard, m.isAck = false) →
        n ∈ mid.proxy.registry.numbers) ∧
      (mid.proxy.registry.freshNumber = none ↔
        (book xs).accepted.length + (book xs).refused.length = 65536) := by
  have hkept := hc.kept hd
  have hmem (n : Nat) : n ∈ mid.proxy.registry.numbers ↔
      n ∈ (book xs).accepted ∨ n ∈ (book xs).refused := by
    rw [hkept.perm.mem_iff, List.mem_append]
  refine ⟨hkept.perm, ?_, ?_, ?_⟩
  · constructor
    · intro hsame
      refine List.eq_nil_iff_forall_not_mem.mpr fun n hn => ?_
      have haccepted := (hsame n).mp ((hmem n).mpr (.inr hn))
      -- No number is taken twice, so a command is not both.
      have hnodup := hkept.perm.nodup hkept.valid.distinct
      exact (List.nodup_append.mp hnodup).2.2 n haccepted n hn rfl
    · intro hnone n
      rw [hmem n, hnone]
      simp
  · intro x hx n hn hack
    exact (hmem n).mpr (.inr (mem_refused hx hn hack))
  · have hlen : mid.proxy.registry.entries.length =
        (book xs).accepted.length + (book xs).refused.length := by
      have hlen := hkept.perm.length_eq
      rwa [numbers, List.length_map, List.length_append] at hlen
    rw [hkept.valid.freshNumber_eq_none_iff, hlen]

/-- A bench with one client, which has three commands. The emitter accepts the first, refuses the
second, reports on the first and accepts the third. -/
def mixedBench : Session :=
  let command : List Char := ['#', '\x00', '\x02', '0', '\x11', '\x22']
  { bench :=
      { peers := [{ descriptor := 4, chunks := [
            some ['\x00', '\x00', '\x05'],
            some ['\x00', '\x04', '0', '\x00', '\x00', '\x00', '\x01'],
            some ['\x00', '\x04', '0', '\x01', '\x00', '\x31', '\x00'],
            some ['\x00', '\x02', '1', '\x00', '\x00'],
            some ['\x00', '\x04', '0', '\x02', '\x00', '\x00', '\x01']] }]
        visitors := [{ descriptor := 10, chunks := [some command, some command, some command] }] } }

def mixedStart : Session :=
  ((manage powerOn).run ((openConnections { boxHost := "box" }).run (fresh mixedBench 0)).2).2

def turns (listener : Nat) : List Int → Session → List Exchange × Session
  | [], s => ([], s)
  | fd :: fds, s =>
    let (xs, s') := turns listener fds ((serveReady listener fd).run s).2
    (exchange listener fd s :: xs, s')

lemma Course.turns (hc : Course place s verbosity listener xs s₁) (fds : List Int) :
    Course place s verbosity listener (xs ++ (turns listener fds s₁).1)
      (turns listener fds s₁).2 := by
  induction fds generalizing xs s₁ with
  | nil => simpa [Proxy.turns] using hc
  | cons fd fds ih => simpa [Proxy.turns] using ih (hc.served fd)

/-- The second command is not accepted, and its record is the one too many. -/
theorem refused_record_stays :
    let (xs, mid) := turns 0 [3, 10, 10, 10] mixedStart
    Disciplined xs ∧ (book xs).accepted = [2] ∧ (book xs).refused = [1] ∧
      mid.proxy.registry.numbers.Perm [2, 1] ∧
      ¬ ∀ n, n ∈ mid.proxy.registry.numbers ↔ n ∈ (book xs).accepted := by
  have hc : Course { boxHost := "box" } mixedBench 0 0 (turns 0 [3, 10, 10, 10] mixedStart).1
      (turns 0 [3, 10, 10, 10] mixedStart).2 := .turns (.opened rfl rfl) [3, 10, 10, 10]
  have hd : Disciplined (turns 0 [3, 10, 10, 10] mixedStart).1 := by decide +kernel
  have haccepted : (book (turns 0 [3, 10, 10, 10] mixedStart).1).accepted = [2] := by
    decide +kernel
  have hrefused : (book (turns 0 [3, 10, 10, 10] mixedStart).1).refused = [1] := by
    decide +kernel
  obtain ⟨hperm, hiff, _⟩ := registry_eq_accepted_iff hc hd
  refine ⟨hd, haccepted, hrefused, ?_, fun hsame => ?_⟩
  · rw [haccepted, hrefused] at hperm
    exact hperm
  · rw [hiff.mp hsame] at hrefused
    simp at hrefused

end SetTop.IrBox.Proxy
