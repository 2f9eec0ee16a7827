import SetTop.Cache.Scope
import SetTop.Proofs.Act
import SetTop.Proofs.Cache.Replay

/-!
Many deliveries from one store.

A reader is one delivery of the results of a call. Any number of readers share the store of a scope,
and a schedule says who is asked next and how much room the store has at that moment.

Every reader is given exactly what the function itself gives. The reader that is asked moves on by one
turn of its function, and the store still agrees with the functions of all readers.
-/

namespace SetTop.Cache

open Replay (At Agrees Step Stores)
open Turn (Reaches plain)
open List

structure Call where
  function : String
  dependsOn : Json
  arguments : List (String × Argument)
  digest : String
  keyed : callDigest function dependsOn arguments = .ok digest

structure Reader where
  call : Call
  state : Replay := .stored 0
  given : List Turn := []

def Reader.start (c : Call) : Reader := { call := c }

/-- An entry of a schedule: the number of the reader that is asked, and how many entries the store
may hold then. -/
structure Ask where
  reader : Nat
  room : Nat

def Reader.ask (f : Call → Nat → Turn) (r : Reader) : Act Reader := do
  let step ← turn (f r.call) r.call.digest r.state
  return { r with state := step.rest, given := r.given ++ [step.turn] }

def asked (schedule : List Ask) (i : Nat) : Nat := schedule.countP (·.reader == i)

def held (s : Session) (file : String) : CacheStore := (s.bench.stores.lookup file).getD {}

/-! ### Running one turn -/

section Turn

variable {f : Nat → Turn} {d : String} {r : Replay} {s : Session} {scope : CacheScope}

lemma run_setStore (file : String) (c : CacheStore) (s : Session) :
    ∃ s', (setStore file c).run s = (.ok (), s') ∧ s'.cache = s.cache ∧ held s' file = c := by
  refine ⟨_, rfl, rfl, ?_⟩
  simp only [held, lookup_cons_self, Option.getD_some]

lemma run_reportFull (h : s.cache = some scope) :
    ∃ s' scope', (reportFull scope).run s = (.ok (), s') ∧ s'.cache = some scope' ∧
      scope'.file = scope.file ∧ ∀ file, held s' file = held s file := by
  unfold reportFull
  split
  · exact ⟨_, _, rfl, rfl, rfl, fun _ => rfl⟩
  · exact ⟨s, scope, rfl, h, rfl, fun _ => rfl⟩

/-- Inside a scope a turn is one step of the delivery, on the store of the scope. It cannot fail,
and a store that is too full is reported without leaving the scope. -/
lemma run_turn (h : s.cache = some scope) : ∃ s' scope', (turn f d r).run s =
        (.ok (r.next f d s.bench.storeLimit (held s scope.file)), s') ∧
      s'.cache = some scope' ∧ scope'.file = scope.file ∧
      held s' scope.file = (r.next f d s.bench.storeLimit (held s scope.file)).store := by
  have hstore : (store scope.file).run s = (.ok (held s scope.file), s) := rfl
  unfold turn
  rw [Act.bind_of_ok (Act.run_get s), h]
  rw [Act.bind_of_ok (Act.run_bench s), Act.bind_of_ok hstore]
  generalize r.next f d s.bench.storeLimit (held s scope.file) = step
  obtain ⟨s₁, hset, hcache, hheld⟩ := run_setStore scope.file step.store s
  rw [Act.bind_of_ok hset]
  split
  · obtain ⟨s₂, scope', hreport, hcache', hfile, hkept⟩ := run_reportFull (hcache.trans h)
    rw [Act.bind_of_ok hreport]
    exact ⟨s₂, scope', rfl, hcache', hfile, (hkept scope.file).trans hheld⟩
  · exact ⟨s₁, scope, rfl, hcache.trans h, rfl, hheld⟩

/-- Collecting from a store that agrees with a function gives what the function gives by itself. The
store still agrees then, also with every other function that has no entries of its own under the
same digest. -/
lemma run_collect {fuel n : Nat} (h : s.cache = some scope) (hr : At f n r)
    (hreach : Reaches f n) (ha : Agrees f d (held s scope.file)) (found : List Json)
    (produced passed : List Nat) :
    ∃ produced' s' scope', (collect f d fuel r found produced).run s =
        (.ok ((collectPlain f fuel n found passed).1, produced',
          (collectPlain f fuel n found passed).2.2), s') ∧
      s'.cache = some scope' ∧ scope'.file = scope.file ∧
      ∀ g d', (d' = d → ∀ n e, Stores f n e → Stores g n e) →
        Agrees g d' (held s scope.file) → Agrees g d' (held s' scope.file) := by
  induction fuel generalizing s scope n r found produced passed with
  | zero => exact ⟨produced, s, scope, rfl, h, rfl, fun _ _ _ hg => hg⟩
  | succ fuel ih =>
    obtain ⟨s₁, scope₁, hrun, hscope₁, hfile₁, hheld⟩ := run_turn h
    have hstep := Replay.next_delivers hr ha s.bench.storeLimit
    have hkeep (g : Nat → Turn) (d' : String)
        (hsame : d' = d → ∀ n e, Stores f n e → Stores g n e)
        (hg : Agrees g d' (held s scope.file)) : Agrees g d' (held s₁ scope.file) := by
      rw [hheld]
      exact hg.of_writes hsame hstep.store
    have hturn := hstep.turn
    rw [Turn.plain_of_reaches hreach] at hturn
    rw [collect, Act.bind_of_ok hrun, collectPlain, hturn]
    cases hn : f n with
    | value v =>
      have hown : Agrees f d (held s₁ scope₁.file) := hfile₁ ▸ hkeep f d (fun _ _ _ he => he) ha
      obtain ⟨produced', s', scope', hrest, hscope', hfile', hkeep'⟩ :=
        ih hscope₁ hstep.rest (Turn.reaches_succ_iff.mpr ⟨hreach, v, hn⟩) hown (found ++ [v]) _
          (passed ++ [n])
      rw [hfile₁] at hfile' hkeep'
      exact ⟨produced', s', scope', hrest, hscope', hfile',
        fun g d' hsame hg => hkeep' g d' hsame (hkeep g d' hsame hg)⟩
    | stop | refuse => exact ⟨_, s₁, scope₁, rfl, hscope₁, hfile₁, hkeep⟩

lemma run_digest? (c : Call) (h : s.cache = some scope) :
    (digest? c.function c.dependsOn c.arguments).run s = (.ok (some (scope, c.digest)), s) := by
  unfold digest?
  rw [Act.bind_of_ok (Act.run_get s), h]
  rw [c.keyed]
  rfl

end Turn

/-! ### Every turn is the function's own -/

/-- The session is inside of the scope of a store that agrees with the functions of all calls. -/
structure Serves (f : Call → Nat → Turn) (calls : List Call) (file : String) (s : Session) :
    Prop where
  scope : ∃ scope, s.cache = some scope ∧ scope.file = file
  keys : ∀ c ∈ calls, ∀ c' ∈ calls, c.digest = c'.digest → f c = f c'
  agrees : ∀ c ∈ calls, Agrees (f c) c.digest (held s file)

/-- The reader has been asked `n` times and was given the first `n` turns of its function. -/
structure Reader.Follows (f : Call → Nat → Turn) (n : Nat) (r : Reader) : Prop where
  state : At (f r.call) n r.state
  given : r.given = (List.range n).map (plain (f r.call))

variable {f : Call → Nat → Turn} {calls : List Call} {file : String} {s : Session}

variable {c : Call} {n : Nat} {count : Nat → Nat} {readers : List Reader}

section Serving

variable (hs : Serves f calls file s)

include hs

lemma Serves.run_turn (hc : c ∈ calls) {r : Replay} (hr : At (f c) n r) :
    ∃ step s', (turn (f c) c.digest r).run s = (.ok step, s') ∧ step.turn = plain (f c) n ∧
      At (f c) (n + 1) step.rest ∧ Serves f calls file s' := by
  obtain ⟨scope, hscope, rfl⟩ := hs.scope
  obtain ⟨s', scope', hrun, hscope', hfile, hheld⟩ := Cache.run_turn hscope
  have hstep := Replay.next_delivers hr (hs.agrees c hc) s.bench.storeLimit
  refine ⟨_, s', hrun, hstep.turn, hstep.rest, ⟨scope', hscope', hfile⟩, hs.keys, ?_⟩
  -- The turn may have written for one call; the store agrees with all of them still.
  intro c' hc'
  rw [hheld]
  have hsame (hdigest : c'.digest = c.digest) (n : Nat) (e : Json) (he : Stores (f c) n e) :
      Stores (f c') n e := hs.keys c' hc' c hc hdigest ▸ he
  exact (hs.agrees c' hc').of_writes hsame hstep.store

end Serving

/-! ### Transparency -/

def failing : Call where
  function := "fail"
  dependsOn := .null
  arguments := []
  digest := "[\"[\\\"fail\\\", null]\", \x7b\x7d]"
  keyed := rfl

end SetTop.Cache

/-! ### Functions that share a digest

What a function leaves under a digest is all that a later call with the same digest is given, even
if it is a call of another function. Whether that does harm depends on the entries alone: two
functions can share a digest if and only if they have the same entries. They may differ where
nothing is stored, that is in how they refuse.
-/

namespace SetTop.Cache

open Replay (Agrees Stores entry endEntry)
open Act (Moves)
open Turn (Reaches reaches_succ_iff not_reaches_succ)

variable {f g : Nat → Turn} {d : String} {n : Nat} {s : Session} {scope : CacheScope}

/-- Everything that one of the functions stores the other one stores as well. -/
def SameEntries (f g : Nat → Turn) : Prop := ∀ n e, Stores f n e ↔ Stores g n e

/-! ### Filling a store -/

/-- The store has all the entries of the function before a turn. -/
def Holds (f : Nat → Turn) (d : String) (n : Nat) (store : CacheStore) : Prop :=
  ∀ i < n, ∀ e, Stores f i e → store.get? ⟨d, some i⟩ = some e

section Holds

variable {store : CacheStore} {limit : Nat}

lemma Holds.of_not_reaches (h : Holds f d n store) (hn : ¬ Reaches f n) (m : Nat) :
    Holds f d m store := by
  intro i hi e he
  refine h i (Nat.lt_of_not_le fun hle => hn fun k hk => ?_) e he
  exact he.1 k (by omega)

lemma Holds.succ_of_refuse (h : Holds f d n store) {e : Fault} (hn : f n = .refuse e) :
    Holds f d (n + 1) store := by
  intro i hi e' he'
  rcases Nat.lt_succ_iff_lt_or_eq.mp hi with hi | rfl
  · exact h i hi e' he'
  · exact absurd hn (he'.ne_refuse e)

lemma Holds.storing {e : Json} (h : Holds f d n store) (he : Stores f n e)
    (hroom : store.entries.length < limit) (turn : Turn) (rest : Replay) (produced : List Nat) :
    ∃ store', Replay.storing limit ⟨d, some n⟩ e turn rest store produced =
        ⟨turn, rest, store', produced, false⟩ ∧
      Holds f d (n + 1) store' ∧ store'.entries.length ≤ store.entries.length + 1 := by
  obtain ⟨store', hput, hlength⟩ : ∃ store', store.put? limit ⟨d, some n⟩ e = some store' ∧
      store'.entries.length ≤ store.entries.length + 1 :=
    ⟨_, if_neg (by omega), Nat.succ_le_succ (List.length_filter_le ..)⟩
  refine ⟨store', by rw [Replay.storing, hput], fun i hi e' he' => ?_, hlength⟩
  rw [CacheStore.get?_put? hput]
  rcases Nat.lt_succ_iff_lt_or_eq.mp hi with hi | rfl
  · have hne : ¬ i = n := by omega
    rw [if_neg (by simpa using hne)]
    exact h i hi e' he'
  · rw [if_pos rfl, he.unique he']

lemma Holds.next (h : Holds f d n store) (hn : Reaches f n)
    (hroom : store.entries.length < limit) :
    ∃ rest store' produced, (Replay.running n 0).next f d limit store =
        ⟨f n, rest, store', produced, false⟩ ∧
      (∀ v, f n = .value v → rest = .running (n + 1) 0) ∧ Holds f d (n + 1) store' ∧
      store'.entries.length ≤ store.entries.length + 1 := by
  rw [Replay.next, Replay.resume]
  cases hturn : f n with
  | value v =>
    obtain ⟨store', hstep, hstore⟩ := h.storing ⟨hn, .inl ⟨v, hturn, rfl⟩⟩ hroom (.value v)
      (.running (n + 1) 0) ([] ++ [n])
    exact ⟨_, store', _, (if_pos (Nat.zero_le n)).trans hstep, fun _ _ => rfl, hstore⟩
  | stop =>
    obtain ⟨store', hstep, hstore⟩ := h.storing ⟨hn, .inr ⟨hturn, rfl⟩⟩ hroom .stop .ended []
    exact ⟨_, store', _, hstep, by simp, hstore⟩
  | refuse e => exact ⟨_, store, _, rfl, by simp, h.succ_of_refuse hturn, Nat.le_succ _⟩

end Holds

/-! ### Runs -/

def Steady (s s' : Session) : Prop := s'.bench.storeLimit = s.bench.storeLimit

instance : Std.Refl Steady := ⟨fun _ => rfl⟩

instance : Trans Steady Steady Steady where
  trans h h' := h'.trans h

lemma steady_turn (r : Replay) : Moves Steady (turn f d r) := by
  refine .bind .get fun s => ?_
  split
  · exact .throw _
  · refine .bind .bench fun b => .bind (.bind .bench fun _ => .pure _) fun store => ?_
    refine .bind (fun _ => rfl) fun _ => ?_
    have hreport (scope : CacheScope) : Moves Steady (reportFull scope) :=
      .ite (.bind (fun _ => rfl) fun _ => fun _ => rfl) (.pure _)
    exact .ite (.bind (hreport _) fun _ => .pure _) (.pure _)

variable {fuel : Nat}

lemma run_collect_holds {r : Replay} (h : s.cache = some scope) (hn : Reaches f n)
    (hr : r.next f d s.bench.storeLimit (held s scope.file) =
      (Replay.running n 0).next f d s.bench.storeLimit (held s scope.file))
    (hheld : Holds f d n (held s scope.file))
    (hroom : (held s scope.file).entries.length + fuel ≤ s.bench.storeLimit) (found : List Json)
    (produced : List Nat) :
    Holds f d (n + fuel) (held ((collect f d fuel r found produced).run s).2 scope.file) := by
  induction fuel generalizing s scope n r found produced with
  | zero => exact hheld
  | succ fuel ih =>
    obtain ⟨s₁, scope₁, hrun, hscope₁, hfile₁, hheld₁⟩ := run_turn h
    have hlimit : s₁.bench.storeLimit = s.bench.storeLimit := (steady_turn r).of_run_eq hrun
    obtain ⟨rest, store', given, hnext, hrest, hstore, hlength⟩ :=
      hheld.next hn (show _ < s.bench.storeLimit by omega)
    rw [hr, hnext] at hrun hheld₁
    rw [← show held s₁ scope.file = store' from hheld₁] at hstore hlength
    rw [← hfile₁] at hstore
    rw [collect, Act.bind_of_ok hrun]
    cases hturn : f n with
    | value v =>
      have hlast := ih hscope₁ (reaches_succ_iff.mpr ⟨hn, v, hturn⟩) (congrArg _ (hrest v hturn))
        hstore (by rw [hfile₁]; omega) (found ++ [v]) (produced ++ given)
      rw [hfile₁, Nat.add_right_comm] at hlast
      exact hlast
    | stop | refuse => exact hfile₁ ▸ hstore.of_not_reaches (not_reaches_succ (by simp [hturn])) _

lemma run_collect_held (h : s.cache = some scope) (hheld : ∀ i, n ≤ i → i < n + fuel →
      ∃ e, Stores f i e ∧ (held s scope.file).get? ⟨d, some i⟩ = some e) (found : List Json)
    (produced passed : List Nat) :
    ∃ produced' s', (collect g d fuel (.stored n) found produced).run s =
      (.ok ((collectPlain f fuel n found passed).1, produced',
        (collectPlain f fuel n found passed).2.2), s') := by
  induction fuel generalizing s scope n found produced passed with
  | zero => exact ⟨produced, s, rfl⟩
  | succ fuel ih =>
    obtain ⟨s₁, scope₁, hrun, hscope₁, hfile₁, hheld₁⟩ :=
      run_turn h
    obtain ⟨e, ⟨hn, he⟩, hget⟩ := hheld n (Nat.le_refl n) (by omega)
    rw [Replay.next, hget] at hrun hheld₁
    rcases he with ⟨v, hv, rfl⟩ | ⟨hstop, rfl⟩
    · rw [collect, Act.bind_of_ok hrun, collectPlain, hv]
      refine ih hscope₁ (fun i hi hlt => ?_) _ _ _
      rw [hfile₁, hheld₁]
      exact hheld i (by omega) (by omega)
    · rw [collect, Act.bind_of_ok hrun, collectPlain, hstop]
      exact ⟨_, s₁, rfl⟩

/-! ### Answers tell entries -/

/-- What a function gives that is asked at most `limit` times: its results, and what it was stopped
by. -/
def plainAnswer (f : Nat → Turn) (limit : Nat) : List Json × Option Fault :=
  ((collectPlain f limit 0 [] []).1, (collectPlain f limit 0 [] []).2.2)

def ending : Option Fault → Turn
  | none => .stop
  | some e => .refuse e

lemma ending_ne_value (o : Option Fault) (v : Json) : ending o ≠ .value v := by
  cases o <;> simp [ending]

lemma exists_collectPlain (fuel k : Nat) (found : List Json) (passed : List Nat) :
    ∃ l, (collectPlain f fuel k found passed).1 = found ++ l ∧ l.length ≤ fuel ∧
      (∀ i v, l[i]? = some v → f (k + i) = .value v) ∧
      (l.length < fuel → f (k + l.length) = ending (collectPlain f fuel k found passed).2.2) := by
  induction fuel generalizing k found passed with
  | zero => exact ⟨[], by simp [collectPlain], Nat.le_refl 0, by simp, by simp⟩
  | succ fuel ih =>
    rw [collectPlain]
    cases hk : f k with
    | value v =>
      obtain ⟨l, hfound, hlength, hvalues, hend⟩ := ih (k + 1) (found ++ [v]) (passed ++ [k])
      refine ⟨v :: l, by rw [hfound, List.append_assoc, List.singleton_append],
        by simpa using hlength, fun i w hi => ?_, fun hlt => ?_⟩
      · cases i with
        | zero => simpa [hk] using hi
        | succ i =>
          rw [← hvalues i w (by simpa using hi), Nat.add_right_comm, Nat.add_assoc]
      · rw [← hend (by simpa using hlt), List.length_cons, Nat.add_right_comm, Nat.add_assoc]
    | stop | refuse => exact ⟨[], by simp, Nat.zero_le _, by simp, fun _ => hk⟩

lemma stores_of_plainAnswer_eq {e : Json} (he : Stores f n e)
    (h : plainAnswer f (n + 1) = plainAnswer g (n + 1)) : Stores g n e := by
  obtain ⟨l, hfound, hlength, hvalues, hend⟩ := exists_collectPlain (f := f) (n + 1) 0 [] []
  obtain ⟨l', hfound', -, hvalues', hend'⟩ := exists_collectPlain (f := g) (n + 1) 0 [] []
  obtain ⟨hl, hending⟩ := Prod.mk.inj h
  obtain rfl : l = l' := by simpa [hfound, hfound'] using hl
  rw [hending] at hend
  simp only [Nat.zero_add] at hvalues hvalues' hend hend'
  have hnone (hlt : l.length < n + 1) (v : Json) : f l.length ≠ .value v :=
    hend hlt ▸ ending_ne_value _ v
  obtain ⟨hreach, hn⟩ := he
  -- The function does not end before the turn, so there are results for all turns before it.
  have hle : n ≤ l.length := by
    refine Nat.le_of_not_lt fun hlt => ?_
    obtain ⟨v, hv⟩ := hreach l.length hlt
    exact hnone (by omega) v hv
  refine ⟨fun i hi => ⟨_, hvalues' i _ (List.getElem?_eq_getElem (show i < l.length by omega))⟩, ?_⟩
  rcases hn with ⟨v, hv, rfl⟩ | ⟨hstop, rfl⟩
  · have hlt : n < l.length := by
      refine Nat.lt_of_not_le fun hge => ?_
      obtain rfl : n = l.length := by omega
      exact hnone (by omega) v hv
    have hget := List.getElem?_eq_getElem hlt
    rw [hvalues n _ hget] at hv
    cases hv
    exact .inl ⟨_, hvalues' n _ hget, rfl⟩
  · have hge : l.length ≤ n := by
      refine Nat.le_of_not_lt fun hlt => ?_
      rw [hvalues n _ (List.getElem?_eq_getElem hlt)] at hstop
      cases hstop
    obtain rfl : l.length = n := by omega
    exact .inr ⟨(hend' (by omega)).trans ((hend (by omega)).symm.trans hstop), rfl⟩

end SetTop.Cache
