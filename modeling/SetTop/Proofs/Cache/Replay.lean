import SetTop.Cache.Replay
import SetTop.Proofs.Association

/-!
A delivery from a store is the function's own.

`Turn.plain f n` is what a function that runs from its start does when it is asked for the `n`-th
time. A store agrees with the function if every entry under its digest is the one that such a run
would have put there, whichever entries there are. That is enough for one turn of a delivery, and
the turn leaves a store that still agrees.

An entry is put only by a run that came that far. This is why the turns that are passed over when a
delivery falls back on the function can neither stop nor refuse.
-/

namespace SetTop

namespace CacheStore

lemma get?_put? {s s' : CacheStore} {limit : Nat} {k : CacheKey} {v : Json}
    (h : s.put? limit k v = some s') (q : CacheKey) :
    s'.get? q = if q = k then some v else s.get? q := by
  unfold put? at h
  split at h
  · cases h
  · cases h
    rw [get?, Association.lookup_replace]
    simp only [beq_iff_eq]
    rfl

end CacheStore

namespace Turn

variable {f : Nat → Turn} {n : Nat}

/-- The function gives a value at every turn before `n`. -/
def Reaches (f : Nat → Turn) (n : Nat) : Prop := ∀ i < n, ∃ v, f i = .value v

/-- What the function does when it is asked for the `n`-th time, from 0. Once it has stopped or
refused there is nothing more. -/
def plain (f : Nat → Turn) : Nat → Turn
  | 0 => f 0
  | n + 1 =>
    match plain f n with
    | .value _ => f (n + 1)
    | _ => .stop

lemma reaches_zero : Reaches f 0 := fun _ h => absurd h (Nat.not_lt_zero _)

lemma reaches_succ_iff : Reaches f (n + 1) ↔ Reaches f n ∧ ∃ v, f n = .value v := by
  constructor
  · intro h
    exact ⟨fun i hi => h i (by omega), h n (by omega)⟩
  · rintro ⟨h, hn⟩ i hi
    rcases Nat.lt_succ_iff_lt_or_eq.mp hi with hi | rfl
    · exact h i hi
    · exact hn

lemma not_reaches_succ (h : ∀ v, f n ≠ .value v) : ¬ Reaches f (n + 1) := by
  intro hr
  obtain ⟨-, v, hv⟩ := reaches_succ_iff.mp hr
  exact h v hv

lemma plain_of_reaches (h : Reaches f n) : plain f n = f n := by
  induction n with
  | zero => rfl
  | succ n ih =>
    obtain ⟨hn, v, hv⟩ := reaches_succ_iff.mp h
    rw [plain, ih hn, hv]

lemma plain_of_not_reaches (h : ¬ Reaches f n) : plain f n = .stop := by
  induction n with
  | zero => exact absurd reaches_zero h
  | succ n ih =>
    by_cases hn : Reaches f n
    · have hv : ∀ v, f n ≠ .value v := fun v hv => h (reaches_succ_iff.mpr ⟨hn, v, hv⟩)
      rw [plain, plain_of_reaches hn]
      split
      · rename_i v hfn
        exact absurd hfn (hv v)
      · rfl
    · rw [plain, ih hn]

end Turn

namespace Replay

open Turn (Reaches plain reaches_succ_iff not_reaches_succ plain_of_reaches plain_of_not_reaches)

variable {f : Nat → Turn} {digest : String} {limit skip n : Nat} {store : CacheStore}

/-- The entry is the one that a run of the function puts for its turn `n`. -/
def Stores (f : Nat → Turn) (n : Nat) (e : Json) : Prop :=
  Reaches f n ∧ ((∃ v, f n = .value v ∧ e = entry v) ∨ (f n = .stop ∧ e = endEntry))

/-- All entries under a digest are those of the function. -/
def Agrees (f : Nat → Turn) (digest : String) (store : CacheStore) : Prop :=
  ∀ n e, store.get? ⟨digest, some n⟩ = some e → Stores f n e

/-- How far a delivery is that has been asked `n` times. -/
def At (f : Nat → Turn) (n : Nat) : Replay → Prop
  | .stored index => index = n ∧ Reaches f n
  | .running position skip => position = n ∧ skip ≤ n ∧ Reaches f n
  | .ended => ¬ Reaches f n

/-- What one turn does to the store. -/
def Writes (f : Nat → Turn) (digest : String) (n : Nat) (store store' : CacheStore) : Prop :=
  store' = store ∨ ∃ limit e, Stores f n e ∧ store.put? limit ⟨digest, some n⟩ e = some store'

/-- The step is the `n`-th turn of the function. -/
structure Delivers (f : Nat → Turn) (digest : String) (n : Nat) (store : CacheStore)
    (step : Step) : Prop where
  turn : step.turn = plain f n
  rest : At f (n + 1) step.rest
  store : Writes f digest n store step.store

lemma at_start : At f 0 (.stored 0) := ⟨rfl, Turn.reaches_zero⟩

lemma Stores.ofEntry {e : Json} (h : Stores f n e) : ofEntry e = f n := by
  obtain ⟨-, ⟨v, hv, rfl⟩ | ⟨hstop, rfl⟩⟩ := h
  · rw [hv]
    rfl
  · rw [hstop]
    rfl

lemma Stores.unique {e e' : Json} (h : Stores f n e) (h' : Stores f n e') : e = e' := by
  obtain ⟨-, ⟨v, hv, rfl⟩ | ⟨hstop, rfl⟩⟩ := h <;> obtain ⟨-, ⟨v', hv', rfl⟩ | ⟨hstop', rfl⟩⟩ := h'
  · rw [hv] at hv'
    cases hv'
    rfl
  · cases hv.symm.trans hstop'
  · cases hstop.symm.trans hv'
  · rfl

lemma Stores.ne_refuse {e : Json} (h : Stores f n e) (fault : Fault) : f n ≠ .refuse fault := by
  obtain ⟨-, ⟨v, hv, -⟩ | ⟨hstop, -⟩⟩ := h
  · simp [hv]
  · simp [hstop]

lemma Stores.exists_of_le {e : Json} (h : Stores f n e) {i : Nat} (hi : i ≤ n) :
    ∃ e', Stores f i e' := by
  rcases Nat.lt_or_eq_of_le hi with hlt | rfl
  · obtain ⟨v, hv⟩ := h.1 i hlt
    exact ⟨entry v, fun k hk => h.1 k (by omega), .inl ⟨v, hv, rfl⟩⟩
  · exact ⟨e, h⟩

lemma agrees_of_get?_eq_none (h : ∀ n, store.get? ⟨digest, some n⟩ = none) :
    Agrees f digest store := by
  intro n e he
  rw [h n] at he
  cases he

/-- A store goes on agreeing with every function when another one, or the same, writes; if they have
the digest in common, they must have the entries in common that are written. -/
lemma Agrees.of_writes {g : Nat → Turn} {digest' : String} {store' : CacheStore}
    (h : Agrees g digest' store) (hsame : digest' = digest → ∀ n e, Stores f n e → Stores g n e)
    (hw : Writes f digest n store store') : Agrees g digest' store' := by
  rcases hw with rfl | ⟨limit, e, he, hput⟩
  · exact h
  · intro m e' hget
    rw [CacheStore.get?_put? hput] at hget
    split at hget
    · rename_i hkey
      cases hkey
      cases hget
      exact hsame rfl n e he
    · exact h m e' hget

lemma storing_turn (key : CacheKey) (e : Json) (turn : Turn) (rest : Replay)
    (produced : List Nat) : (storing limit key e turn rest store produced).turn = turn := by
  unfold storing
  split <;> rfl

lemma storing_rest (key : CacheKey) (e : Json) (turn : Turn) (rest : Replay)
    (produced : List Nat) : (storing limit key e turn rest store produced).rest = rest := by
  unfold storing
  split <;> rfl

lemma storing_writes {e : Json} (he : Stores f n e) (turn : Turn) (rest : Replay)
    (produced : List Nat) : Writes f digest n store
      (storing limit ⟨digest, some n⟩ e turn rest store produced).store := by
  unfold storing
  split
  · rename_i store' hput
    exact .inr ⟨limit, e, he, hput⟩
  · exact .inl rfl

lemma resume_pass (h : Reaches f skip) (fuel : Nat) :
    ∀ (k position : Nat) (produced : List Nat), position + k = skip →
      ∃ produced', resume f digest limit skip (k + fuel) position store produced =
        resume f digest limit skip fuel skip store produced' := by
  intro k
  induction k with
  | zero =>
    intro position produced hk
    obtain rfl : position = skip := hk
    exact ⟨produced, by rw [Nat.zero_add]⟩
  | succ k ih =>
    intro position produced hk
    -- This turn was delivered before, so the function gives a value at it.
    obtain ⟨v, hv⟩ := h position (by omega)
    obtain ⟨produced', hrest⟩ := ih (position + 1) (produced ++ [position]) (by omega)
    refine ⟨produced', ?_⟩
    rw [← hrest, Nat.add_right_comm, resume, hv]
    exact if_neg (by omega)

lemma resume_delivers (h : Reaches f n) (hskip : skip ≤ n) (produced : List Nat) :
    Delivers f digest n store (resume f digest limit skip 1 n store produced) := by
  have hplain := plain_of_reaches h
  cases hfn : f n with
  | value v =>
    have hstep : resume f digest limit skip 1 n store produced =
        storing limit ⟨digest, some n⟩ (entry v) (.value v) (.running (n + 1) skip) store
          (produced ++ [n]) := by
      rw [resume, hfn]
      exact if_pos hskip
    rw [hstep]
    refine ⟨?_, ?_, storing_writes ⟨h, .inl ⟨v, hfn, rfl⟩⟩ _ _ _⟩
    · rw [storing_turn, hplain, hfn]
    · rw [storing_rest]
      exact ⟨rfl, by omega, reaches_succ_iff.mpr ⟨h, v, hfn⟩⟩
  | stop =>
    have hstep : resume f digest limit skip 1 n store produced =
        storing limit ⟨digest, some n⟩ endEntry .stop .ended store produced := by
      rw [resume, hfn]
    rw [hstep]
    refine ⟨?_, ?_, storing_writes ⟨h, .inr ⟨hfn, rfl⟩⟩ _ _ _⟩
    · rw [storing_turn, hplain, hfn]
    · rw [storing_rest]
      exact not_reaches_succ (by simp [hfn])
  | refuse e =>
    have hstep : resume f digest limit skip 1 n store produced =
        ⟨.refuse e, .ended, store, produced, false⟩ := by
      rw [resume, hfn]
    rw [hstep]
    exact ⟨by rw [hplain, hfn], not_reaches_succ (by simp [hfn]), .inl rfl⟩

lemma stored_delivers {e : Json} (he : store.get? ⟨digest, some n⟩ = some e) (h : Stores f n e) :
    Delivers f digest n store (next f digest limit store (.stored n)) := by
  have hplain := plain_of_reaches h.1
  have hentry := h.ofEntry
  cases hfn : f n with
  | value v =>
    have hstep : next f digest limit store (.stored n) =
        ⟨.value v, .stored (n + 1), store, [], false⟩ := by
      simp only [next, he, hentry, hfn]
    rw [hstep]
    exact ⟨by rw [hplain, hfn], ⟨rfl, reaches_succ_iff.mpr ⟨h.1, v, hfn⟩⟩, .inl rfl⟩
  | stop =>
    have hstep : next f digest limit store (.stored n) = ⟨.stop, .ended, store, [], false⟩ := by
      simp only [next, he, hentry, hfn]
    rw [hstep]
    exact ⟨by rw [hplain, hfn], not_reaches_succ (by simp [hfn]), .inl rfl⟩
  | refuse e =>
    exact absurd hfn (h.ne_refuse e)

lemma next_delivers {r : Replay} (hr : At f n r) (hs : Agrees f digest store) (limit : Nat) :
    Delivers f digest n store (r.next f digest limit store) := by
  cases r with
  | stored index =>
    obtain ⟨rfl, hreach⟩ := hr
    cases hget : store.get? ⟨digest, some index⟩ with
    | none =>
      have hstep : next f digest limit store (.stored index) =
          resume f digest limit index (index + 1) 0 store [] := by
        simp only [next, hget]
      rw [hstep]
      obtain ⟨produced, hpass⟩ := resume_pass hreach 1 index 0 [] (by omega)
      rw [hpass]
      exact resume_delivers hreach (Nat.le_refl _) produced
    | some e => exact stored_delivers hget (hs index e hget)
  | running position skip =>
    obtain ⟨rfl, hskip, hreach⟩ := hr
    -- A function that is running has passed over everything that it has to.
    have hfuel : skip - position + 1 = 1 := by omega
    rw [next, hfuel]
    exact resume_delivers hreach hskip []
  | ended =>
    have hnext : ¬ Reaches f (n + 1) := fun h => hr (reaches_succ_iff.mp h).1
    exact ⟨(plain_of_not_reaches hr).symm, hnext, .inl rfl⟩

end Replay

end SetTop
