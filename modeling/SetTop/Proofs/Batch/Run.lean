import SetTop.Batch.Run
import SetTop.Proofs.Act

/-!
When a batch goes on, and how it ends.

`Launches` is a batch as it is meant: tests are launched as long as there are any and each is
tolerated. What is counted on the way tells all that the status depends on.
-/

namespace SetTop.Batch

open Act List Launch

/-- No error without recovery was left, and the test passed, or failed in a way that is put up with. -/
def Launch.Tolerated (k : Nat) (l : Launch) : Prop :=
  l.unrecoverable = false ∧ (l.status = 0 ∨ 2 ≤ l.status ∧ 1 ≤ k ∨ 2 ≤ k)

lemma Launch.goesOn_iff {k : Nat} {l : Launch} : l.goesOn k = true ↔ l.Tolerated k := by
  unfold goesOn Tolerated
  grind

inductive Launches (o : Options) : Order → Session → List Launch → Session → Prop
  | stop {order order' s s'} (hnext : order.next.run s = (.ok (.stop, order'), s')) :
      Launches o order s [] s'
  | last {order order' s s₁ s' t l} (hnext : order.next.run s = (.ok (.test t, order'), s₁))
      (hlaunch : (launch o t).run s₁ = (.ok l, s')) (hend : ¬l.Tolerated o.keepGoing) :
      Launches o order s [l] s'
  | cons {order order' s s₁ s₂ s' t l ls} (hnext : order.next.run s = (.ok (.test t, order'), s₁))
      (hlaunch : (launch o t).run s₁ = (.ok l, s₂)) (hgoes : l.Tolerated o.keepGoing)
      (hrest : Launches o order' s₂ ls s') : Launches o order s (l :: ls) s'

variable {o : Options} {order order' : Order} {s s₁ s₂ s' : Session} {c c' : Tally} {t : TestCase}
  {l : Launch} {ls : List Launch} {fuel : Nat}

lemma run_runAll_test (hnext : order.next.run s = (.ok (.test t, order'), s₁))
    (hlaunch : (launch o t).run s₁ = (.ok l, s₂)) :
    (runAll o (fuel + 1) c order).run s = if l.goesOn o.keepGoing then
      (runAll o fuel (c.count l) order').run s₂ else (.ok (c.count l), s₂) := by
  rw [runAll, bind_of_ok hnext]
  rw [bind_of_ok hlaunch]
  split <;> rfl

lemma Launches.run_runAll (h : Launches o order s ls s') (hfuel : ls.length < fuel) :
    (runAll o fuel c order).run s = (.ok (ls.foldl .count c), s') := by
  induction h generalizing fuel c with
  | stop hnext =>
    obtain ⟨fuel, rfl⟩ := Nat.exists_eq_add_one.2 hfuel
    rw [runAll, bind_of_ok hnext]
    rfl
  | last hnext hlaunch hend =>
    obtain ⟨fuel, rfl⟩ := Nat.exists_eq_add_one.2 (Nat.zero_lt_of_lt hfuel)
    rw [run_runAll_test hnext hlaunch, if_neg (mt goesOn_iff.1 hend)]
    rfl
  | cons hnext hlaunch hgoes hrest ih =>
    obtain ⟨fuel, rfl⟩ := Nat.exists_eq_add_one.2 (Nat.zero_lt_of_lt hfuel)
    rw [run_runAll_test hnext hlaunch, if_pos (goesOn_iff.2 hgoes),
      ih (Nat.lt_of_succ_lt_succ hfuel)]
    rfl

lemma exists_launches (h : (runAll o fuel c order).run s = (.ok c', s')) :
    ∃ ls, Launches o order s ls s' ∧ c' = ls.foldl .count c := by
  induction fuel generalizing c order s with
  | zero => cases h
  | succ fuel ih =>
    obtain ⟨⟨n, order'⟩, s₁, hnext, h'⟩ := bind_eq_ok h
    cases n with
    | stop =>
      obtain ⟨rfl, rfl⟩ := h'
      exact ⟨[], .stop hnext, rfl⟩
    | stuck => cases h'
    | test t =>
      obtain ⟨l, s₂, hlaunch, -⟩ := bind_eq_ok h'
      rw [run_runAll_test hnext hlaunch] at h
      split at h
      · next hgoes =>
        obtain ⟨ls, hls, rfl⟩ := ih h
        exact ⟨l :: ls, .cons hnext hlaunch (goesOn_iff.1 hgoes) hls, rfl⟩
      · next hend =>
        cases h
        exact ⟨[l], .last hnext hlaunch (mt goesOn_iff.2 hend), rfl⟩

lemma foldl_count (ls : List Launch) (c : Tally) : (ls.foldl .count c).runs = c.runs + ls.length ∧
      (ls.foldl .count c).failures = c.failures + ls.countP (·.status != 0) := by
  induction ls generalizing c with
  | nil => exact ⟨rfl, rfl⟩
  | cons l ls ih =>
    rw [foldl_cons, (ih _).1, (ih _).2, Tally.count]
    refine ⟨Nat.add_right_comm .., ?_⟩
    by_cases hl : l.status = 0 <;> simp [hl, Nat.add_assoc, Nat.add_comm]

/-- The batch ends with the status of its only test, and otherwise with whether a test failed. -/
structure EndsWith (ls : List Launch) (status : Int) : Prop where
  zero_iff : status = 0 ↔ ∀ l ∈ ls, l.status = 0
  only : ∀ l, ls = [l] → status = l.status
  one : ls.length ≠ 1 → status ≠ 0 → status = 1

lemma endsWith_status (ls : List Launch) : EndsWith ls (ls.foldl .count {} : Tally).status := by
  obtain ⟨hruns, hfailures⟩ := foldl_count ls {}
  by_cases hone : ls.length = 1
  · obtain ⟨l, rfl⟩ := length_eq_one_iff.1 hone
    exact ⟨by simp [Tally.status, Tally.count], by simp [Tally.status, Tally.count], (absurd hone ·)⟩
  · rw [Tally.status, hruns, hfailures]
    refine ⟨?_, by rintro l rfl; exact absurd rfl hone, fun _ => ?_⟩
    · simp [hone]
    · simp [hone]

/-- **How a batch runs.** If the command ends, then it launched tests until one was not tolerated or
there were no more, and the status is what these launches give. Conversely, such launches are what the
command does. -/
theorem run_launches {arguments : List String} {items : List Cli.Item}
    (hread : (Cli.read grammar arguments).run s = (.ok items, s₁))
    (hts : (s₁.bench.executables.lookup "ts").isSome) :
    (∀ status s', (run arguments).run s = (.ok status, s') →
      ∃ ls, Launches (.ofItems items) (.ofItems items) s₁ ls s' ∧ EndsWith ls status) ∧
    ∀ ls s', Launches (.ofItems items) (.ofItems items) s₁ ls s' →
      ls.length < limit s₁.bench (testsOf items) →
      ∃ status, (run arguments).run s = (.ok status, s') ∧ EndsWith ls status := by
  have hrun : (run arguments).run s =
      ((runAll (.ofItems items) (limit s₁.bench (testsOf items)) {} (.ofItems items)) >>=
        fun c => (pure c.status : Act Int)).run s₁ := by
    rw [run, bind_of_ok hread, bench, bind_assoc, bind_of_ok (run_get s₁), pure_bind,
      if_neg (by simpa using Option.isSome_iff_ne_none.1 hts)]
    rfl
  rw [hrun]
  refine ⟨fun status s' h => ?_, fun ls s' hls hfew => ?_⟩
  · obtain ⟨c, s₂, hall, h⟩ := bind_eq_ok h
    obtain ⟨ls, hls, rfl⟩ := exists_launches hall
    obtain ⟨rfl, rfl⟩ := h
    exact ⟨ls, hls, endsWith_status ls⟩
  · exact ⟨_, bind_of_ok (hls.run_runAll hfew), endsWith_status ls⟩

/-- One test, run once, that is killed. -/
theorem run_killed :
    let s : Session :=
      { bench.executables := [("ts", "")], bench.helpers := [{ status := -9 }] }
    ∃ s', (run ["-1", "a"]).run s = (.ok (-9), s') := by
  intro s
  let items : List Cli.Item := [.flag "once" none, .operand "test_name" ["a"]]
  have hread : (Cli.read grammar ["-1", "a"]).run s = (.ok items, s) := rfl
  have hlaunch : ((launch (.ofItems items) ["a"]).run s).1.toOption = some ⟨["a"], -9, false⟩ := by
    decide +kernel
  rcases hrun : (launch (.ofItems items) ["a"]).run s with ⟨_ | l, s'⟩ <;> rw [hrun] at hlaunch
  · cases hlaunch
  obtain rfl := Option.some.inj hlaunch
  obtain ⟨status, hrun, hends⟩ := (run_launches hread rfl).2 _ _
    (.last rfl hrun (mt goesOn_iff.2 (by decide))) (by decide)
  obtain rfl := hends.only _ rfl
  exact ⟨_, hrun⟩

end SetTop.Batch
