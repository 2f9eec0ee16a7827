import SetTop.Batch.Order
import SetTop.Proofs.Act

/-!
Which tests are given, and when none can be.

A test runs between two requests, so each request is made in a session of its own (`Shuffle.ask`). In
the first round nothing can go wrong. After it a test that took no time has no weight, and a draw as
large as the sum of all weights chooses nothing.
-/

namespace SetTop.Batch

open Act List Dice

variable {α : Type}

/-! ### In order -/

def Rounds.answer (r : Rounds α) : Nat → Next α
  | 0 => r.next.1
  | i + 1 => r.next.2.answer i

/-- The test at a place of a list that is gone through once, or again and again. -/
def nth (tests : List α) (again : Bool) (i : Nat) : Next α :=
  match tests[if again then i % tests.length else i]? with
  | some t => .test t
  | none => if again then .stuck else .stop

lemma Rounds.answer_eq_nth {tests : List α} {k : Nat} (again : Bool) (i : Nat)
    (hk : k ≤ tests.length) :
    (⟨tests, again, tests.drop k⟩ : Rounds α).answer i = nth tests again (k + i) := by
  induction i generalizing k with
  | zero =>
    rcases Nat.lt_or_eq_of_le hk with hlt | rfl
    · rw [drop_eq_getElem_cons hlt]
      cases again <;> simp [answer, next, nth, Nat.mod_eq_of_lt hlt, hlt]
    · cases again <;> cases tests <;> simp [answer, next, nth]
  | succ i ih =>
    rcases Nat.lt_or_eq_of_le hk with hlt | rfl
    · rw [drop_eq_getElem_cons hlt, answer]
      exact (ih hlt).trans (congrArg _ (Nat.succ_add_eq_add_succ k i))
    · rw [drop_length, answer]
      cases again with
      | false => simpa [next, nth] using ih (Nat.le_refl _)
      | true =>
        cases tests with
        | nil => simpa [next, nth] using ih (Nat.zero_le _)
        | cons t rest =>
          refine (@ih 1 (by simp)).trans ?_
          simp [nth, Nat.add_comm 1 i]

/-! ### By weight -/

lemma eq_add_of_plus {a b c : Num} (h : a.plus b = .ok c) : c = a + b := by
  unfold Num.plus Num.add? Num.join? at h
  split at h
  · exact (Except.ok.inj h).symm
  · split at h
    · exact (Except.ok.inj h).symm
    · cases h

variable {ws : List (α × Num)} {sum total r : Num} {s s' : Session}

lemma mem_of_choiceAt {t : α} (h : choiceAt r sum ws = some t) : t ∈ ws.map (·.1) := by
  induction ws generalizing sum with
  | nil => cases h
  | cons w ws ih =>
    rw [choiceAt] at h
    split at h
    · exact Option.some.inj h ▸ mem_cons_self
    · exact mem_cons_of_mem _ (ih h)

lemma choiceAt_ne_none (hne : ws ≠ [])
    (htotal : ws.foldlM (fun t (_, w) => t.plus w) sum = .ok total) (h : total.gt r = true) :
    choiceAt r sum ws ≠ none := by
  induction ws generalizing sum with
  | nil => exact absurd rfl hne
  | cons w ws ih =>
    obtain ⟨next, hnext, htotal⟩ := exists_of_bind_eq_ok (foldlM_cons.symm.trans htotal)
    obtain rfl := eq_add_of_plus hnext
    rw [choiceAt]
    split
    · simp
    · next hgt =>
      refine ih ?_ htotal
      rintro rfl
      exact hgt (Except.ok.inj htotal ▸ h)

lemma weights_eq_ok {timings : List (α × Timing)} (h : Shuffle.weights timings = .ok ws) :
    ws.map (·.1) = timings.map (·.1) ∧ ∀ x ∈ timings, x.2.seconds.eq 0 = false := by
  induction timings generalizing ws with
  | nil => cases h; simp
  | cons x timings ih =>
    rw [Shuffle.weights, mapM_cons] at h
    obtain ⟨w, hw, h⟩ := exists_of_bind_eq_ok h
    obtain ⟨ws', hws, h⟩ := exists_of_bind_eq_ok h
    obtain ⟨hmap, htook⟩ := ih hws
    cases h
    dsimp only at hw
    split at hw
    · next hdiv =>
      cases hw
      refine ⟨by rw [map_cons, map_cons, hmap], forall_mem_cons.2 ⟨?_, htook⟩⟩
      refine Bool.eq_false_iff.2 fun hzero => ?_
      simp [Num.div?, hzero] at hdiv
    · cases hw

def nothingChosen : Fault := .failure .assertion "Shouldn't get here"

lemma run_weightedChoice {more : List Draw} (htotal : totalWeight ws = .ok total)
    (hs : s.bench.draws = .number r :: more) :
    ((weightedChoice ws).run s).1 = match choiceAt r 0 ws with
      | some t => .ok t
      | none => .error nothingChosen := by
  rw [weightedChoice, htotal, bind_of_ok (run_ofExcept _ s)]
  simp only [uniform, nextNumber, Dice.next, note, modifyBench, run_bind, run_modify,
    run_bench, hs, run_pure]
  cases choiceAt r 0 ws <;> rfl

/-! ### By chance -/

namespace Shuffle

variable [BEq α] {o o' : Shuffle α} {tests left order : List α} {again : Bool} {n : Next α}

/-- The requests that are made in some sessions, one after the other. -/
def ask (o : Shuffle α) : List Session → Except Fault (List (Next α) × Shuffle α)
  | [] => .ok ([], o)
  | s :: later => do
    let (n, o) ← (o.next.run s).1
    let (ns, o) ← ask o later
    return (n :: ns, o)

/-- An order of tests that was drawn, with those that are left in the first round. -/
structure Drawn (tests : List α) (again : Bool) (left : List α) (o : Shuffle α) : Prop where
  drawn : o.drawn = true
  again : o.again = again
  left : o.left = left
  timings : ∀ x ∈ o.timings, x.1 ∈ tests
  timed : tests ≠ [] → o.timings ≠ []

lemma keys_foldl (order : List α) (acc : List (α × Timing)) :
    let timings := order.foldl (fun acc t =>
      if acc.any (·.1 == t) then acc else acc ++ [(t, ({} : Timing))]) acc
    (∀ x ∈ timings, x ∈ acc ∨ x.1 ∈ order) ∧ (acc ≠ [] ∨ order ≠ [] → timings ≠ []) := by
  induction order generalizing acc with
  | nil => simp
  | cons t order ih =>
    rw [foldl_cons]
    split
    · next h =>
      have hne : acc ≠ [] := by rintro rfl; cases h
      exact ⟨fun x hx => ((ih acc).1 x hx).imp_right (mem_cons_of_mem t), fun _ => (ih acc).2 (.inl hne)⟩
    · obtain ⟨hkeys, hne⟩ := ih (acc ++ [(t, ({} : Timing))])
      exact ⟨fun x hx => by grind, fun _ => hne (.inl (by simp))⟩

lemma exists_drawn (hshuffle : (shuffle tests).run s = (.ok order, s')) (horder : order ~ tests) :
    ∃ o, (draw { tests := tests, again := again }).run s = (.ok o, s') ∧ Drawn tests again order o := by
  obtain ⟨hkeys, hne⟩ := keys_foldl order []
  refine ⟨{ tests := tests, again := again, drawn := true, left := order, timings := _ }, ?_,
    ⟨rfl, rfl, rfl, fun x hx => ?_, fun h => hne (.inr ?_)⟩⟩
  · rw [draw, if_neg (by simp), bind_of_ok hshuffle]
    simp
  · simpa [horder.mem_iff] using hkeys x hx
  · rintro rfl
    exact h (nil_perm.1 horder)

namespace Drawn

lemma run_draw (h : Drawn tests again left o) (s : Session) : o.draw.run s = (.ok o, s) := by
  rw [draw, if_pos h.drawn]
  rfl

omit [BEq α] in
lemma launched (h : Drawn tests again left o) (rest : List α) (t : α) (since : Num) :
    Drawn tests again rest { o with left := rest, running := some (t, since) } :=
  ⟨h.drawn, h.again, rfl, h.timings, h.timed⟩

lemma run_settle (h : Drawn tests again left o) (s : Session) : ∃ o' s',
    o.settle.run s = (.ok o', s') ∧ Drawn tests again left o' ∧ s'.bench.draws = s.bench.draws := by
  cases hrunning : o.running with
  | none => exact ⟨o, s, by simp [settle, hrunning], h, rfl⟩
  | some x =>
    let add (y : Timing) : Timing := ⟨y.seconds + (s.bench.clock - x.2), y.count + 1⟩
    refine ⟨{ o with running := none, timings := o.timings.map fun z =>
        if z.1 == x.1 then (z.1, add z.2) else z }, (clock.run s).2, ?_,
      ⟨h.drawn, h.again, h.left, ?_, fun hne => by simpa using h.timed hne⟩, rfl⟩
    · simp only [settle, hrunning]
      rfl
    · intro y hy
      obtain ⟨z, hz, rfl⟩ := mem_map.1 hy
      have := h.timings z hz
      grind

/-- Where a request leads once the order was drawn. -/
lemma run_next (h : Drawn tests again left o) (hrun : o.settle.run s = (.ok o', s')) :
    o.next.run s = (match left with
      | t :: rest => launch { o' with left := rest } t
      | [] => if !again then pure (.stop, o') else do
        let t ← weightedChoice (← Act.ofExcept (weights o'.timings))
        launch o' t).run s' := by
  obtain ⟨o'', s'', hrun', h', -⟩ := h.run_settle s
  obtain ⟨rfl, rfl⟩ : o'' = o' ∧ s'' = s' := by simpa [hrun'] using hrun
  cases left <;> rw [next, bind_of_ok (h.run_draw s), bind_of_ok hrun, h'.left, h'.again]

lemma of_next (h : Drawn tests again left o) (hnext : (o.next.run s).1 = .ok (n, o')) :
    Drawn tests again left.tail o' := by
  obtain ⟨o₁, s₁, hrun, h₁, -⟩ := h.run_settle s
  rw [h.run_next hrun] at hnext
  cases left with
  | cons t rest =>
    cases hnext
    exact h₁.launched ..
  | nil =>
    dsimp only at hnext
    split at hnext
    · cases hnext
      exact h₁
    · rcases hchoice : (Act.ofExcept (weights o₁.timings) >>= weightedChoice).run s₁ with ⟨e | t, s₂⟩
      · rw [← bind_assoc, bind_of_error hchoice] at hnext
        cases hnext
      · rw [← bind_assoc, bind_of_ok hchoice] at hnext
        cases hnext
        simpa [h₁.left] using h₁.launched [] t _

lemma ask_left (h : Drawn tests again left o) {sessions : List Session}
    (hle : sessions.length ≤ left.length) :
    ∃ o', o.ask sessions = .ok ((left.take sessions.length).map .test, o') := by
  induction sessions generalizing left o with
  | nil => exact ⟨o, rfl⟩
  | cons s later ih =>
    obtain ⟨t, left, rfl⟩ := exists_cons_of_length_pos (Nat.zero_lt_of_lt hle)
    obtain ⟨o₁, s₁, hrun, h₁, -⟩ := h.run_settle s
    obtain ⟨o', hask⟩ := ih (h₁.launched left t s₁.bench.clock) (Nat.le_of_succ_le_succ hle)
    refine ⟨o', ?_⟩
    rw [ask, h.run_next hrun]
    change (ask _ later >>= _) = _
    rw [hask]
    rfl

lemma of_ask (h : Drawn tests again left o) {sessions : List Session} {ns : List (Next α)}
    (hask : o.ask sessions = .ok (ns, o')) : Drawn tests again (left.drop sessions.length) o' := by
  induction sessions generalizing left o ns with
  | nil =>
    cases hask
    exact h
  | cons s later ih =>
    obtain ⟨⟨n, o₁⟩, hnext, hask⟩ := exists_of_bind_eq_ok hask
    obtain ⟨⟨ns', o₂⟩, hlater, hask⟩ := exists_of_bind_eq_ok hask
    cases hask
    rw [length_cons, ← drop_tail]
    exact ih (h.of_next hnext) hlater

end Drawn

/-- **The requests for a test.** Tests in order are given round by round; without any, no answer ever
comes if there is always another round. An order left to chance gives each test once. It ends then, or
goes on as long as each test has taken some time and what is drawn is below the sum of the weights. A
draw that no partial sum of the weights exceeds is a failure. -/
theorem requests_answered (hshuffle : (Dice.shuffle tests).run s = (.ok order, s'))
    (horder : order ~ tests) :
    (∀ i, (Rounds.start tests again).answer i = nth tests again i) ∧
    ∃ o₀ : Shuffle α, (next { tests := tests, again := again }).run s = o₀.next.run s' ∧
      ∀ sessions : List Session,
      (sessions.length ≤ tests.length →
        ∃ o, o₀.ask sessions = .ok ((order.take sessions.length).map .test, o)) ∧
      ∀ ns o, o₀.ask sessions = .ok (ns, o) → tests.length ≤ sessions.length → ∀ u, ∃ o',
        (o.settle.run u).1 = .ok o' ∧ (again = false → (o.next.run u).1 = .ok (.stop, o')) ∧
        (again = true →
          (∀ answer, (o.next.run u).1 = .ok answer → ∀ x ∈ o'.timings, x.2.seconds.eq 0 = false) ∧
          ∀ ws total r more, weights o'.timings = .ok ws → totalWeight ws = .ok total →
            u.bench.draws = .number r :: more →
            (tests ≠ [] → total.gt r = true → ∃ t ∈ tests, ∃ o'', (o.next.run u).1 = .ok (.test t, o'')) ∧
            (choiceAt r 0 ws = none → (o.next.run u).1 = .error nothingChosen)) := by
  refine ⟨fun i => ?_, ?_⟩
  · simpa [Rounds.start] using Rounds.answer_eq_nth again i (Nat.zero_le tests.length)
  obtain ⟨o₀, hdraw, h₀⟩ := @exists_drawn _ _ _ _ _ _ again hshuffle horder
  rw [← horder.length_eq]
  refine ⟨o₀, ?_, fun sessions => ⟨h₀.ask_left, ?_⟩⟩
  · rw [next, bind_of_ok hdraw, next, bind_of_ok (h₀.run_draw s')]
  intro ns o hask hle u
  have h := h₀.of_ask hask
  rw [drop_eq_nil_of_le hle] at h
  obtain ⟨o', u', hrun, h', hdraws⟩ := h.run_settle u
  refine ⟨o', by rw [hrun], ?_, ?_⟩
  · rintro rfl
    rw [h.run_next hrun]
    rfl
  · rintro rfl
    rw [h.run_next hrun]
    refine ⟨fun answer hanswer => ?_, fun ws total r more hws htotal hu => ?_⟩
    · cases hws : weights o'.timings with
      | ok ws => exact (weights_eq_ok hws).2
      | error e =>
        rw [hws] at hanswer
        cases hanswer
    · obtain ⟨hkeys, -⟩ := weights_eq_ok hws
      have hchoice := run_weightedChoice htotal (hdraws.trans hu)
      rcases hrun : (weightedChoice ws).run u' with ⟨a, u₁⟩
      rw [hrun] at hchoice
      simp only [Bool.not_true, Bool.false_eq_true, if_false, hws]
      rw [bind_of_ok (run_ofExcept _ u')]
      refine ⟨fun htests hgt => ?_, fun hnone => ?_⟩
      · have hne : ws ≠ [] := fun hnil => h'.timed htests (by simpa [hnil] using hkeys.symm)
        obtain ⟨t, ht⟩ := Option.ne_none_iff_exists'.1 (choiceAt_ne_none hne htotal hgt)
        obtain ⟨x, hx, rfl⟩ := mem_map.1 (hkeys ▸ mem_of_choiceAt ht)
        obtain rfl : a = .ok x.1 := by simpa [ht] using hchoice
        exact ⟨x.1, h'.timings x hx, _, congrArg _ (bind_of_ok hrun)⟩
      · obtain rfl : a = .error nothingChosen := by simpa [hnone] using hchoice
        rw [bind_of_error hrun]

def swapping : Session where
  bench.draws := [.permutation [1, 0]]

theorem swapped_pair_is_given : ∃ (s' : Session) (o₀ : Shuffle String),
    (Dice.shuffle ["a", "b"]).run swapping = (.ok ["b", "a"], s') ∧
    (next { tests := ["a", "b"], again := false }).run swapping = o₀.next.run s' ∧
    ∀ s₁ s₂, ∃ o, o₀.ask [s₁, s₂] = .ok ([.test "b", .test "a"], o) ∧
      ∀ u, ∃ o', (o.next.run u).1 = .ok (.stop, o') := by
  have hshuffle : (shuffle ["a", "b"]).run swapping =
    (.ok ["b", "a"], ((shuffle ["a", "b"]).run swapping).2) := rfl
  obtain ⟨-, o₀, hfirst, hrequests⟩ := requests_answered hshuffle (Perm.swap ..)
  refine ⟨_, o₀, hshuffle, hfirst, fun s₁ s₂ => ?_⟩
  obtain ⟨hround, hlater⟩ := hrequests [s₁, s₂]
  obtain ⟨o, hask⟩ := hround (Nat.le_refl 2)
  refine ⟨o, hask, fun u => ?_⟩
  obtain ⟨o', -, hstop, -⟩ := hlater _ o hask (Nat.le_refl 2) u
  exact ⟨o', hstop rfl⟩

end Shuffle

end SetTop.Batch
