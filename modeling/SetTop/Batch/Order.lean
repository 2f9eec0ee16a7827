import SetTop.Dice

/-!
The order in which the tests of a batch run.

Tests run one after the other, or in an order left to chance. In the latter case each runs
once at first; from then on a test is drawn the more often the less time it takes, so that
every test gets the same share of the time.
-/

namespace SetTop.Batch

inductive Next (α : Type)
  | test (a : α)
  /-- there are no more tests -/
  | stop
  /-- the round starts again and again without a test in it -/
  | stuck
deriving DecidableEq

/-- Tests in order: those left in this round, and whether there is another round. -/
structure Rounds (α : Type) where
  tests : List α
  again : Bool
  left : List α

namespace Rounds

variable {α : Type}

def start (tests : List α) (again : Bool) : Rounds α := ⟨tests, again, tests⟩

def next (r : Rounds α) : Next α × Rounds α :=
  match r.left with
  | t :: rest => (.test t, { r with left := rest })
  | [] =>
    if !r.again then (.stop, r)
    else match r.tests with
      | t :: rest => (.test t, { r with left := rest })
      | [] => (.stuck, r)

def take : Nat → Rounds α → List α
  | 0, _ => []
  | n + 1, r =>
    match r.next with
    | (.test t, r) => t :: take n r
    | _ => []

end Rounds

def choiceAt {α : Type} (r : Num) : Num → List (α × Num) → Option α
  | _, [] => none
  | upTo, (a, weight) :: rest =>
    if (upTo + weight).gt r then some a else choiceAt r (upTo + weight) rest

/-- The sum of weights. Integers and fractions cannot be added if the integers are too large. -/
def totalWeight {α : Type} (choices : List (α × Num)) : Except Fault Num :=
  choices.foldlM (fun t (_, w) => t.plus w) (0 : Num)

def weightedChoice {α : Type} (choices : List (α × Num)) : Act α := do
  let total ← Act.ofExcept (totalWeight choices)
  let r ← Dice.uniform 0 total
  match choiceAt r 0 choices with
  | some a => return a
  | none => fail .assertion "Shouldn't get here"

structure Timing where
  seconds : Num := .real 0.0
  count : Nat := 0

structure Shuffle (α : Type) where
  tests : List α
  again : Bool
  hasTiming : α → Bool := fun _ => true
  /-- whether the order was drawn -/
  drawn : Bool := false
  left : List α := []
  timings : List (α × Timing) := []
  running : Option (α × Num) := none

namespace Shuffle

variable {α : Type} [BEq α] (s : Shuffle α)

/-- Draws the order. Each test has one timing, however often it is named. -/
def draw : Act (Shuffle α) := do
  if s.drawn then return s
  let order ← Dice.shuffle s.tests
  if !order.all s.hasTiming then failBelow .type
  let timings := order.foldl (fun acc t =>
    if acc.any (·.1 == t) then acc else acc ++ [(t, ({} : Timing))]) []
  return { s with drawn := true, left := order, timings := timings }

def settle : Act (Shuffle α) := do
  match s.running with
  | none => return s
  | some (t, since) =>
    let now ← clock
    let add (x : Timing) : Timing := ⟨x.seconds + (now - since), x.count + 1⟩
    return { s with
      running := none
      timings := s.timings.map fun (u, x) => if u == t then (u, add x) else (u, x) }

/-- The weights of the tests: runs per second. A test that took no time has none. -/
def weights (timings : List (α × Timing)) : Except Fault (List (α × Num)) :=
  timings.mapM fun (t, x) =>
    match Num.div? x.count x.seconds with
    | some w => .ok (t, w)
    | none => .error (.foreign .zeroDivision "float division by zero")

def launch (t : α) : Act (Next α × Shuffle α) := do
  let now ← clock
  return (.test t, { s with running := some (t, now) })

def next : Act (Next α × Shuffle α) := do
  let s ← s.draw
  let s ← s.settle
  match s.left with
  | t :: rest => launch { s with left := rest } t
  | [] =>
    if !s.again then return (.stop, s)
    else
      let t ← weightedChoice (← Act.ofExcept (weights s.timings))
      launch s t

end Shuffle

end SetTop.Batch
