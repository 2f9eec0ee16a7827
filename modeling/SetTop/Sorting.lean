/-!
Sorting by binary insertion.

The run that the list begins with, ascending or strictly descending, is put in order first. Then
every further item is inserted behind the items that are not greater. Where the comparison is an
order this is the stable sorting of the list; it need not be one, as with undefined numbers.
-/

namespace SetTop

variable {α : Type}

/-- The longest front of a list in which no item comes before the one in front of it, and the rest.
-/
def ascendingRun (lt : α → α → Bool) (last : α) : List α → List α × List α
  | [] => ([], [])
  | a :: as =>
    if lt a last then ([], a :: as)
    else
      let (run, rest) := ascendingRun lt a as
      (a :: run, rest)

/-- The longest front of a list in which every item comes before the one in front of it, and the
rest. -/
def descendingRun (lt : α → α → Bool) (last : α) : List α → List α × List α
  | [] => ([], [])
  | a :: as =>
    if lt a last then
      let (run, rest) := descendingRun lt a as
      (a :: run, rest)
    else ([], a :: as)

def insertionPlace (lt : α → α → Bool) (sorted : Array α) (a : α) : (fuel low high : Nat) → Nat
  | 0, low, _ => low
  | fuel + 1, low, high =>
    if low < high then
      let middle := (low + high) / 2
      match sorted[middle]? with
      | some b =>
        if lt a b then insertionPlace lt sorted a fuel low middle
        else insertionPlace lt sorted a fuel (middle + 1) high
      | none => low
    else low

def insertSorted (lt : α → α → Bool) (sorted : Array α) (a : α) : Array α :=
  let place := insertionPlace lt sorted a (sorted.size + 1) 0 sorted.size
  sorted.extract 0 place ++ #[a] ++ sorted.extract place sorted.size

def sortBy (lt : α → α → Bool) (as : List α) : List α :=
  match as with
  | a :: b :: rest =>
    let (run, rest) :=
      if lt b a then
        let (run, rest) := descendingRun lt b rest
        ((a :: b :: run).reverse, rest)
      else
        let (run, rest) := ascendingRun lt b rest
        (a :: b :: run, rest)
    (rest.foldl (insertSorted lt) run.toArray).toList
  | as => as

end SetTop
