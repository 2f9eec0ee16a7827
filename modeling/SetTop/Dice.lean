import SetTop.Session

/-!
Chance.

Every throw is entered in the journal and takes the next of the throws laid out on the
bench.
-/

namespace SetTop.Dice

def next : Act Draw := do
  match (← bench).draws with
  | [] => throw (.exhausted "random")
  | d :: rest =>
    modifyBench fun b => { b with draws := rest }
    return d

def nextNumber : Act Num := do
  match ← next with
  | .number n => return n
  | .permutation _ => failBelow .type

def integer (low high : Int) : Act Int := do
  note (.randint low high)
  return ((← nextNumber).truncate?).getD 0

def uniform (low high : Num) : Act Num := do
  note (.uniform low high)
  nextNumber

/-- The item at a place; negative places count from the end. -/
def itemAt {α : Type} (xs : List α) (i : Int) : Act α := do
  let i := if i < 0 then i + xs.length else i
  match if i < 0 then none else xs[i.toNat]? with
  | some x => return x
  | none => failBelow .index "list index out of range"

def shuffle {α : Type} (xs : List α) : Act (List α) := do
  note (.shuffle xs.length)
  match ← next with
  | .permutation p => p.mapM (itemAt xs)
  | .number _ => failBelow .type

end SetTop.Dice
