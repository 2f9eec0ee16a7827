import SetTop.Cache.Store
import SetTop.Fault

/-!
Results that come one after the other.

`Replay` delivers the results of a function from a store as long as it has them; then it runs the
function from its start, passes over what was delivered already, and delivers and stores the rest.
The end is stored too.
-/

namespace SetTop

inductive Turn
  | value (v : Json)
  | stop
  | refuse (e : Fault)

inductive Replay
  /-- the results before `index` came from the store -/
  | stored (index : Nat)
  /-- the function was run up to `position`, and delivers from `skip` on -/
  | running (position skip : Nat)
  | ended
deriving DecidableEq

namespace Replay

def entry (v : Json) : Json := .list [v, .null]

def endEntry : Json := .list [.null, .text "StopIteration"]

def ofEntry : Json → Turn
  | .list [v, mark] => if mark.isTrue then .stop else .value v
  | _ => .refuse (.foreign .value "")

/-- One turn of a delivery: what it gave, how far it has come, the store afterwards, the turns at
which the function gave something, and whether the store was too full. -/
structure Step where
  turn : Turn
  rest : Replay
  store : CacheStore
  produced : List Nat := []
  overflow : Bool := false

def storing (limit : Nat) (key : CacheKey) (e : Json) (turn : Turn) (rest : Replay)
    (store : CacheStore) (produced : List Nat) : Step :=
  match store.put? limit key e with
  | some store => ⟨turn, rest, store, produced, false⟩
  | none => ⟨turn, rest, store, produced, true⟩

/-- Runs the function from `position` until it delivers, at most `fuel` turns more. -/
def resume (f : Nat → Turn) (digest : String) (limit skip : Nat) :
    Nat → Nat → CacheStore → List Nat → Step
  | 0, _, store, produced => ⟨.stop, .ended, store, produced, false⟩
  | fuel + 1, position, store, produced =>
    let key : CacheKey := ⟨digest, some position⟩
    match f position with
    | .value v =>
      let produced := produced ++ [position]
      if skip ≤ position then
        storing limit key (entry v) (.value v) (.running (position + 1) skip) store produced
      else resume f digest limit skip fuel (position + 1) store produced
    | .stop => storing limit key endEntry .stop .ended store produced
    | .refuse e => ⟨.refuse e, .ended, store, produced, false⟩

def next (f : Nat → Turn) (digest : String) (limit : Nat) (store : CacheStore) : Replay → Step
  | .stored index =>
    match store.get? ⟨digest, some index⟩ with
    | none => resume f digest limit index (index + 1) 0 store []
    | some e =>
      match ofEntry e with
      | .value v => ⟨.value v, .stored (index + 1), store, [], false⟩
      | t => ⟨t, .ended, store, [], false⟩
  | .running position skip => resume f digest limit skip (skip - position + 1) position store []
  | .ended => ⟨.stop, .ended, store, [], false⟩

end Replay

end SetTop
