import SetTop.Cache.Key
import SetTop.Cache.Replay

/-!
Using a store.

Results are kept only inside of `within`. A function that was called before with the same
arguments is not called again.
-/

namespace SetTop.Cache

def defaultFile : Act String := do
  let home ← match (← lookupVariable "XDG_CACHE_HOME").filter (!·.isEmpty) with
    | some home => pure home
    | none => pure ((← requiredVariable "HOME") ++ "/.cache")
  ensureDirectory (home ++ "/stbt")
  return home ++ "/stbt/cache.lmdb"

def within {α : Type} (file : Option String) (a : Act α) : Act α := do
  match (← lookupVariable "STBT_DISABLE_CACHING").filter (!·.isEmpty) with
  | some _ => a
  | none =>
    let file ← match file with
      | some f => pure f
      | none => defaultFile
    if (← get).cache.isSome then fail .assertion ""
    modify fun s => { s with cache := some { file := file } }
    Act.ensuring a (modify fun s => { s with cache := none })

def store (file : String) : Act CacheStore := return ((← bench).stores.lookup file).getD {}

def setStore (file : String) (c : CacheStore) : Act Unit :=
  modifyBench fun b => { b with stores := (file, c) :: b.stores.filter (·.1 != file) }

def reportFull (scope : CacheScope) : Act Unit := do
  if !scope.warned then
    complain ("Image processing cache is full.  This will cause degraded performance.  Consider " ++
      "deleting the cache file (" ++ scope.file ++ ") to purge old results\n")
    modify fun s => { s with cache := some { scope with warned := true } }

def put (scope : CacheScope) (key : CacheKey) (v : Json) : Act Unit := do
  match (← store scope.file).put? (← bench).storeLimit key v with
  | some c => setStore scope.file c
  | none => reportFull scope

variable (function : String)

/-- The store in use and the digest of a call; `none` if its results are not to be kept. -/
def digest? (dependsOn : Json) (arguments : List (String × Argument)) :
    Act (Option (CacheScope × String)) := do
  match (← get).cache with
  | none => return none
  | some scope =>
    match callDigest function dependsOn arguments with
    | .ok d => return some (scope, d)
    | .error .effects => return none
    | .error (.fault e) => throw e

/-- Calls a function, unless its result is known: the result, and whether the function was
called. -/
def remember (dependsOn : Json) (arguments : List (String × Argument))
    (call : Act Json) : Act (Json × Bool) := do
  match ← digest? function dependsOn arguments with
  | none => return (← call, true)
  | some (scope, d) =>
    match (← store scope.file).get? ⟨d, none⟩ with
    | some v => return (v, false)
    | none =>
      let v ← call
      put scope ⟨d, none⟩ v
      return (v, true)

def turn (f : Nat → Turn) (d : String) (r : Replay) : Act (Replay.Step) := do
  match (← get).cache with
  | none => failBelow .attribute
  | some scope =>
    let step := r.next f d (← bench).storeLimit (← store scope.file)
    setStore scope.file step.store
    if step.overflow then reportFull scope
    return step

/-- Collects at most `fuel` results: those, the turns at which the function gave something, and how
that ended. -/
def collect (f : Nat → Turn) (d : String) : Nat → Replay → List Json → List Nat →
    Act (List Json × List Nat × Option Fault)
  | 0, _, found, produced => return (found, produced, none)
  | fuel + 1, r, found, produced => do
    let step ← turn f d r
    let produced := produced ++ step.produced
    match step.turn with
    | .value v => collect f d fuel step.rest (found ++ [v]) produced
    | .stop => return (found, produced, none)
    | .refuse e => return (found, produced, some e)

def collectPlain (f : Nat → Turn) : Nat → Nat → List Json → List Nat →
    List Json × List Nat × Option Fault
  | 0, _, found, produced => (found, produced, none)
  | fuel + 1, position, found, produced =>
    match f position with
    | .value v => collectPlain f fuel (position + 1) (found ++ [v]) (produced ++ [position])
    | .stop => (found, produced, none)
    | .refuse e => (found, produced, some e)

/-- Calls a function for at most `limit` results, unless they are known: as `collect` gives them. -/
def rememberMany (dependsOn : Json) (arguments : List (String × Argument))
    (f : Nat → Turn) (limit : Nat) : Act (List Json × List Nat × Option Fault) := do
  match ← digest? function dependsOn arguments with
  | none => return collectPlain f limit 0 [] []
  | some (_, d) => collect f d limit (.stored 0) [] []

end SetTop.Cache
