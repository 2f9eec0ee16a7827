import SetTop.Json.Basic

/-!
A store of results on disk.

Results are kept under keys. A store has room for so many entries; once it is full nothing
more can be put in.
-/

namespace SetTop

/-- The key of a result: the digest of a call, and the number of one of several results. Digests
stand for themselves here. -/
structure CacheKey where
  digest : String
  part : Option Nat := none
deriving DecidableEq

structure CacheStore where
  entries : List (CacheKey × Json) := []

namespace CacheStore

def get? (s : CacheStore) (k : CacheKey) : Option Json := s.entries.lookup k

/-- Puts a result in; `none` if the store is full. -/
def put? (s : CacheStore) (limit : Nat) (k : CacheKey) (v : Json) : Option CacheStore :=
  if limit ≤ s.entries.length then none
  else some ⟨(k, v) :: s.entries.filter (·.1 != k)⟩

end CacheStore

structure CacheScope where
  file : String
  warned : Bool := false

end SetTop
