import SetTop.Bench.Basic

/-!
Reading from a peer.

What a peer says arrives in chunks. A missing chunk is a pause that is longer than the
reader waits, an empty one says that the peer has closed the connection, as does the
end of the list. Reading is a function on the chunks that are still to come.
-/

namespace SetTop

/-- What arrives at once; `none` is a pause. -/
abbrev Chunk := Option (List Char)

inductive StreamEnd
  | closed
  | paused
  | garbled
deriving DecidableEq

def StreamEnd.fault : StreamEnd → Fault
  | .closed => .foreign .stopIteration ""
  | .paused => .timedOut
  | .garbled => .foreign .encoding ""

namespace Stream

def receive (limit : Nat) : List Chunk → Except StreamEnd (List Char) × List Chunk
  | [] => (.error .closed, [])
  | none :: rest => (.error .paused, rest)
  | some c :: rest =>
    if c.isEmpty then (.error .closed, rest)
    else if c.length ≤ limit then (.ok c, rest)
    else (.ok (c.take limit), some (c.drop limit) :: rest)

def receiveExactly : Nat → List Chunk → Except StreamEnd (List Char) × List Chunk
  | 0, s => (.ok [], s)
  | _ + 1, [] => (.error .closed, [])
  | _ + 1, none :: rest => (.error .paused, rest)
  | n + 1, some c :: rest =>
    if c.isEmpty then (.error .closed, rest)
    else if n + 1 < c.length then (.ok (c.take (n + 1)), some (c.drop (n + 1)) :: rest)
    else
      let (more, rest) := receiveExactly (n + 1 - c.length) rest
      (more.map (c ++ ·), rest)

def all (chunks : List Chunk) : List Char := (chunks.map fun c => c.getD []).flatten

def size (chunks : List Chunk) : Nat := (all chunks).length

/-- Cuts a text behind each separator: the records, and what follows the last one. -/
def cutRecords (sep cs : List Char) : List (List Char) × List Char :=
  let parts := Text.splitOn sep cs
  (parts.dropLast, parts.getLastD [])

/-- The records in a stream, given what was received before; and why there are no more. -/
def recordsFrom (sep : List Char) : List Char → List Chunk → List (List Char) × StreamEnd
  | _, [] => ([], .closed)
  | _, none :: _ => ([], .paused)
  | buffer, some c :: rest =>
    if c.isEmpty then ([], .closed)
    else
      let (done, buffer) := cutRecords sep (buffer ++ c)
      let (more, reason) := recordsFrom sep buffer rest
      (done ++ more, reason)

def records (sep : List Char) (chunks : List Chunk) : List (List Char) × StreamEnd :=
  recordsFrom sep [] chunks

/-- The records in a stream that ends. A separator must not be empty. -/
def readRecords (sep : List Char) (chunks : List Chunk) : Except Fault (List (List Char)) :=
  match chunks, sep with
  | some (_ :: _) :: _, [] => .error (.foreign .value "empty separator")
  | _, _ =>
    match records sep chunks with
    | (rs, .closed) => .ok rs
    | (_, reason) => .error reason.fault

/-- Cuts a text at white space: the words but the last one, and that. There must be one. -/
def cutWords (cs : List Char) : Except Fault (List (List Char) × List Char) :=
  match (Text.words cs).reverse with
  | last :: before => .ok (before.reverse, last)
  | [] => .error (.foreign .index "list index out of range")

/-- The words in a stream that ends, but for those that could go on with the next chunk and the last
one. -/
def readWords : List Char → List Chunk → Except Fault (List (List Char))
  | _, [] => .ok []
  | _, none :: _ => .error StreamEnd.paused.fault
  | buffer, some c :: rest =>
    if c.isEmpty then .ok []
    else do
      let (done, buffer) ← cutWords (buffer ++ c)
      return done ++ (← readWords buffer rest)

/-- The records in a stream that ends, by a separator that should be a text; null stands for white
space. -/
def readRecordsBy (sep : Json) (chunks : List Chunk) : Except Fault (List (List Char)) :=
  match sep, chunks with
  | .text s, _ => readRecords s.toList chunks
  | .null, _ => readWords [] chunks
  | _, some (_ :: _) :: _ => .error (.foreign .type "must be str or None")
  | _, none :: _ => .error StreamEnd.paused.fault
  | _, _ => .ok []

end Stream

end SetTop
