import SetTop.Session
import SetTop.Wire.Stream

/-!
Connections of a session.

A connection is known by its number. Connecting takes the next peer of the bench, and
accepting takes the next visitor.
-/

namespace SetTop.Net

def brokenPipe : Fault := .system 32 "Broken pipe"

def adopt (p : Peer) (timeout : Option Num := none) : Act Nat := do
  let n := (← bench).links.length
  modifyBench fun b => { b with links := b.links ++ [{ peer := p, timeout := timeout }] }
  return n

def connect (address : Address) (timeout : Option Num := none) : Act Nat := do
  note (.connect address)
  let p := (← bench).peers.headD {}
  modifyBench fun b => { b with peers := b.peers.tail }
  match p.refusal with
  | some (number, text) => throw (.system number text)
  | none => adopt p timeout

def connectOr (address : Address) (timeout : Option Num) (explain : String) : Act Nat := do
  match ← Act.attempt (connect address timeout) with
  | .ok n => return n
  | .error (.system number text) =>
    throw (.refused number (explain ++ (Fault.system number text).text))
  | .error e => throw e

variable (n : Nat)

def link : Act Link := return ((← bench).links[n]?).getD { peer := {} }

def modifyLink (f : Link → Link) : Act Unit :=
  modifyBench fun b => { b with links := b.links.modify n f }

def setChunks (chunks : List Chunk) : Act Unit :=
  modifyLink n fun l => { l with peer := { l.peer with chunks := chunks } }

def reading {α : Type} (n : Nat) (f : List Chunk → α × List Chunk) : Act α := do
  let (a, chunks) := f (← link n).peer.chunks
  setChunks n chunks
  return a

/-- What arrives next, at most so many characters; nothing once the peer has closed. -/
def receive (n limit : Nat) : Act (List Char) := do
  match ← reading n (Stream.receive limit) with
  | .ok cs => return cs
  | .error .closed => return []
  | .error reason => throw reason.fault

def describe : Act String := return "<socket " ++ (← link n).peer.label ++ ">"

def receiveExactly (n count : Nat) : Act (List Char) := do
  match ← reading n (Stream.receiveExactly count) with
  | .ok cs => return cs
  | .error .closed => fail .socketClosed (← describe n)
  | .error reason => throw reason.fault

def drain : Act (List Char) := reading n fun chunks => (Stream.all chunks, [])

def send (n : Nat) (text : String) : Act Unit := do
  let l ← link n
  if l.peer.broken || l.peer.lasts == some 0 then throw brokenPipe
  modifyLink n fun l => { l with peer := { l.peer with lasts := l.peer.lasts.map (· - 1) } }
  note (.send l.peer.label text)

def close (n : Nat) : Act Unit := do note (.close (← link n).peer.label)

def shutdown (n : Nat) : Act Unit := do note (.shutdown (← link n).peer.label)

def accept : Act (Nat × String) := do
  match (← bench).visitors with
  | [] => throw (.exhausted "accept")
  | p :: rest =>
    modifyBench fun b => { b with visitors := rest }
    match p.refusal with
    | some (number, text) => throw (.system number text)
    | none => return (← adopt p, "10.0.0.1")

def select : Act (List Int) := do
  match (← bench).ready with
  | [] => throw (.exhausted "select")
  | fds :: rest =>
    modifyBench fun b => { b with ready := rest }
    return fds

end SetTop.Net
