import SetTop.Session

/-!
Running helper programs.

Every run of a helper takes the next behaviour that the bench has laid out. A helper can
fail to start, make files, print, and end with a status.
-/

namespace SetTop.Programs

def next : Act Helper := do
  let h := (← bench).helpers.headD {}
  modifyBench fun b => { b with helpers := b.helpers.tail }
  return h

def ended (arguments : List Json) (status : Int) : Fault :=
  .failure .process
    ("Command '" ++ (Json.list arguments).literal ++ "' returned non-zero exit status " ++ toString status)

def makeFiles (h : Helper) : Act Unit := h.creates.forM fun p => do
  ensureDirectory (Path.directory (← fullPath p))
  putText p ""

def filesBelow (dir : String) : Act (List (String × String)) := do
  let full ← fullPath dir
  lookFiles fun t =>
    (t.walk full).flatMap fun (d, _, fs) => (fs.mergeSort fun a b => a ≤ b).filterMap fun f =>
      let p := Path.join d f
      match t.get? p with
      | some (.file text) => some (Path.relative full p full, text)
      | _ => none

/-- What a helper that reads text off pictures does: it looks at its data and writes what it read. -/
def recognise (arguments : List String) (h : Helper) : Act Unit := do
  match h.recognised, arguments[4]? with
  | some text, some out =>
    let data := Path.join (Path.directory (Path.directory out)) "tessdata"
    for (p, content) in ← filesBelow data do
      note (.tessdata p content)
    putText (out ++ h.extension) text
  | _, _ => pure ()

def start (arguments : List String) : Act Helper := do
  let h ← next
  match h.refusal with
  | some (number, text) => throw (.system number text)
  | none => pure ()
  makeFiles h
  recognise arguments h
  return h

def call (arguments : List Json) : Act Unit := do
  note (.checkCall arguments)
  let h ← start (arguments.map Json.display)
  if h.status ≠ 0 then throw (ended arguments h.status)

def output (arguments : List Json) : Act String := do
  note (.checkOutput arguments)
  let h ← start (arguments.map Json.display)
  if h.status ≠ 0 then throw (ended arguments h.status)
  return h.output

end SetTop.Programs
