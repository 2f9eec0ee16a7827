import SetTop.Fault
import SetTop.Files.Path

/-!
A tree of files.

The tree is a table from absolute, normal paths to entries, in the order in which they were made.
Every operation checks that the directory above exists, so the table stays a tree.

A path is walked step by step: two dots lead out of the directory that was really reached, links are
followed, and every directory on the way has to exist. A slash at the end asks for a directory.
-/

namespace SetTop

inductive Entry
  | directory
  | file (text : String)
  | link (target : String)
deriving DecidableEq

structure FileTree where
  entries : List (String × Entry) := []

namespace FileTree

def busy : Fault := .system 16 "Device or resource busy"
def nameTooLong : Fault := .system 36 "File name too long"
def tooManyLinks : Fault := .system 40 "Too many levels of symbolic links"
def noSuchFile : Fault := .system 2 "No such file or directory"
def alreadyExists : Fault := .system 17 "File exists"
def notADirectory : Fault := .system 20 "Not a directory"
def isADirectory : Fault := .system 21 "Is a directory"
def notEmpty : Fault := .system 39 "Directory not empty"

variable (t : FileTree)

def get? (p : String) : Option Entry :=
  if p == "/" then some .directory else t.entries.lookup p

def put (p : String) (e : Entry) : FileTree :=
  if t.entries.any (·.1 == p) then
    ⟨t.entries.map fun (q, old) => if q == p then (q, e) else (q, old)⟩
  else ⟨t.entries ++ [(p, e)]⟩

def erase (p : String) : FileTree := ⟨t.entries.filter (·.1 != p)⟩

def maxNameLength : Nat := 255

def maxLinks : Nat := 40

/-- Walks from a directory: where the steps lead, and what stands there. Only the last step may lead
to nothing, and a link there is not followed if `throughLast` is false. Other links lead onward by
another walk, or not at all. -/
def stepsFrom (t : FileTree) (throughLast : Bool)
    (onward : Option (String → List String → Except Fault (String × Option Entry))) (dir : String) :
    List String → Except Fault (String × Option Entry)
  | [] => .ok (dir, some .directory)
  | step :: rest =>
    if step == "." then t.stepsFrom throughLast onward dir rest
    else if step == ".." then t.stepsFrom throughLast onward (Path.directory dir) rest
    else if step.utf8ByteSize > maxNameLength then .error nameTooLong
    else
      let p := Path.join dir step
      match t.get? p with
      | none => if rest.isEmpty then .ok (p, none) else .error noSuchFile
      | some .directory => t.stepsFrom throughLast onward p rest
      | some (.file text) => if rest.isEmpty then .ok (p, some (.file text)) else .error notADirectory
      | some (.link target) =>
        if rest.isEmpty && !throughLast then .ok (p, some (.link target))
        else match onward with
          | none => .error tooManyLinks
          | some onward =>
            onward (if Path.isAbsolute target then "/" else dir) (Path.parts target ++ rest)

def follow (t : FileTree) (throughLast : Bool) :
    (links : Nat) → String → List String → Except Fault (String × Option Entry)
  | 0 => t.stepsFrom throughLast none
  | links + 1 => t.stepsFrom throughLast (some (t.follow throughLast links))

def locate (p : String) : Except Fault (String × Option Entry) :=
  t.follow true maxLinks "/" (Path.parts p)

def locateLink (p : String) : Except Fault (String × Option Entry) :=
  t.follow false maxLinks "/" (Path.parts p)

def wantsDirectory (p : String) : Bool := endsWithText p "/"

def endsInDots (p : String) : Bool :=
  match (Path.parts p).getLast? with
  | some last => last == "." || last == ".."
  | none => true

def find (p : String) : Except Fault Entry := do
  match (← t.locate p).2 with
  | none => throw noSuchFile
  | some (.file text) => if wantsDirectory p then throw notADirectory else return .file text
  | some e => return e

def exists? (p : String) : Bool := (t.find p).toOption.isSome

def isDirectory (p : String) : Bool := (t.find p).toOption == some .directory

def isFile (p : String) : Bool :=
  match t.find p with
  | .ok (.file _) => true
  | _ => false

def read (p : String) : Except Fault String := do
  match ← t.find p with
  | .file text => return text
  | _ => throw isADirectory

def write (p text : String) : Except Fault FileTree := do
  match ← t.locate p with
  | (_, some .directory) => throw isADirectory
  | (q, _) => if wantsDirectory p then throw isADirectory else return t.put q (.file text)

def create (p : String) : Except Fault FileTree := do
  match ← t.locateLink p with
  | (q, none) => if wantsDirectory p then throw isADirectory else return t.put q (.file "")
  | _ => throw alreadyExists

def makeDirectory (p : String) : Except Fault FileTree := do
  match ← t.locateLink p with
  | (q, none) => return t.put q .directory
  | _ => throw alreadyExists

def prepare (p : String) : FileTree :=
  ((Path.parts (Path.directory p)).foldl (fun (t, dir) step =>
    let dir := Path.join dir step
    ((t.makeDirectory dir).toOption.getD t, dir)) (t, "/")).1

def addLink (p target : String) : Except Fault FileTree := do
  match ← t.locateLink p with
  | (q, none) => return t.put q (.link target)
  | _ => throw alreadyExists

def children (p : String) : List String :=
  t.entries.filterMap fun (q, _) =>
    if Path.directory q == p && q != p then some (Path.baseName q) else none

def isBelow (p q : String) : Bool :=
  startsWithText q (if p == "/" then "/" else p ++ "/")

def list (p : String) : Except Fault (List String) := do
  match ← t.locate p with
  | (q, some .directory) => return t.children q
  | (_, some _) => throw notADirectory
  | (_, none) => throw noSuchFile

def removeFile (p : String) : Except Fault FileTree := do
  match ← t.locateLink p with
  | (_, some .directory) => throw isADirectory
  | (q, some _) => if wantsDirectory p then throw notADirectory else return t.erase q
  | (_, none) => throw noSuchFile

def removeDirectory (p : String) : Except Fault FileTree := do
  match ← t.locateLink p with
  | (q, some .directory) => if (t.children q).isEmpty then return t.erase q else throw notEmpty
  | (_, some _) => throw notADirectory
  | (_, none) => throw noSuchFile

def removeTree (p : String) : FileTree :=
  match t.locateLink p with
  | .ok (r, _) => ⟨t.entries.filter fun (q, _) => q != r && !isBelow r q⟩
  | .error _ => t

/-- Gives a file a new name. A file that stands at the new name is replaced. -/
def rename (p q : String) : Except Fault FileTree := do
  let source ← t.locateLink p
  let target ← t.locateLink q
  if endsInDots q then throw busy
  match source, target with
  | (_, none), _ => throw noSuchFile
  | (_, some .directory), _ => throw isADirectory
  | (old, some e), (new, there) =>
    if there == some .directory then throw isADirectory
    if wantsDirectory q then throw notADirectory
    return (t.erase old).put new e

/-- Every directory at or below `p`, outermost first, with the names of its directories and of its
files. Links to directories are not entered. -/
def walk (p : String) : List (String × List String × List String) :=
  match t.locate p with
  | .ok (q, some .directory) => go (t.entries.length + 1) q
  | _ => []
where
  go : Nat → String → List (String × List String × List String)
    | 0, _ => []
    | fuel + 1, d =>
      let names := t.children d
      let full (n : String) := Path.join d n
      let dirs := names.filter fun n => t.isDirectory (full n)
      let files := names.filter fun n => !t.isDirectory (full n)
      let entered := dirs.filter fun n => t.get? (full n) == some .directory
      (d, dirs, files) :: (entered.map fun n => go fuel (Path.join d n)).flatten

end FileTree

end SetTop
