import SetTop.Session
import SetTop.Text.Wildcard

/-!
Finding files by wildcards.
-/

namespace SetTop.Files

def isHidden (name : String) : Bool := startsWithText name "."

def namesIn (dir : String) : Act (List String) := do
  match ← Act.attempt (directoryNames (if dir.isEmpty then "." else dir)) with
  | .ok names => return names
  | .error (.system ..) => return []
  | .error e => throw e

/-- The names in a directory that a wildcard stands for. Hidden names have to be asked for. -/
def namesLike (dir wildcard : String) (directories : Bool) : Act (List String) := do
  let names := (← namesIn dir).filter fun n =>
    (isHidden wildcard || !isHidden n) && matchesWildcard wildcard n
  if directories then names.filterM fun n => isDirectory (Path.join dir n) else return names

/-- The paths that wildcards stand for, at most `fuel` directories deep. -/
def likeFrom : Nat → Bool → String → Act (List String)
  | 0, _, _ => return []
  | fuel + 1, directories, pattern => do
    if !Wildcard.isWild pattern then
      return if ← pathExists pattern then [pattern] else []
    let (dir, base) := Path.split pattern
    if dir.isEmpty then namesLike "" base directories
    else
      let dirs ← if Wildcard.isWild dir then likeFrom fuel true dir else pure [dir]
      let found ← dirs.mapM fun d => do
        let names ←
          if Wildcard.isWild base then namesLike d base directories
          else if ← pathExists (Path.join d base) then pure [base] else pure []
        return names.map (Path.join d)
      return found.flatten

def like (pattern : String) : Act (List String) :=
  likeFrom ((splitAtCharacter '/' pattern).length + 1) false pattern

def below (wildcard dir : String) : Act (List String) := do
  if !(← isDirectory dir) then return []
  let root ← fullPath dir
  let cwd := (← bench).cwd
  let all := (← lookFiles (·.walk root)).flatMap fun (d, _, names) =>
    (names.filter (matchesWildcard wildcard)).map fun n => Path.relative cwd (Path.join d n) root
  return all

def prune (dir : String) : Act Unit := do
  if !(← isDirectory dir) then return
  let root ← fullPath dir
  (← lookFiles (·.walk root)).reverse.forM fun (d, _, files) => do
    if files.isEmpty && d != root then
      match ← Act.attempt (changeFiles (·.removeDirectory d)) with
      | .ok () => pure ()
      | .error e => if e == FileTree.notEmpty || e == FileTree.alreadyExists then pure () else throw e

def directoriesBelow (dir : String) : Act (List String) := do
  if !(← isDirectory dir) then return []
  let root ← fullPath dir
  let cwd := (← bench).cwd
  return ((← lookFiles (·.walk root)).map (·.1)).filter (· != root) |>.map fun d =>
    Path.relative cwd d root

end SetTop.Files
