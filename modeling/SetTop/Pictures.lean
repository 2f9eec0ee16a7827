import SetTop.Image.Filter
import SetTop.Session

/-!
Picture files.
-/

namespace SetTop

/-- The full path of a picture file; `none` if there is no such file. -/
def findPicture (name : String) : Act (Option String) := do
  if Path.isAbsolute name then return some name
  if ← isFile name then return some (← fullPath name)
  return none

def loadPicture (path : String) : Act (Option Image) :=
  return (← get).pictures.lookup (Path.baseName path)

def loadColour (path : String) : Act (Option Image) := return (← loadPicture path).map Image.inColour

def loadGrey (path : String) : Act (Option Image) := do
  match ← loadPicture path with
  | none => return none
  | some i =>
    match i.channels with
    | none => return some i
    | some _ => some <$> Act.ofExcept i.grey

end SetTop
