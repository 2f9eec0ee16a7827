import SetTop.Text.Basic

/-!
File names.

A path is text with parts between slashes. `normalize` removes empty parts, dots
and the parts that two dots undo; `absolute` does so below a working directory;
`relative` gives the way from one directory to another.
-/

namespace SetTop.Path

open Text

variable (p : String)

def isAbsolute : Bool := startsWithText p "/"

def join (a b : String) : String :=
  if isAbsolute b then b
  else if a.isEmpty || endsWithText a "/" then a ++ b
  else a ++ "/" ++ b

def split : String × String :=
  let cs := p.toList
  let tail := (cs.reverse.takeWhile (· ≠ '/')).reverse
  let head := cs.take (cs.length - tail.length)
  let head := if head.all (· == '/') then head else dropEndWhile (· == '/') head
  (String.ofList head, String.ofList tail)

def directory : String := (split p).1

def baseName : String := (split p).2

/-- Removes what has no effect. Two slashes in front stay two. -/
def normalize : String :=
  if p.isEmpty then "."
  else
    let cs := p.toList
    let slashes := (cs.takeWhile (· == '/')).length
    let initial := if slashes = 0 then 0 else if slashes = 2 then 2 else 1
    let step (acc : List (List Char)) (part : List Char) : List (List Char) :=
      if part.isEmpty || part == ['.'] then acc
      else if part != ['.', '.'] then part :: acc
      else match acc with
        | [] => if initial > 0 then [] else [part]
        | top :: below => if top == ['.', '.'] then part :: acc else below
    let parts := ((splitAtChar '/' cs).foldl step []).reverse
    let body := Text.join ['/'] parts
    let whole := List.replicate initial '/' ++ body
    if whole.isEmpty then "." else String.ofList whole

def absolute (cwd p : String) : String :=
  normalize (if isAbsolute p then p else join cwd p)

def parts : List String := (splitAtCharacter '/' p).filter (!·.isEmpty)

def dropCommon : List String → List String → List String × List String
  | a :: as, b :: bs => if a = b then dropCommon as bs else (a :: as, b :: bs)
  | as, bs => (as, bs)

def relative (cwd p start : String) : String :=
  let (up, down) := dropCommon (parts (absolute cwd start)) (parts (absolute cwd p))
  let all := up.map (fun _ => "..") ++ down
  if all.isEmpty then "." else joinText "/" all

end SetTop.Path
