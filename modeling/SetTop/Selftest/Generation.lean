import SetTop.Files.Search
import SetTop.Selftest.Expression
import SetTop.Session

/-!
Generating self-tests.

A self-test evaluates expressions on screenshots. Those that are always wanted are kept
whatever the outcome; the others only if the outcome is of interest, and are marked so.
-/

/-!
The source files that self-tests are generated for.
-/

namespace SetTop.Selftest

def cutLastNewline (cs : List Char) : List Char × List Char :=
  match cs.reverse with
  | '\n' :: rest => (rest.reverse, ['\n'])
  | _ => (cs, [])

def isIdentifierStart (c : Char) : Bool := c.isAlpha || c == '_'

def isIdentifier (s : String) : Bool :=
  match (cutLastNewline s.toList).1 with
  | [] => false
  | c :: cs => isIdentifierStart c && cs.all fun c => isIdentifierStart c || c.isDigit

def fileName (source : String) : String :=
  let (body, ending) := cutLastNewline source.toList
  match body.reverse with
  | 'y' :: 'p' :: c :: rest =>
    if c == '\n' then source
    else String.ofList (rest.reverse ++ "_selftest.py".toList ++ ending)
  | _ => source

def validSources (names : List String) : Act (List String) :=
  names.filterM fun name => do
    if startsWithText name "selftest" then return false
    let base := (Path.baseName name).toList
    if !isIdentifier (String.ofList (base.take (base.length - 3))) then return false
    pathExists name

/-- The directory at or above a directory that holds the configuration of a test pack. -/
def packRootFrom : Nat → String → Act (Option String)
  | 0, _ => return none
  | fuel + 1, dir => do
    if dir == "/" then return none
    if ← pathExists (Path.join dir ".stbt.conf") then return some dir
    packRootFrom fuel (Path.directory dir)

def packRoot (dir : String) : Act (Option String) := do
  let full ← fullPath dir
  packRootFrom ((Path.parts full).length + 1) full

end SetTop.Selftest

namespace SetTop.Selftest

def screenshots : String := "selftest/screenshots"

structure Item where
  name : String
  /-- an expression that is no text cannot be written -/
  expressions : List (Except Fault String)
  /-- a wildcard that is no text cannot be compared with -/
  always : List (Option String)
  tried : List (Option String)

/-- Whether one of some wildcards stands for a name; only as many are looked at as it takes. -/
def isWanted (name : String) : List (Option String) → Except Fault Bool
  | [] => .ok false
  | none :: _ => failBelow .type
  | some p :: rest => if matchesWildcard p name then .ok true else isWanted name rest

/-- Parts screenshots into those that are always wanted and those that are tried. -/
def Item.part (i : Item) : List String → Except Fault (List String × List String)
  | [] => .ok ([], [])
  | name :: names => do
    if ← isWanted name i.always then
      let (always, tried) ← i.part names
      return (name :: always, tried)
    else if ← isWanted name i.tried then
      let (always, tried) ← i.part names
      return (always, name :: tried)
    else i.part names

def Item.choose (i : Item) (all : List String) : Except Fault (List String × List String) := do
  let sort (names : List String) := names.mergeSort fun a b => a ≤ b
  let (always, tried) ← i.part all
  return (sort always, sort tried)

def expressionLines (expression : Except Fault String) (back : String) :
    List String → String × Except Fault Unit
  | [] => ("", .ok ())
  | name :: names =>
    match expression.bind fun e => withFrame e ("f(\"" ++ name ++ "\")") with
    | .error e => ("", .error e)
    | .ok line =>
      let (rest, outcome) := expressionLines expression back names
      ("    >>> " ++ line ++ back ++ "\n" ++ rest, outcome)

def allLines (always tried : List String) :
    List (Except Fault String) → String × Except Fault Unit
  | [] => ("", .ok ())
  | expression :: rest =>
    match expressionLines expression "" always with
    | (text, .error e) => (text, .error e)
    | (first, .ok ()) =>
      match expressionLines expression " # remove-if-false" tried with
      | (second, .error e) => (first ++ second, .error e)
      | (second, .ok ()) =>
        let (more, outcome) := allLines always tried rest
        (first ++ second ++ more, outcome)

/-- The tests of an item: their text, and for how many screenshots. -/
def Item.write (i : Item) (all : List String) : String × Except Fault Nat :=
  match i.choose all with
  | .error e => ("", .error e)
  | .ok (always, tried) =>
    let count := always.length + tried.length
    if count = 0 then ("", .ok 0)
    else
      let heading := "\n\ndef auto_selftest_" ++ i.name ++ "():\n    r\"\"\"\n"
      match allLines always tried i.expressions with
      | (text, .error e) => (heading ++ text, .error e)
      | (text, .ok ()) => (heading ++ text ++ "    \"\"\"\n    pass\n", .ok count)

def writeItem (i : Item) : Act (String × Except Fault Nat) :=
  return i.write (← Files.below "*.png" screenshots)

def heading (name moduleWay screenshotsWay : String) : String :=
  joinText "\n" [
    "#!/usr/bin/env python",
    "# coding=utf-8",
    "\"\"\"",
    "This file contains regression tests automatically generated by",
    "``stbt auto-selftest``. These tests are intended to capture the",
    "behaviour of Frame Objects (and other helper functions that operate on",
    "a video-frame). Commit this file to git, re-run ``stbt auto-selftest``",
    "whenever you make a change to your Frame Objects, and use ``git diff``",
    "to see how your changes affect the behaviour of the Frame Object.",
    "",
    "NOTE: THE OUTPUT OF THE DOCTESTS BELOW IS NOT NECESSARILY \"CORRECT\" --",
    "it merely documents the behaviour at the time that",
    "``stbt auto-selftest`` was run.",
    "\"\"\"",
    "# pylint: disable=line-too-long",
    "",
    "import os",
    "import sys",
    "",
    "sys.path.insert(0, os.path.join(",
    "    os.path.dirname(__file__), " ++ quote moduleWay ++ "))",
    "",
    "from " ++ name ++ " import *  # isort:skip pylint: disable=wildcard-import, import-error",
    "",
    "_FRAME_CACHE = \x7b\x7d",
    "",
    "",
    "def f(name):",
    "    img = _FRAME_CACHE.get(name)",
    "    if img is None:",
    "        import cv2",
    "        filename = os.path.join(os.path.dirname(__file__),",
    "                                " ++ quote screenshotsWay ++ ", name)",
    "        img = cv2.imread(filename)",
    "        assert img is not None, \"Failed to load %s\" % filename",
    "        img.flags.writeable = False",
    "        _FRAME_CACHE[name] = img",
    "    return img",
    ""]

def wayTo (target start : String) : Act String := do
  if target.isEmpty then failBelow .value "no path specified"
  return Path.relative (← bench).cwd target start

def writeItems : List Item → Act (String × Nat)
  | [] => return ("", 0)
  | i :: rest => do
    let (text, outcome) ← writeItem i
    let count ← Act.ofExcept outcome
    let (more, others) ← writeItems rest
    return (text ++ more, count + others)

def writeTests (source : String) (items : List Item) (out : String) : Act Nat := do
  let dir := Path.directory out
  let screenshotsWay ← wayTo screenshots dir
  let moduleWay ← wayTo (Path.directory source) dir
  let front := source.toList
  let name := Path.baseName (String.ofList (front.take (front.length - 3)))
  let (text, count) ← writeItems items
  if count > 0 then putText out (heading name moduleWay screenshotsWay ++ text)
  return count

end SetTop.Selftest

/-! ### How far the generation has come, and how long it took -/

namespace SetTop.Selftest

def rightAligned (width : Nat) (n : Int) : String :=
  String.ofList (Text.padLeft width (toString n).toList)

/-- A character several times over. There are limits to what can be counted and to what there is
room for. -/
def repeated (c : Char) (n : Int) : Except Fault (List Char) :=
  if n < -(Nat.pow 2 63 : Int) ∨ (Nat.pow 2 63 : Int) ≤ n then failBelow .overflow
  else if n > 100000000000 then failBelow .memory
  else .ok (List.replicate n.toNat c)

def progressLine (width done total : Int) : Except Fault String := do
  if total = 0 then failBelow .zeroDivision
  let filled := (done * width).fdiv total
  let bar := (← repeated '#' filled) ++ (← repeated ' ' (width - filled))
  return "\r\x1b[K[" ++ String.ofList bar ++ "] " ++ rightAligned 3 done ++ s!" / {total}"

def progressText (line : Int → Int → Except Fault String) (items : List String) :
    String × Except Fault Unit :=
  let total : Int := items.length
  let steps := items.zipIdx.map fun (item, n) =>
    (line n total).map (· ++ " - Processing " ++ item ++ "\r")
  (steps ++ [(line total total).map (· ++ "\n")]).foldl (fun (text, outcome) step =>
    match outcome, step with
    | .ok (), .ok s => (text ++ s, .ok ())
    | .ok (), .error e => (text, .error e)
    | .error e, _ => (text, .error e)) ("\n", .ok ())

def seconds (places : Nat) (t : Num) : Act String :=
  return Number.fixed places (← Act.ofExcept t.double)

/-- How long the evaluation of an expression took. One without a name cannot be listed. -/
structure Timing where
  name : Option String
  seconds : Num

def reportTimes (log : List Timing) (total : Num) : Act Unit := do
  let sorted := sortBy (fun a b => a.seconds.gt b.seconds) log
  let evaluating ← sorted.foldlM (fun sum t => Act.ofExcept (sum.plus t.seconds)) (0 : Num)
  say ("Total time: " ++ (← seconds 6 total) ++ "s\n")
  say ("Total time evaluating: " ++ (← seconds 6 evaluating) ++ "s\n")
  let overhead ← Act.ofExcept (total.minus evaluating)
  match (← Act.ofExcept (Num.times 100 overhead)).div? total with
  | none => failBelow .zeroDivision
  | some share =>
    say ("Overhead: " ++ (← seconds 6 overhead) ++ "s (" ++ (← seconds 6 share) ++ "%)\n")
  say s!"Number of expressions evaluated: {sorted.length}\n"
  match sorted[sorted.length / 2]? with
  | none => pure ()
  | some median =>
    say ("Median time: " ++ (← seconds 6 median.seconds) ++ "s\n")
    say "Slowest 10 evaluations:\n"
    (sorted.take 10).forM fun t => do
      match t.name with
      | some name => say ((← seconds 3 t.seconds) ++ "s\t" ++ name ++ "\n")
      | none => failBelow .value

end SetTop.Selftest
