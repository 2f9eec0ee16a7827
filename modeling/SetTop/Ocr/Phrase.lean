import SetTop.Fault
import SetTop.Markup.Element
import SetTop.Number.Reading
import SetTop.Screen.Region
import SetTop.Text.Pattern

/-!
Phrases in text that was read off a picture.

The program that reads the picture gives a document in which every word is an element with
a box. `words` are the words of such a document in order, `findPhrase` looks for words in a
row, and `boxOf` is the box around them.
-/

/-!
Glyphs that stand for plain characters.

A program that reads text off pictures cannot always tell a ligature from its letters, or
one form of a quotation mark or dash from another. Only the plain forms are kept.
-/

namespace SetTop.Ocr

def plainGlyph (c : Char) : List Char :=
  match c.toNat with
  | 0xfb00 => ['f', 'f']
  | 0xfb01 => ['f', 'i']
  | 0xfb02 => ['f', 'l']
  | 0xfb03 => ['f', 'f', 'i']
  | 0xfb04 => ['f', 'f', 'l']
  | 0xfb05 => ['f', 't']
  | 0xfb06 => ['s', 't']
  | 0x201c | 0x201d => ['"']
  | 0x2018 | 0x2019 => ['\'']
  | 0x2010 | 0x2011 | 0x2012 | 0x2013 | 0x2014 | 0x2015 => ['-']
  | _ => [c]

def plain (cs : List Char) : List Char := cs.flatMap plainGlyph

end SetTop.Ocr

namespace SetTop.Ocr

open Markup

/-- A word, and the element that it stands in with those around it. A blank between words stands in
none. -/
structure Word where
  text : String
  place : List Element

namespace Word

def isBlank (w : Word) : Bool := w.text.toList.all Text.isBlank

end Word

structure Progress where
  words : List Word := []
  started : Bool := false
  gap : Bool := false

namespace Progress

/-- A new line begins, unless nothing has been read yet. -/
def newLine (p : Progress) (place : List Element) : Progress :=
  if p.started then { p with words := ⟨"\n", place⟩ :: p.words, gap := false } else p

/-- A piece of text comes along. White space alone only leaves a gap. -/
def add (p : Progress) (text : String) (place : List Element) : Progress :=
  if text.isEmpty then p
  else
    let bare := stripText text
    if bare.isEmpty then { p with gap := true }
    else
      let before := if p.gap && p.started then ⟨" ", []⟩ :: p.words else p.words
      { words := ⟨bare, place⟩ :: before, started := true, gap := false }

end Progress

def paragraphTag : String := "\x7bhttp://www.w3.org/1999/xhtml\x7dp"

def spanTag : String := "\x7bhttp://www.w3.org/1999/xhtml\x7dspan"

def readElement (p : Progress) : List Element → Except Fault Progress
  | [] => .ok p
  | e :: around => do
    let place := e :: around
    let p := if e.tag == paragraphTag then p.newLine place else p
    let p ←
      if e.tag == spanTag then
        match e.attribute? "class" with
        | none => .error (.foreign .attribute "'NoneType' object has no attribute 'split'")
        | some c => .ok (if (wordsOf c).contains "ocr_line" then p.newLine place else p)
      else .ok p
    return (p.add e.text place).add e.tail around

def words (document : Element) : Except Fault (List Word) := do
  let p ← document.descendants.foldlM readElement {}
  return p.words.reverse

def comparable (caseMatters : Bool) (s : String) : String :=
  String.ofList (plain (if caseMatters then s.toList else Text.lower s.toList))

variable (phrase : List String)

def agree (ws : List Word) : Bool :=
  (ws.zip phrase).all fun (w, p) => w.text == p

def findFrom (phrase : List String) : List Word → Option (List Word)
  | [] => none
  | w :: ws =>
    let part := (w :: ws).take phrase.length
    if agree phrase part then some part else findFrom phrase ws

def findWords (ws : List Word) : Option (List Word) :=
  if phrase.length ≤ ws.length then findFrom phrase ws else none

def findPhrase (caseMatters : Bool) (ws : List Word) : Option (List Word) :=
  let proper := (ws.filter (!·.isBlank)).map fun w => { w with text := comparable caseMatters w.text }
  findWords (phrase.map (comparable caseMatters)) proper

def boxPattern : Pattern :=
  let number (name : String) : Pattern := .group name (Pattern.oneOrMore .digit)
  Pattern.sequence [Pattern.text "bbox ", number "left", Pattern.text " ", number "top",
    Pattern.text " ", number "right", Pattern.text " ", number "bottom"]

/-- The four numbers of a box, if there is one. They must not have too many digits. -/
def boxNumbers (title : String) : Except Fault (Option (Int × Int × Int × Int)) := do
  match boxPattern.search title.toList with
  | none => return none
  | some s =>
    let number (name : String) : Except Fault Int :=
      (Number.readInt (s.group name)).mapError fun e => .foreign .value (e.message (s.group name))
    return some (← number "left", ← number "top", ← number "right", ← number "bottom")

def boxAround : List Element → Except Fault (Option Region)
  | [] => .ok none
  | e :: around => do
    match ← boxNumbers ((e.attribute? "title").getD "") with
    | some (x, y, right, bottom) =>
      ((Region.ofEdges x y right bottom).map some).mapError fun e => .failure .value e.message
    | none => boxAround around

def boxOf (ws : List Word) : Except Fault (Option Region) :=
  ws.foldlM (fun box w => do
    (Region.boundingBox box (← boxAround w.place)).mapError fun e => .failure .value e.message) none

end SetTop.Ocr
