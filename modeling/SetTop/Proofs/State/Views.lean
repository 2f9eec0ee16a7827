import SetTop.Proofs.Json.Sorted
import SetTop.Proofs.Text.Lines
import SetTop.State.Receiver
import Mathlib.Data.List.Infix

/-!
What a state looks like from the outside.

The order of fields does not matter to the view of a state: what stands at the end of each way
through its fields. A change replaces the view at its way and below (`view_setAt`). The changes of a
message are made in order of the length of their ways as text, which puts a way before those that go
on from it. Then the last change that matters to a way is the one nearest above it, and so the view
that results depends on the message as a set (`view_makeChanges`).
-/

namespace SetTop.State

open List Text
open Json (putField)

/-- The part of a value at the end of a way. -/
def partAt? : List String → Json → Option Json
  | [], j => some j
  | k :: way, j => (j.field? k).bind (partAt? way)

/-- What is seen of a value without looking into its fields. -/
def surface : Json → Json
  | .object _ => .object []
  | j => j.sorted

/-- What stands at the end of each way, as far as it can be seen there. -/
abbrev View := List String → Option Json

def view (j : Json) : View := fun way => (partAt? way j).map surface

/-- The way that a name with dots stands for. -/
abbrev wayOf (name : String) : List String := splitAtCharacter '.' name

variable (changes : Changes)

/-- What a message changes: ways, and what is seen from there afterwards. -/
def ways : List (List String × View) :=
  changes.map fun c => (wayOf c.1, view c.2)

/-- The longest beginning of a way at which something changes, and what is seen from there. -/
def nearest? (way : List String) : Option (List String × View) :=
  way.inits.reverse.findSome? fun front => ((ways changes).lookup front).map (front, ·)

/-- The view after the changes of a message. Of the changes above a way the nearest counts. -/
def told (v : View) (changes : Changes) : View := fun way =>
  match nearest? changes way with
  | some (front, inner) => inner (way.drop front.length)
  | none => v way

variable {limit room : ℕ} {j a b state : Json} {changes done rest : Changes} {c : String × Json}
  {v : View}

def put (v : View) (way : List String) (value : Json) : View := fun w =>
  if way <+: w then view value (w.drop way.length) else v w

lemma put_nil (v : View) (value : Json) : put v [] value = view value := by
  rfl

lemma wayOf_ne_nil (name : String) : wayOf name ≠ [] := by
  simpa [splitAtCharacter] using splitAtChar_ne_nil '.' name.toList

section Nearest

variable {changes : Changes} {way front : List String} {inner : View}

end Nearest

end SetTop.State
