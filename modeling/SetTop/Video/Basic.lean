import SetTop.Video.Overlay
import SetTop.Video.Sample
import SetTop.Video.Source

/-!
The state of a display: where video comes from, what waits for the script, and what is
drawn over it on the way out.
-/

/-!
The mailbox between the capture and the script.

It has room for one item. Delivering replaces what was there, so the script always gets
the newest item, and takes it out by looking.
-/

namespace SetTop

inductive Delivery
  | sample (s : Sample)
  | trouble (text : String)

structure Mailbox where
  item : Option Delivery := none

namespace Mailbox

def deliver (_ : Mailbox) (d : Delivery) : Mailbox := ⟨some d⟩

def take (m : Mailbox) : Option Delivery × Mailbox := (m.item, {})

def size (m : Mailbox) : Nat := if m.item.isSome then 1 else 0

end Mailbox

end SetTop

namespace SetTop

structure Display where
  source : Source
  made : Num
  mailbox : Mailbox := {}
  noVideo : Bool := false
  lastUsed : Option Frame := none
  overlay : Overlay := {}
  ended : Bool := false

end SetTop
