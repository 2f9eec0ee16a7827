import SetTop.Fault
import SetTop.Number.Basic

/-!
Arithmetic that can fail.

Integers have no bound, but one beyond the range of doubles cannot be joined with a
double; and a double that is infinite or no number has no whole part.
-/

namespace SetTop.Num

def tooLarge : Fault := .foreign .overflow "int too large to convert to float"

def checked {α : Type} : Option α → Except Fault α
  | some a => .ok a
  | none => .error tooLarge

def plus (a b : Num) : Except Fault Num := checked (a.add? b)

def minus (a b : Num) : Except Fault Num := checked (a.sub? b)

def times (a b : Num) : Except Fault Num := checked (a.mul? b)

def double (a : Num) : Except Fault Float := checked a.toFloat?

def whole (a : Num) : Except Fault Int :=
  match a.truncate? with
  | some n => .ok n
  | none =>
    .error (if a.eq a then .foreign .overflow "cannot convert float infinity to integer"
      else .foreign .value "cannot convert float NaN to integer")

end SetTop.Num
