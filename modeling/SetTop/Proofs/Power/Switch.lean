import SetTop.Power.Outlet
import SetTop.Proofs.Act
import SetTop.Proofs.Text.Lines

/-!
An outlet on the serial line stays in step with its switch.

The prompt with which the switch ends an answer has no line end, so it is read as the front of the
next echo. What has to hold between two calls is that nothing waits to be read that could end a
line, and that the switch has no half of a line (`Idle`). Every call finds the switch so and leaves
it so, with exactly the prompt unread.
-/

namespace SetTop

namespace Switch

variable {s : Switch} {line : List Char}

/-- Nothing has been sent by halves, and no line waits to be read. -/
structure Idle (s : Switch) : Prop where
  received : s.received = []
  said : '\n' ∉ s.said

lemma idle_fresh : Idle {} := ⟨rfl, by simp⟩

lemma idle_prompt (isOn : Bool) : Idle ⟨isOn, [], prompt⟩ :=
  ⟨rfl, show '\n' ∉ prompt by decide⟩

lemma write_line (hs : s.received = []) (hline : '\n' ∉ line) :
    s.write (line ++ ['\n']) = s.obey line := by
  have hparts : Text.splitAtChar '\n' (s.received ++ (line ++ ['\n'])) = [line, []] := by
    rw [hs, List.nil_append, Text.splitAtChar_line hline]
    rfl
  rw [write, hparts]
  simp [obey, hs]

lemma readLine_of_said (body rest : List Char) (h : s.said = body ++ '\n' :: rest)
    (hbody : '\n' ∉ body) : s.readLine = (.ok (body ++ ['\n']), { s with said := rest }) := by
  rw [readLine, h, Text.cut?_append hbody]

lemma readLine_obey (hs : s.Idle) (line query : List Char) (hline : '\n' ∉ line)
    (hanswer : answer (stateAfter s.isOn line) line = line ++ '\r' :: '\n' :: query) :
    (s.obey line).readLine = (.ok (s.said ++ line ++ ['\r'] ++ ['\n']),
        { s with isOn := stateAfter s.isOn line, said := query }) := by
  refine readLine_of_said (s.said ++ line ++ ['\r']) query ?_ ?_
  · simp [obey, hanswer]
  · simp [hs.said, hline]

end Switch

namespace Port

open Switch

variable {s : Switch}

def command (on : Bool) : List Char := (if on then "p1=1" else "p1=0").toList

lemma setPower_switch (hs : s.Idle) (on : Bool) :
    (Port.switch s).setPower on = (.ok (), .switch ⟨on, [], prompt⟩) := by
  have hread := readLine_obey hs (command on) prompt (by cases on <;> decide)
    (by cases on <;> rfl)
  have hstate : stateAfter s.isOn (command on) = on := by cases on <;> rfl
  have htext : (if on then "p1=1\n" else "p1=0\n").toList = command on ++ ['\n'] := by
    cases on <;> decide
  rw [setPower, write, htext, write_line hs.received (by cases on <;> decide)]
  rw [readLine, hread, hstate, hs.received]
  rfl

def report (isOn : Bool) : List Char := (if isOn then "IO:5\r\n" else "IO:0\r\n").toList

lemma readState_report (isOn : Bool) : readState (report isOn) = .ok isOn := by
  cases isOn <;> rfl

lemma getPower_switch (hs : s.Idle) :
    (Port.switch s).getPower = (.ok s.isOn, .switch ⟨s.isOn, [], prompt⟩) := by
  have hwrite : (Port.switch s).write "readio\n".toList = .switch (s.obey "readio".toList) := by
    have htext : "readio\n".toList = "readio".toList ++ ['\n'] := by decide
    rw [write, htext, write_line hs.received (by decide)]
  have hecho := readLine_obey hs "readio".toList (report s.isOn ++ prompt) (by decide)
    (by cases s.isOn <;> rfl)
  have hstate : stateAfter s.isOn "readio".toList = s.isOn := rfl
  have hreport (isOn : Bool) (t : Switch) (ht : t.said = report isOn ++ prompt) :
      t.readLine = (.ok (report isOn), { t with said := prompt }) := by
    have h := readLine_of_said (report isOn).dropLast prompt
      (by rw [ht]; cases isOn <;> rfl) (by cases isOn <;> decide)
    rw [h]
    cases isOn <;> rfl
  rw [getPower, hwrite]
  rw [readLine, hecho]
  dsimp only
  rw [readLine, hreport s.isOn _ rfl, hs.received]
  exact congrArg (·, _) (readState_report s.isOn)

end Port

namespace Outlet

/-- A call of an outlet. -/
inductive Call
  | set (on : Bool)
  | get
deriving DecidableEq

namespace Call

def perform (o : Outlet) : Call → Act (Option Bool)
  | .set on => do
    o.set on
    return Option.none
  | .get => do return some (← o.get)

/-- What a call asks the outlet to become. -/
def wanted? : Call → Option Bool
  | .set on => some on
  | .get => Option.none

/-- The reply to a call, if the outlet is on or off as given. -/
def reply (isOn : Bool) : Call → Option Bool
  | .set _ => Option.none
  | .get => some isOn

end Call

def performAll (o : Outlet) : List Call → Act (List (Option Bool))
  | [] => return []
  | c :: calls => do
    let reply ← c.perform o
    return reply :: (← o.performAll calls)

/-- What the outlet was last set to, if it was `start` before. -/
def latest (start : Bool) (calls : List Call) : Bool := (calls.filterMap Call.wanted?).getLastD start

lemma latest_cons (start : Bool) (c : Call) (calls : List Call) :
    latest start (c :: calls) = latest (c.wanted?.getD start) calls := by
  cases c with
  | set on =>
    rw [latest, List.filterMap_cons_some (rfl : (Call.set on).wanted? = some on), List.getLastD_cons]
    rfl
  | get =>
    rfl

def onLine (s : Session) (w : Switch) : Session :=
  { s with bench := { s.bench with serial := .switch w } }

lemma run_onSerial {α : Type} (f : Port → Except Fault α × Port) {s : Session} {w w' : Switch}
    {v : α} (h : f (.switch w) = (.ok v, .switch w')) :
    (onSerial f).run (onLine s w) = (.ok v, onLine s w') := by
  have hserial : (onLine s w).bench.serial = .switch w := rfl
  rw [onSerial, Act.bind_of_ok (Act.run_bench _), hserial, h]
  rfl

lemma run_perform {w : Switch} (hw : w.Idle) (c : Call) (s : Session) :
    (c.perform serial).run (onLine s w) =
      (.ok (c.reply w.isOn), onLine s ⟨c.wanted?.getD w.isOn, [], Switch.prompt⟩) := by
  cases c with
  | set on =>
    have hset := run_onSerial (s := s) (·.setPower on) (Port.setPower_switch hw on)
    rw [Call.perform, set, Act.bind_of_ok hset]
    rfl
  | get =>
    have hget := run_onSerial (s := s) Port.getPower (Port.getPower_switch hw)
    rw [Call.perform, get, Act.bind_of_ok hget]
    rfl

lemma run_performAll {w : Switch} (hw : w.Idle) (calls : List Call) (s : Session) :
    ∃ replies w', (serial.performAll calls).run (onLine s w) = (.ok replies, onLine s w') ∧
      (∀ before after, calls = before ++ .get :: after →
        replies[before.length]? = some (some (latest w.isOn before))) ∧
      w'.isOn = latest w.isOn calls ∧ w'.Idle ∧
      w'.said = if calls = [] then w.said else Switch.prompt := by
  -- A call leaves the switch as the next one needs to find it, whatever was unread before the first.
  induction calls generalizing w with
  | nil => exact ⟨[], w, rfl, by simp, rfl, hw, rfl⟩
  | cons c calls ih =>
    have hidle := Switch.idle_prompt (c.wanted?.getD w.isOn)
    obtain ⟨replies, w', hrun, hreplies, hon, hw', hsaid⟩ := ih hidle
    refine ⟨c.reply w.isOn :: replies, w', ?_, ?_, ?_, hw', ?_⟩
    · rw [performAll, Act.bind_of_ok (run_perform hw c s), Act.bind_of_ok hrun]
      rfl
    · intro before after hcalls
      cases before with
      | nil =>
        obtain ⟨rfl, -⟩ := List.cons.inj hcalls
        rfl
      | cons first before =>
        obtain ⟨rfl, hrest⟩ := List.cons.inj hcalls
        rw [latest_cons]
        exact hreplies before after hrest
    · rw [hon, latest_cons]
    · rw [hsaid]
      split <;> rfl

/-- Whatever is asked of an outlet on the serial line with a fresh switch, every call comes back; a
question is answered with what the outlet was last set to, and that is what the switch is. Between
calls the switch waits for a whole line, and nothing is left unread but its prompt. -/
theorem serial_stays_in_step (calls : List Call) (s : Session) :
    ∃ replies w, (serial.performAll calls).run (onLine s {}) = (.ok replies, onLine s w) ∧
      (∀ before after, calls = before ++ .get :: after →
        replies[before.length]? = some (some (latest false before))) ∧
      w.isOn = latest false calls ∧ w.received = [] ∧
      w.said = if calls = [] then [] else Switch.prompt := by
  obtain ⟨replies, w, hrun, hreplies, hon, hw, hsaid⟩ := run_performAll Switch.idle_fresh calls s
  exact ⟨replies, w, hrun, hreplies, hon, hw.received, hsaid⟩

end Outlet

end SetTop
