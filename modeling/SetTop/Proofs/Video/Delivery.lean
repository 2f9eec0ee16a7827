import Mathlib.Data.List.Induction
import SetTop.Proofs.Faults
import SetTop.Proofs.Video.Signals

/-!
What the script hears of the capture.

Between the two stands a mailbox with room for one item, so only the newest item since the script
last asked can reach it. That is right for samples, but not for trouble, which is lost as soon as
another sample arrives. This module says what each question is answered with.

The exchange is a history of what was told and how each question was answered; `pending` says what
it leaves in the mailbox.
-/

namespace SetTop

open List Act

/-! ### Samples that are no pictures -/

/-- What fails here fails for another reason than trouble of the capture. -/
def Untroubled {α : Type} (r : Except Fault α) : Prop := ∀ text, r ≠ .error (.failure .uiTest text)

lemma Untroubled.of_low {α : Type} {r : Except Fault α} (h : Low r) : Untroubled r := by
  intro text hr
  have hlow := h _ hr
  cases hlow

lemma Sample.untroubled_frame (x : Sample) : Untroubled x.frame := .of_low (x.low_frame false)

namespace Display

open Act (Moves)

/-! ### Histories -/

/-- What passes between the capture and the script. -/
inductive Entry
  /-- the capture tells something -/
  | told (d : Delivery)
  /-- the script asks for a sample, and how that ends -/
  | asked (r : Except Fault Sample)

/-- A sample that the capture has delivered. -/
def Entry.sent? : Entry → Option Sample
  | .told (.sample x) => some x
  | _ => none

/-- A sample that the script has received. -/
def Entry.received? : Entry → Option Sample
  | .asked (.ok x) => some x
  | _ => none

variable (past : List Entry)

/-- What waits for the script: what was told last, unless the script has asked since. -/
def pending : Option Delivery :=
  match past.getLast? with
  | some (.told d) => some d
  | _ => none

/-- How a question ends for which `waiting` was found. -/
def answer (waiting : Option Delivery) : Except Fault Sample :=
  match waiting with
  | none => .error (.failure .noVideo "No video")
  | some (.trouble text) => .error (.failure .uiTest text)
  | some (.sample x) => x.frame.map fun _ => x

@[simp] lemma pending_nil : pending [] = none := rfl

@[simp] lemma pending_told (d : Delivery) : pending (past ++ [.told d]) = some d := by
  simp [pending]

@[simp] lemma pending_asked (r : Except Fault Sample) : pending (past ++ [.asked r]) = none := by
  simp [pending]

variable {waiting found : Option Delivery}

lemma answer_eq_uiTest_iff {text : String} :
    answer waiting = .error (.failure .uiTest text) ↔ waiting = some (.trouble text) := by
  rcases waiting with _ | (x | _)
  · simp [answer]
  · have hframe := Sample.untroubled_frame x text
    rw [answer]
    cases hx : x.frame with
    | ok f => simp [Except.map]
    | error e =>
      rw [hx] at hframe
      simpa [Except.map] using hframe
  · simp [answer]

lemma eq_sample_of_answer {x : Sample} (h : answer waiting = .ok x) : waiting = some (.sample x) := by
  rcases waiting with _ | (y | _)
  · cases h
  · rw [answer] at h
    cases hy : y.frame with
    | ok f =>
      rw [hy] at h
      cases h
      rfl
    | error e =>
      rw [hy] at h
      cases h
  · cases h

/-- Every question was answered with what waited for it. -/
def Answered : Prop :=
  ∀ before r after, past = before ++ .asked r :: after → r = answer (pending before)

lemma Answered.nil : Answered [] := by
  intro before r after h
  simp at h

lemma Answered.snoc {past : List Entry} {e : Entry} (h : Answered past)
    (he : ∀ r, e = .asked r → r = answer (pending past)) : Answered (past ++ [e]) := by
  intro before r after heq
  rcases eq_nil_or_concat after with rfl | ⟨after, e', rfl⟩
  · obtain ⟨rfl, hlast⟩ := append_inj' heq rfl
    exact he r (singleton_inj.1 hlast)
  · have heq : past ++ [e] = (before ++ .asked r :: after) ++ [e'] := by simpa using heq
    exact h before r after (append_inj' heq rfl).1

lemma Answered.told {past : List Entry} (h : Answered past) (d : Delivery) :
    Answered (past ++ [.told d]) := h.snoc fun _ => nofun

lemma Answered.asked {past : List Entry} (h : Answered past) :
    Answered (past ++ [.asked (answer (pending past))]) := by
  refine h.snoc fun r hr => ?_
  cases hr
  rfl

lemma Answered.received_sublist {past : List Entry} (h : Answered past) :
    (past.filterMap Entry.received? ++ ((pending past).map Entry.told).toList.filterMap Entry.sent?).Sublist
      (past.filterMap Entry.sent?) := by
  induction past using reverseRecOn with
  | nil => simp
  | append_singleton past e ih =>
    have hpast : Answered past := fun before r after heq =>
      h before r (after ++ [e]) (by rw [heq]; simp)
    have ih := ih hpast
    have hreceived := (sublist_append_left _ _).trans ih
    cases e with
    | told d =>
      have hnew := hreceived.append (List.Sublist.refl ([Entry.told d].filterMap Entry.sent?))
      simpa [filterMap_cons, Entry.received?] using hnew
    | asked r =>
      have hr : r = answer (pending past) := h past r [] rfl
      cases r with
      | error e => simpa [filterMap_cons, Entry.received?, Entry.sent?] using hreceived
      | ok x =>
        rw [eq_sample_of_answer hr.symm] at ih
        simpa [filterMap_cons, Entry.received?, Entry.sent?] using ih

/-! ### The exchange -/

variable {s : Session} {d : Display} {past : List Entry}

/-- What is told by a sample that arrives: nothing if its time is beyond the range of times. -/
def captured (x : Sample) (nanoseconds : Num) : List Entry :=
  match nanoseconds.double with
  | .ok t => [.told (.sample { x with time := some (.ofFloat (t / 1000000000.0)) })]
  | .error _ => []

/-- What is told while the script waits, which it does if nothing is there for it. -/
def overheard (past : List Entry) (s : Session) : List Entry :=
  match pending past with
  | some _ => []
  | none => (s.bench.feed.head?.join.map .told).toList

/-- What has passed between capture and script from a session on, and where it has led. -/
inductive Exchange (start : Session) : List Entry → Session → Prop
  | begun : Exchange start [] start
  | sample {past : List Entry} {s : Session} (h : Exchange start past s) (x : Sample)
      (nanoseconds : Num) :
      Exchange start (past ++ captured x nanoseconds) ((arrive x nanoseconds).run s).2
  | trouble {past : List Entry} {s : Session} (h : Exchange start past s) (text details : String)
      (known : Bool) :
      Exchange start (past ++ [.told (.trouble (messageText text details))])
        ((reportError text details known).run s).2
  | ask {past : List Entry} {s : Session} (h : Exchange start past s) :
      Exchange start (past ++ overheard past s ++ [.asked (getSample.run s).1]) (getSample.run s).2
  /-- anything else that is done leaves the mailbox alone -/
  | aside {past : List Entry} {s : Session} (h : Exchange start past s) {a : Act Unit}
      (ha : Moves Unread a) : Exchange start past (a.run s).2

/-- The mailbox holds what is to be found in it, and the display knows how much to tell. -/
def Waiting (found : Option Delivery) (s : Session) : Prop :=
  ∃ d, s.display = some d ∧ d.mailbox = ⟨found⟩ ∧ Log.Known s

lemma Waiting.unread {s s' : Session} (h : Waiting found s) (hs : Unread s s') : Waiting found s' := by
  obtain ⟨d, hd, hfound, hk⟩ := h
  obtain ⟨d', hd', hmailbox⟩ : ∃ d', s'.display = some d' ∧ d'.mailbox = d.mailbox := by
    have hmap := hs.mailbox
    rw [hd] at hmap
    exact Option.map_eq_some_iff.1 hmap
  exact ⟨d', hd', hmailbox.trans hfound, hs.known hk⟩

lemma waiting_of_make {o : Options} {s₀ : Session} (h : (make o).run s = (.ok (), s₀)) :
    Waiting none s₀ := by
  obtain ⟨-, -, d, hd, -, -, hk, -⟩ := source_of_make h
  refine ⟨d, hd, ?_, hk⟩
  obtain ⟨description, now, rig, s₁, s₂, s₃, -, hd₁, hcreate, haside, htell⟩ := exists_of_make h
  have htold : Moves Unread (tell o description) :=
    .bind (unread_note _) fun _ => .bind (unread_debug _) fun _ => unread_debug _
  have hmap := (htold.of_run_eq htell).mailbox
  obtain ⟨_, _, _, rfl⟩ := haside
  replace hmap := hmap.trans ((unread_handle _).of_run_eq hcreate).mailbox
  rw [hd, hd₁] at hmap
  exact Option.some.inj hmap

lemma waiting_of_deliver (h : Waiting found s) (item : Delivery) :
    ∃ s', (deliver item).run s = (.ok (), s') ∧ Waiting (some item) s' := by
  obtain ⟨d, hd, -, hk⟩ := h
  have hdetail (text : String) : ∃ s₁, (Log.detail text).run s = (.ok (), s₁) ∧ Unread s s₁ :=
    ⟨_, Prod.ext (Log.ok_detail hk text) rfl, unread_detail text s⟩
  have hput {s₁ : Session} (hs₁ : Unread s s₁) :
      Waiting (some item)
        { s₁ with display := s₁.display.map fun d => { d with mailbox := d.mailbox.deliver item } } := by
    obtain ⟨d₁, hd₁, -, hk₁⟩ := Waiting.unread ⟨d, hd, rfl, hk⟩ hs₁
    exact ⟨_, congrArg (Option.map _) hd₁, rfl, hk₁⟩
  cases item with
  | trouble text =>
    obtain ⟨s₁, hrun, hs₁⟩ := hdetail ("glib thread: reporting exception to user thread: " ++ text)
    exact ⟨_, bind_of_ok hrun, hput hs₁⟩
  | sample x =>
    obtain ⟨s₁, hrun, hs₁⟩ := hdetail ("glib thread: new sample (time=" ++ optionText x.time ++
      "). Queue.qsize: " ++ toString d.mailbox.size)
    refine ⟨_, ?_, hput hs₁⟩
    rw [deliver, bind_of_ok (run_current hd), bind_of_ok hrun]
    rfl

lemma waiting_of_arrive (h : Waiting (pending past) s) (x : Sample) (nanoseconds : Num) :
    Waiting (pending (past ++ captured x nanoseconds)) ((arrive x nanoseconds).run s).2 := by
  rw [arrive, captured]
  cases nanoseconds.double with
  | error e => rwa [append_nil]
  | ok t =>
    rw [pending_told]
    let x' : Sample := { x with time := some (.ofFloat (t / 1000000000.0)) }
    have hkeep {s₁ : Session} (hs₁ : Waiting (pending past) s₁) :
        Waiting (some (.sample x')) ((do
          deliver (.sample x')
          pushSample x'
          return x').run s₁).2 := by
      obtain ⟨s₂, hrun, hs₂⟩ := waiting_of_deliver hs₁ (.sample x')
      rw [bind_of_ok hrun]
      have hgo : Moves Unread (do
          pushSample x'
          return x') := .bind (unread_pushSample x') fun _ => .pure _
      exact hs₂.unread (hgo s₂)
    obtain ⟨d, hd, -, -⟩ := id h
    rw [bind_of_ok (run_ofExcept (.ok t) s), bind_of_ok (run_current hd)]
    dsimp only
    split
    · exact hkeep (h.unread (unread_warn _ s))
    · exact hkeep h

lemma waiting_of_reportError (h : Waiting found s) (text details : String) (known : Bool) :
    Waiting (some (.trouble (messageText text details))) ((reportError text details known).run s).2 := by
  have hdeliver {s₁ : Session} (hs₁ : Waiting found s₁) :
      Waiting (some (.trouble (messageText text details)))
        ((deliver (.trouble (messageText text details))).run s₁).2 := by
    obtain ⟨s', hrun, hs'⟩ := waiting_of_deliver hs₁ (.trouble (messageText text details))
    rwa [hrun]
  rw [reportError]
  cases known with
  | false => exact hdeliver h
  | true => exact hdeliver (h.unread (unread_note (.dot "ERROR") s))

lemma waiting_of_takeItem (h : Waiting found s) :
    ∃ s', takeItem.run s = (.ok (found.or s.bench.feed.head?.join), s') ∧ Waiting none s' := by
  obtain ⟨d, hd, hfound, hk⟩ := h
  rw [takeItem, bind_of_ok (run_current hd), hfound]
  cases found with
  | some item => exact ⟨_, rfl, _, congrArg (Option.map _) hd, rfl, hk⟩
  | none => exact ⟨_, rfl, d, hd, hfound, hk⟩

lemma waiting_of_getSample (h : Waiting found s) :
    (getSample.run s).1 = answer (found.or s.bench.feed.head?.join) ∧ Waiting none (getSample.run s).2 := by
  obtain ⟨s₁, htake, hs₁⟩ := waiting_of_takeItem h
  have hnote (noVideo : Bool) : Waiting none
      { s₁ with display := s₁.display.map fun d => { d with noVideo := noVideo } } :=
    hs₁.unread (unread_change (f := fun d => { d with noVideo := noVideo }) (fun _ => rfl) s₁)
  rw [getSample, bind_of_ok htake]
  rcases found.or s.bench.feed.head?.join with _ | (x | text)
  · obtain ⟨d, hd, -, -⟩ := hnote true
    rw [bind_of_ok (run_change _ s₁), bind_of_ok (run_current hd)]
    split
    · exact ⟨rfl, (hnote true).unread (unread_note (.dot "NoVideo") _)⟩
    · exact ⟨rfl, hnote true⟩
  · dsimp only
    rw [answer]
    cases x.frame with
    | ok f =>
      have hlast := unread_change (f := fun d => { d with lastUsed := some f }) (fun _ => rfl)
      exact ⟨rfl, (hnote false).unread (hlast _)⟩
    | error e => exact ⟨rfl, hnote false⟩
  · exact ⟨rfl, hnote false⟩

lemma pending_overheard (past : List Entry) (s : Session) :
    pending (past ++ overheard past s) = (pending past).or s.bench.feed.head?.join := by
  rw [overheard]
  cases hpending : pending past with
  | some d => rw [append_nil, hpending, Option.some_or]
  | none =>
    cases s.bench.feed.head?.join with
    | some d => exact pending_told past d
    | none => exact (congrArg pending (append_nil past)).trans hpending

lemma Answered.captured (h : Answered past) (x : Sample) (nanoseconds : Num) :
    Answered (past ++ captured x nanoseconds) := by
  rw [Display.captured]
  cases nanoseconds.double with
  | ok t => exact h.told _
  | error e => rwa [append_nil]

lemma Answered.overheard (h : Answered past) (s : Session) : Answered (past ++ overheard past s) := by
  rw [Display.overheard]
  cases pending past with
  | some d => rwa [append_nil]
  | none =>
    cases s.bench.feed.head?.join with
    | some d => exact h.told d
    | none => exact (append_nil past).symm ▸ h

/-- Along an exchange the mailbox holds what the history says, and that is what questions get. -/
lemma Exchange.answered {s₁ s₂ : Session} (h : Exchange s₁ past s₂) (hs₁ : Waiting none s₁) :
    Waiting (pending past) s₂ ∧ Answered past := by
  induction h with
  | begun => exact ⟨hs₁, .nil⟩
  | sample _ x nanoseconds ih =>
    exact ⟨waiting_of_arrive ih.1 x nanoseconds, ih.2.captured x nanoseconds⟩
  | trouble _ text details known ih =>
    exact ⟨pending_told _ _ ▸ waiting_of_reportError ih.1 text details known, ih.2.told _⟩
  | @ask past s _ ih =>
    obtain ⟨hanswer, hwaiting⟩ := waiting_of_getSample ih.1
    rw [← pending_overheard past s] at hanswer
    refine ⟨(pending_asked _ _).symm ▸ hwaiting, ?_⟩
    rw [hanswer]
    exact (ih.2.overheard s).asked
  | aside _ ha ih => exact ⟨ih.1.unread (ha _), ih.2⟩

/-- Whatever passes between capture and script after a display was made: every question is answered
with what was told last since the question before. So trouble that was told is heard if and only if
no sample was delivered after it, and the samples that the script receives are some of those that were
delivered, each at most once and in their order. -/
theorem script_hears_latest {o : Options} {s₁ s₂ : Session} (hmade : (make o).run s = (.ok (), s₁))
    (hexchange : Exchange s₁ past s₂) :
    (∀ before r after, past = before ++ .asked r :: after → r = answer (pending before)) ∧
    (∀ before text since r after,
      past = before ++ .told (.trouble text) :: since.map .told ++ .asked r :: after →
        ((∃ heard, r = .error (.failure .uiTest heard)) ↔
          ∃ heard, (Delivery.trouble text :: since).getLast? = some (.trouble heard))) ∧
    (past.filterMap Entry.received?).Sublist (past.filterMap Entry.sent?) := by
  have hanswered := (hexchange.answered (waiting_of_make hmade)).2
  refine ⟨hanswered, fun before text since r after hpast => ?_,
    (sublist_append_left _ _).trans hanswered.received_sublist⟩
  obtain ⟨d, hd⟩ : ∃ d, (Delivery.trouble text :: since).getLast? = some d :=
    Option.isSome_iff_exists.1 (by simp)
  have hr : r = answer (some d) := by
    obtain ⟨earlier, hearlier⟩ := getLast?_eq_some_iff.1 hd
    rw [hanswered _ r after hpast, ← map_cons, hearlier, map_append, ← append_assoc]
    exact congrArg answer (pending_told _ d)
  rw [hr, hd]
  simp only [answer_eq_uiTest_iff]

/-- A dot that arrives after trouble is what the script gets. -/
theorem dot_hides_trouble : ∃ s₁ s₂ x, (make {}).run { verbosity := some 0 } = (.ok (), s₁) ∧
      Exchange s₁ [.told (.trouble "gone: gone\ncable\n"), .told (.sample x), .asked (.ok x)] s₂ := by
  let dot : Sample := { format := some "BGR", width := 1, height := 1, data := some #[10, 20, 30] }
  let x : Sample := { dot with time := some (.ofFloat (0.0 / 1000000000.0)) }
  let s₁ : Session := ((make {}).run { verbosity := some 0 }).2
  have hmade : (make {}).run { verbosity := some 0 } = (.ok (), s₁) := rfl
  have htrouble : Exchange s₁ [.told (.trouble "gone: gone\ncable\n")] _ :=
    .trouble .begun "gone" "cable" true
  have hsample : Exchange s₁ [.told (.trouble "gone: gone\ncable\n"), .told (.sample x)] _ :=
    .sample htrouble dot (.real 0.0)
  have hasked : Exchange s₁ [.told (.trouble "gone: gone\ncable\n"), .told (.sample x),
      .asked (getSample.run _).1] _ := .ask hsample
  have hanswer := (script_hears_latest hmade hasked).1
    [.told (.trouble "gone: gone\ncable\n"), .told (.sample x)] _ [] rfl
  rw [hanswer] at hasked
  exact ⟨s₁, _, x, hmade, hasked⟩

end Display

end SetTop
