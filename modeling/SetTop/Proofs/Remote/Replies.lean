import SetTop.Proofs.Remote.Asking
import SetTop.Proofs.Wire.Pieces

/-!
What a control makes of the answer of a relay.

An answer is a packet of lines. A control gathers it and takes it for a success if any line of it says
so. The reason of a failure stands in the packet as it is, and `Misleading` is a reason by which a
failure is taken for a success.
-/

namespace SetTop

open List Text String Number

namespace Text

lemma dropFront?_append (front rest : List Char) : dropFront? front (front ++ rest) = some rest := by
  induction front with
  | nil => cases rest <;> rfl
  | cons c front ih => rw [cons_append, dropFront?, if_pos rfl, ih]

lemma hasPart_append (part rest : List Char) : hasPart part (part ++ rest) = true := by
  cases htext : part ++ rest with
  | nil =>
    rw [(append_eq_nil_iff.1 htext).1]
    rfl
  | cons c cs =>
    rw [hasPart, startsWith, ← htext, dropFront?_append]
    rfl

end Text

namespace Lirc

/-! ### The verdict -/

def successLine : Line := "SUCCESS".toList

/-- What is made of the lines of an answer, and of the reason why there are no more. -/
def verdict (timeout : Json) (lines : List Line) (reason : StreamEnd) : Except Fault Unit := do
  let (reply, complete) ← gather [] lines
  if !complete && reason = .paused then throw (noReply timeout)
  judge reply

variable {timeout : Json} {reason : StreamEnd} {reply lines : List Line} {request : Line}

lemma readReply_heard {text : List Char} {chunks : List Chunk} (h : Stream.Heard text chunks reason) :
    readReply timeout chunks = verdict timeout ((ended text).map List.dropLast) reason := by
  rw [readReply, Stream.records, Stream.recordsFrom_heard not_mem_nil h]
  rfl

lemma judge_eq_ok_iff : judge reply = .ok () ↔ successLine ∈ reply := by
  rw [judge]
  change (if reply.contains successLine = true then _ else _) = _ ↔ _
  by_cases h : successLine ∈ reply
  · rw [if_pos (contains_iff_mem.2 h)]
    exact iff_of_true rfl h
  · rw [if_neg fun hcontains => h (contains_iff_mem.1 hcontains)]
    refine iff_of_false ?_ h
    split
    · dsimp only
      split <;> nofun
    · nofun

lemma verdict_eq_ok_iff : verdict timeout lines reason = .ok () ↔
      ∃ reply complete, gather [] lines = .ok (reply, complete) ∧ successLine ∈ reply ∧
        (complete = true ∨ reason ≠ .paused) := by
  rw [verdict]
  cases hgather : gather [] lines with
  | error e => exact iff_of_false nofun (by simp)
  | ok gathered =>
    obtain ⟨reply, complete⟩ := gathered
    change (if (!complete && decide (reason = .paused)) = true then _ else judge reply) = _ ↔ _
    by_cases hwait : complete = false ∧ reason = .paused
    · rw [if_pos (by simpa using hwait)]
      refine iff_of_false nofun ?_
      rintro ⟨_, _, ⟨rfl⟩, -, hdone | hdone⟩
      · exact absurd hwait.1 (by simp [hdone])
      · exact hdone hwait.2
    · rw [if_neg (by simpa using hwait), judge_eq_ok_iff]
      refine ⟨fun h => ⟨reply, complete, rfl, h, ?_⟩, by rintro ⟨_, _, ⟨rfl⟩, h, -⟩; exact h⟩
      cases complete with
      | true => exact .inl rfl
      | false => exact .inr fun hreason => hwait ⟨rfl, hreason⟩

/-! ### Gathering -/

lemma gather_append (hbegin : beginLine ∉ lines) (hend : endLine ∉ lines) (reply rest : List Line) :
    gather reply (lines ++ rest) = gather (reply ++ lines) rest := by
  induction lines generalizing reply with
  | nil => rw [nil_append, append_nil]
  | cons line lines ih =>
    rw [mem_cons, not_or] at hbegin hend
    rw [cons_append, gather, if_neg (Ne.symm hbegin.1), if_neg (Ne.symm hend.1),
      ih hbegin.2 hend.2, List.append_assoc]
    rfl

lemma mem_of_gather {gathered : List Line} {complete : Bool} {line : Line}
    (h : gather reply lines = .ok (gathered, complete)) (hline : line ∈ gathered) :
    line ∈ reply ∨ line ∈ lines := by
  induction lines generalizing reply with
  | nil =>
    rw [gather] at h
    cases h
    exact .inl hline
  | cons first lines ih =>
    have hadded {l : Line} (hl : l ∈ (if first = beginLine then [] else reply) ++ [first]) :
        l ∈ reply ∨ l ∈ first :: lines := by
      rw [mem_append, mem_singleton] at hl
      rcases hl with hl | rfl
      · split at hl
        · cases hl
        · exact .inl hl
      · exact .inr (mem_cons_self ..)
    have hmore (h : gather ((if first = beginLine then [] else reply) ++ [first]) lines =
        .ok (gathered, complete)) : line ∈ reply ∨ line ∈ first :: lines := by
      rcases ih h with hl | hl
      · exact hadded hl
      · exact .inr (mem_cons_of_mem _ hl)
    rw [gather] at h
    split at h
    · split at h
      · cases h
      · split at h
        · cases h
          exact hadded hline
        · exact hmore h
    · exact hmore h

/-- A packet about a request to emit is gathered whole if no line inside begins or ends one. What came
before it is dropped, and what follows is not read. -/
lemma gather_packet (hrequest : hasPart "SEND_ONCE".toList request = true)
    (hbegin : beginLine ∉ request :: lines) (hend : endLine ∉ request :: lines) (reply rest : List Line) :
    gather reply (beginLine :: request :: lines ++ endLine :: rest) =
      .ok (beginLine :: request :: lines ++ [endLine], true) := by
  have hne : endLine ≠ beginLine := by decide
  have hfirst : gather reply (beginLine :: (request :: lines ++ endLine :: rest)) =
      gather [beginLine] (request :: lines ++ endLine :: rest) := by
    rfl
  rw [cons_append, hfirst, gather_append hbegin hend]
  change (if hasPart "SEND_ONCE".toList request = true then _ else _) = _
  rw [if_pos hrequest]
  rfl

end Lirc

namespace Relay

open Lirc (Line beginLine endLine successLine gather verdict)

/-! ### The answer -/

def statusLine (success : Bool) : Line := if success then successLine else "ERROR".toList

/-- The lines about the reason of a failure, if there is one. -/
def reasonLines (reason : String) : List Line :=
  if reason.isEmpty then []
  else "DATA".toList :: (toString (splitAtChar '\n' reason.toList).length).toList ::
    splitAtChar '\n' reason.toList

def replyLines (request : Line) (success : Bool) (reason : String) : List Line :=
  beginLine :: request :: statusLine success :: reasonLines reason ++ [endLine]

def written (lines : List Line) : List Char := (lines.map (· ++ ['\n'])).flatten

lemma joinText_splitAtCharacter (text : String) :
    joinText "\n" (splitAtCharacter '\n' text) = text := by
  have hlists : (splitAtCharacter '\n' text).map String.toList = splitAtChar '\n' text.toList := by
    rw [splitAtCharacter, List.map_map]
    exact (map_congr_left fun _ _ => toList_ofList).trans (map_id _)
  rw [← toList_inj, joinText, toList_intercalate, hlists]
  exact (join_eq_intercalate _ _).symm.trans (join_splitAtChar '\n' text.toList)

lemma toList_response (request : String) (success : Bool) (reason : String) :
    (response request success reason).toList = written (replyLines request.toList success reason) := by
  have hstatus : (if success then "SUCCESS" else "ERROR").toList = statusLine success := by
    cases success <;> rfl
  have hbegin : "BEGIN\n".toList = beginLine ++ ['\n'] := by decide
  have hend : "END\n".toList = endLine ++ ['\n'] := by decide
  have hfeed : "\n".toList = ['\n'] := rfl
  have hdata : "DATA\n".toList = "DATA".toList ++ ['\n'] := by decide
  have hlength : (splitAtCharacter '\n' reason).length = (splitAtChar '\n' reason.toList).length :=
    length_map ..
  have hextra : (if reason.isEmpty then "" else
      "DATA\n" ++ toString (splitAtCharacter '\n' reason).length ++ "\n" ++
        joinText "\n" (splitAtCharacter '\n' reason) ++ "\n").toList =
      written (reasonLines reason) := by
    rw [reasonLines, joinText_splitAtCharacter, hlength]
    split
    · rfl
    · rw [written, List.map_cons, List.map_cons, List.flatten_cons, List.flatten_cons,
        flatten_splitAtChar]
      simp only [String.toList_append, hfeed, hdata, List.append_assoc]
  unfold response
  simp only [String.toList_append, hstatus, hbegin, hend, hfeed, hextra]
  simp only [written, replyLines, List.map_cons, List.map_append, map_nil, List.flatten_cons,
    List.flatten_append, List.flatten_nil, List.append_assoc, List.append_nil]

variable {lines : List Line} {c : Char} {rest : List Char} {message : String}

lemma ended_written_append (h : ∀ line ∈ lines, '\n' ∉ line) (tail : List Char) :
    (ended (written lines ++ tail)).map List.dropLast =
      lines ++ (ended tail).map List.dropLast := by
  have hwhole : ∀ line ∈ lines.map (· ++ ['\n']), Text.IsEnded line := by
    intro line hline
    obtain ⟨body, hbody, rfl⟩ := List.mem_map.1 hline
    exact ⟨body, rfl, h body hbody⟩
  rw [written, (splitEnded_flatten_append hwhole tail).1, List.map_append, List.map_map]
  exact congrArg (· ++ _) ((map_congr_left fun _ _ => dropLast_concat).trans (map_id _))

lemma ended_written (h : ∀ line ∈ lines, '\n' ∉ line) :
    (ended (written lines)).map List.dropLast = lines := by
  simpa [ended_of_not_mem] using ended_written_append h []

lemma not_mem_number {n : Nat} (hc : c.isDigit = false) : c ∉ (toString n).toList := by
  intro h
  have hdigit :=
    Nat.isDigit_of_mem_toDigits (b := 10) (by decide) (by decide) (by simpa using h)
  rw [hc] at hdigit
  cases hdigit

lemma ne_number (hc : c.isDigit = false) (n : Nat) :
    c :: rest ≠ (toString n).toList := fun h =>
  not_mem_number hc (h ▸ mem_cons_self ..)

lemma forall_reasonLines {reason : String} {P : Line → Prop} (hdata : P "DATA".toList)
    (hnumber : ∀ n : Nat, P (toString n).toList)
    (hlines : ∀ l ∈ splitAtChar '\n' reason.toList, P l) :
    ∀ l ∈ reasonLines reason, P l := by
  rw [reasonLines]
  split
  · exact forall_mem_nil P
  · exact forall_mem_cons.2 ⟨hdata, forall_mem_cons.2 ⟨hnumber _, hlines⟩⟩

lemma not_mem_replyLines {request : Line} (h : '\n' ∉ request) (success : Bool) (reason : String) :
    ∀ l ∈ replyLines request success reason, '\n' ∉ l := by
  have hstatus : '\n' ∉ statusLine success := by cases success <;> decide
  have hreason : ∀ l ∈ reasonLines reason, '\n' ∉ l :=
    forall_reasonLines (by decide) (fun _ => not_mem_number (by decide))
      fun _ => not_mem_of_mem_splitAtChar
  rw [replyLines, cons_append, cons_append, cons_append, forall_mem_cons,
    forall_mem_cons, forall_mem_cons, forall_mem_append]
  exact ⟨by decide, h, hstatus, hreason, by decide⟩

/-! ### What is made of the answer -/

variable {control key : String}

lemma line_ne {first second : Char} (h : ¬(first = 'S' ∧ second = 'E')) :
    first :: second :: rest ≠ line control key := by
  intro heq
  change _ = 'S' :: 'E' :: _ at heq
  obtain ⟨hfirst, htail⟩ := List.cons.inj heq
  exact h ⟨hfirst, (List.cons.inj htail).1⟩

lemma hasPart_line (control key : String) :
    hasPart "SEND_ONCE".toList (line control key) = true :=
  hasPart_append "SEND_ONCE".toList (' ' :: (control.toList ++ ' ' :: key.toList))

lemma newline_not_mem_line (hname : ∀ c ∈ control.toList, CharSet.word.has c = true)
    (hkey : '\n' ∉ key.toList) : '\n' ∉ line control key := by
  have hfront : '\n' ∉ "SEND_ONCE ".toList := by decide
  have hcontrol : '\n' ∉ control.toList := by
    intro h
    have hword := hname _ h
    rw [word_newline] at hword
    cases hword
  unfold line
  rw [mem_append, mem_append, mem_cons, not_or, not_or, not_or]
  exact ⟨hfront, hcontrol, by decide, hkey⟩

lemma verdict_success (control key : String) (timeout : Json) (reason : StreamEnd) :
    verdict timeout (replyLines (line control key) true "") reason = .ok () := by
  have hlines : replyLines (line control key) true "" =
      beginLine :: line control key :: [successLine] ++ [endLine] := rfl
  rw [Lirc.verdict_eq_ok_iff, hlines]
  refine ⟨_, true, Lirc.gather_packet (hasPart_line control key) ?_ ?_ [] [], by simp, .inl rfl⟩
  all_goals
    rw [mem_cons, not_or]
    exact ⟨line_ne (by decide), by decide⟩

/-- The reason of a failure is such that its answer is taken for a success. -/
def Misleading (request : Line) (message : String) (reason : StreamEnd) : Prop :=
  ∃ gathered complete, gather [] (replyLines request false message) = .ok (gathered, complete) ∧
    successLine ∈ gathered ∧ (complete = true ∨ reason ≠ .paused)

lemma not_mem_failure {l : Line} (hrequest : l ≠ line control key) (hstatus : l ≠ statusLine false)
    (hdata : l ≠ "DATA".toList) (hnumber : ∀ n : Nat, l ≠ (toString n).toList)
    (hl : l ∉ splitAtChar '\n' message.toList) :
    l ∉ line control key :: statusLine false :: reasonLines message := by
  rw [mem_cons, mem_cons, not_or, not_or]
  refine ⟨hrequest, hstatus, fun h => ?_⟩
  have hreason : ∀ l' ∈ reasonLines message, l ≠ l' :=
    forall_reasonLines hdata hnumber fun _ hl' heq => hl (heq ▸ hl')
  exact hreason l h rfl

lemma Misleading.mem_lines {reason : StreamEnd} (h : Misleading (line control key) message reason) :
    successLine ∈ splitAtChar '\n' message.toList := by
  obtain ⟨gathered, complete, hgather, hsuccess, -⟩ := h
  have hmem : successLine ∈ replyLines (line control key) false message :=
    (Lirc.mem_of_gather hgather hsuccess).resolve_left not_mem_nil
  refine Decidable.byContradiction fun hlines => ?_
  have hinside : successLine ∉ line control key :: statusLine false :: reasonLines message :=
    not_mem_failure (line_ne (by decide)) (by decide) (by decide) (ne_number (by decide)) hlines
  rw [replyLines, cons_append, mem_cons, mem_append] at hmem
  rcases hmem with hmem | hmem | hmem
  · exact absurd hmem (by decide)
  · exact hinside hmem
  · exact absurd hmem (by decide)

lemma misleading_of_mem_lines (hsuccess : successLine ∈ splitAtChar '\n' message.toList)
    (hbegin : beginLine ∉ splitAtChar '\n' message.toList)
    (hend : endLine ∉ splitAtChar '\n' message.toList) (reason : StreamEnd) :
    Misleading (line control key) message reason := by
  have hmem : successLine ∈ reasonLines message := by
    have hmessage : ¬message.isEmpty = true := by
      intro h
      rw [String.isEmpty_iff] at h
      rw [h] at hsuccess
      exact absurd hsuccess (by decide)
    rw [reasonLines, if_neg hmessage]
    exact mem_cons_of_mem _ (mem_cons_of_mem _ hsuccess)
  refine ⟨_, true, Lirc.gather_packet (hasPart_line control key) ?_ ?_ [] [], ?_, .inl rfl⟩
  · exact not_mem_failure (line_ne (by decide)) (by decide) (by decide) (ne_number (by decide)) hbegin
  · exact not_mem_failure (line_ne (by decide)) (by decide) (by decide) (ne_number (by decide)) hend
  · exact mem_append_left _ (mem_cons_of_mem _ (mem_cons_of_mem _
      (mem_cons_of_mem _ hmem)))

end Relay

namespace Lirc

open Relay (written)

/-! ### Other traffic -/

/-- Lines that are none of a control's business: packets that answer no request to emit, and lines outside
of packets. -/
inductive Unrelated : List Line → Prop
  | nil : Unrelated []
  | broadcast {line : Line} {rest : List Line} (hbegin : line ≠ beginLine) (hend : line ≠ endLine)
      (h : Unrelated rest) : Unrelated (line :: rest)
  | packet {lines rest : List Line} (hbegin : beginLine ∉ lines) (hend : endLine ∉ lines)
      (hfirst : ∀ line, lines.head? = some line → hasPart "SEND_ONCE".toList line = false)
      (h : Unrelated rest) : Unrelated (beginLine :: lines ++ endLine :: rest)

lemma Unrelated.gather_append {traffic : List Line} (h : Unrelated traffic) (reply rest : List Line) :
    ∃ reply', gather reply (traffic ++ rest) = gather reply' rest := by
  induction h generalizing reply with
  | nil => exact ⟨reply, rfl⟩
  | @broadcast line traffic hbegin hend _ ih =>
    obtain ⟨reply', hmore⟩ := ih (reply ++ [line])
    exact ⟨reply', by rw [cons_append, gather, if_neg hbegin, if_neg hend, hmore]⟩
  | @packet lines traffic hbegin hend hfirst _ ih =>
    have hne : endLine ≠ beginLine := by decide
    obtain ⟨reply', hmore⟩ := ih (beginLine :: lines ++ [endLine])
    refine ⟨reply', ?_⟩
    rw [List.append_assoc, List.cons_append, List.cons_append, gather, if_neg (Ne.symm hne),
      Lirc.gather_append hbegin hend, gather, if_pos rfl]
    -- what a packet answers is its first line, or its end if it has none
    cases lines with
    | nil =>
      change (if hasPart "SEND_ONCE".toList endLine = true then _ else _) = _
      exact hmore
    | cons line lines =>
      change (if hasPart "SEND_ONCE".toList line = true then _ else _) = _
      rw [if_neg (by rw [hfirst line rfl]; decide)]
      exact hmore

def packet (request : Line) (body : List Line) : List Line := beginLine :: request :: body ++ [endLine]

section Packet

variable {request : Line} {body : List Line}

def errorLine : Line := "ERROR".toList

def dataLine : Line := "DATA".toList

/-- A packet with the reason of a failure: after the status come a word, a count and lines. -/
def Reasoned (body : List Line) (count : Line) (lines : List Line) : Prop :=
  errorLine ∈ body ∧ ∃ status, body = status :: dataLine :: count :: lines

variable {count : Line} {lines : List Line}

lemma dataLines_packet {status word : Line} {n : Int} (hn : 0 ≤ n) :
    dataLines (packet request (status :: word :: count :: lines)) n = (lines ++ [endLine]).take n.toNat := by
  have hstop : (5 + n).toNat = n.toNat + 5 := by omega
  have hpositive : ¬5 + n < 0 := by omega
  simp only [dataLines, if_neg hpositive, hstop]
  rfl

section Judging

variable (hrequest : hasPart "SEND_ONCE".toList request = true)

include hrequest

lemma mem_packet_iff {line : Line} (hline : hasPart "SEND_ONCE".toList line = false)
    (hbegin : line ≠ beginLine) (hend : line ≠ endLine) : line ∈ packet request body ↔ line ∈ body := by
  have hne : line ≠ request := by
    rintro rfl
    rw [hrequest] at hline
    cases hline
  simp [packet, hbegin, hend, hne]

lemma judge_of_reasoned (hsuccess : successLine ∉ body) (h : Reasoned body count lines) :
    judge (packet request body) =
      match readInt (String.ofList count) with
      | .error e => .error (.foreign .value (e.message (String.ofList count)))
      | .ok n => .error (.failure .runtime ("LIRC remote control returned error: " ++
          String.ofList (join [' '] (dataLines (packet request body) n)))) := by
  obtain ⟨herror, status, rfl⟩ := h
  have hnone : ¬(packet request _).contains "SUCCESS".toList = true := fun hc =>
    hsuccess ((mem_packet_iff hrequest (by decide) (by decide) (by decide)).1 (contains_iff_mem.1 hc))
  have hsome : (packet request (status :: dataLine :: count :: lines)).contains "ERROR".toList = true :=
    contains_iff_mem.2 ((mem_packet_iff hrequest (by decide) (by decide) (by decide)).2 herror)
  have hcount : (packet request (status :: dataLine :: count :: lines))[4]? = some count := rfl
  rewrite [judge, if_neg hnone, hsome, if_pos, hcount]
  · rfl
  · simp [packet, dataLine]

lemma judge_of_not_reasoned (hsuccess : successLine ∉ body) (h : ∀ count lines, ¬Reasoned body count lines) :
    judge (packet request body) =
      .error (.failure .runtime "LIRC remote control returned unknown error") := by
  have hnone : ¬(packet request body).contains "SUCCESS".toList = true := fun hc =>
    hsuccess ((mem_packet_iff hrequest (by decide) (by decide) (by decide)).1 (contains_iff_mem.1 hc))
  rw [judge, if_neg hnone, if_neg]
  simp only [Bool.and_eq_true, beq_iff_eq, contains_iff_mem]
  rintro ⟨⟨herror, hlength⟩, hdata⟩
  have hmem : errorLine ∈ body := (mem_packet_iff hrequest (by decide) (by decide) (by decide)).1 herror
  rcases body with _ | ⟨status, _ | ⟨word, _ | ⟨count, lines⟩⟩⟩
  · simp [packet] at hlength
  · simp [packet] at hlength
  · simp [packet] at hlength
  · obtain rfl : word = dataLine := Option.some.inj hdata
    exact h count lines ⟨hmem, status, rfl⟩

end Judging

lemma readReply_traffic {timeout : Json} {traffic : List Line} {tail : List Char} {chunks : List Chunk}
    {reason : StreamEnd} (htraffic : Unrelated traffic)
    (hrequest : hasPart "SEND_ONCE".toList request = true)
    (hbegin : beginLine ∉ request :: body) (hend : endLine ∉ request :: body)
    (hlines : ∀ line ∈ traffic ++ request :: body, '\n' ∉ line)
    (h : Stream.Heard (written (traffic ++ packet request body) ++ tail) chunks reason) :
    readReply timeout chunks = judge (packet request body) := by
  have hall : ∀ line ∈ traffic ++ packet request body, '\n' ∉ line := by
    rw [List.forall_mem_append] at hlines ⊢
    refine ⟨hlines.1, ?_⟩
    rw [packet, List.cons_append, forall_mem_cons, List.forall_mem_append]
    exact ⟨by decide, hlines.2, by decide⟩
  obtain ⟨reply, hgather⟩ := htraffic.gather_append []
    (packet request body ++ (ended tail).map List.dropLast)
  have hpacket := gather_packet hrequest hbegin hend reply ((ended tail).map List.dropLast)
  rw [readReply_heard h, verdict, Relay.ended_written_append hall, List.append_assoc, hgather, packet,
    List.append_assoc, singleton_append, hpacket]
  rfl

/-- **The answer alone counts.** Whatever other traffic comes before it and whatever follows, and however
all of it is cut, a control returns on the status that says so, and fails with the reason if the answer
has one of the announced length. It fails without one if the answer has none. A reason of another length
is reported as well: what is announced too much is the end of the packet, and what is no number cannot
be read. -/
theorem reply_alone_counts {timeout : Json} {traffic : List Line} {tail : List Char}
    {chunks : List Chunk} {reason : StreamEnd} (htraffic : Unrelated traffic)
    (hrequest : Text.hasPart "SEND_ONCE".toList request = true)
    (hbegin : beginLine ∉ request :: body) (hend : endLine ∉ request :: body)
    (hlines : ∀ line ∈ traffic ++ request :: body, '\n' ∉ line)
    (h : Stream.Heard (written (traffic ++ packet request body) ++ tail) chunks reason) :
    readReply timeout chunks = judge (packet request body) ∧
    (∀ status data, body = status :: data → successLine ∉ data →
      (readReply timeout chunks = .ok () ↔ status = successLine)) ∧
    (successLine ∉ body →
      (∀ count lines, body = errorLine :: dataLine :: count :: lines →
        Number.readInt (String.ofList count) = .ok lines.length →
        readReply timeout chunks = .error (.failure .runtime
          ("LIRC remote control returned error: " ++ String.ofList (Text.join [' '] lines)))) ∧
      ((∀ count lines, ¬Reasoned body count lines) → readReply timeout chunks =
        .error (.failure .runtime "LIRC remote control returned unknown error")) ∧
      ∀ count lines, Reasoned body count lines →
        (∀ e, Number.readInt (String.ofList count) = .error e →
          readReply timeout chunks = .error (.foreign .value (e.message (String.ofList count)))) ∧
        ∀ n, Number.readInt (String.ofList count) = .ok n →
          readReply timeout chunks = .error (.failure .runtime
            ("LIRC remote control returned error: " ++
              String.ofList (Text.join [' '] (dataLines (packet request body) n)))) ∧
          (0 ≤ n → dataLines (packet request body) n = (lines ++ [endLine]).take n.toNat)) := by
  rw [readReply_traffic htraffic hrequest hbegin hend hlines h]
  refine ⟨rfl, ?_, fun hsuccess => ⟨?_, judge_of_not_reasoned hrequest hsuccess, fun count lines hbody => ?_⟩⟩
  · rintro status data rfl hdata
    rw [judge_eq_ok_iff, mem_packet_iff hrequest (by decide) (by decide) (by decide), mem_cons]
    exact ⟨fun hmem => (hmem.resolve_right hdata).symm, fun hstatus => .inl hstatus.symm⟩
  · rintro count lines rfl hcount
    rw [judge_of_reasoned hrequest hsuccess ⟨mem_cons_self .., errorLine, rfl⟩, hcount]
    dsimp only
    rw [dataLines_packet (Int.natCast_nonneg _), Int.toNat_natCast, take_left]
  · rw [judge_of_reasoned hrequest hsuccess hbody]
    refine ⟨fun e he => by rw [he], fun n hn => ⟨by rw [hn], fun hpositive => ?_⟩⟩
    obtain ⟨-, status, rfl⟩ := hbody
    exact dataLines_packet hpositive

/-- A packet about something else, a received key and a failure with its reason, cut inside of lines. -/
theorem reason_among_traffic :
    readReply .null [some "BEGIN\nVERSION\nEN".toList, some "D\n0 KEY_OK r\nBEGIN\nSEND_ONCE r K\nERROR".toList,
        some "\nDATA\n2\nno such\nkey\nEND\n".toList] =
      .error (.failure .runtime "LIRC remote control returned error: no such key") := by
  let traffic : List Line := [beginLine, "VERSION".toList, endLine, "0 KEY_OK r".toList]
  let body : List Line := [errorLine, dataLine, "2".toList, "no such".toList, "key".toList]
  have htraffic : Unrelated traffic :=
    @Unrelated.packet ["VERSION".toList] _ (by decide) (by decide) (by rintro _ ⟨rfl⟩; decide)
      (.broadcast (by decide) (by decide) .nil)
  let pieces : List (List Char) := ["BEGIN\nVERSION\nEN".toList,
    "D\n0 KEY_OK r\nBEGIN\nSEND_ONCE r K\nERROR".toList, "\nDATA\n2\nno such\nkey\nEND\n".toList]
  obtain ⟨-, -, hfailure⟩ := @reply_alone_counts "SEND_ONCE r K".toList body .null traffic [] _ .closed
    htraffic (by decide) (by decide) (by decide) (by decide)
    ⟨pieces.map some, [], ⟨pieces, rfl, by decide, by decide⟩, .finished, rfl⟩
  exact (hfailure (by decide)).1 _ _ rfl (by decide)

/-- A reason that is announced too long is not an unknown error: the end of the packet is taken for a part
of it. -/
theorem overcounted_reason_is_reported :
    ¬∀ (body : List Line) (chunks : List Chunk), beginLine ∉ body → endLine ∉ body → successLine ∉ body →
      (∀ line ∈ body, '\n' ∉ line) →
      Stream.Heard (written (packet "SEND_ONCE r K".toList body)) chunks .closed →
      (∀ count lines, body = errorLine :: dataLine :: count :: lines →
        Number.readInt (String.ofList count) ≠ .ok lines.length) →
      readReply .null chunks =
        .error (.failure .runtime "LIRC remote control returned unknown error") := by
  intro hall
  let body : List Line := [errorLine, dataLine, "2".toList, "no".toList]
  have hother : ∀ count lines, body = errorLine :: dataLine :: count :: lines →
      readInt (String.ofList count) ≠ .ok lines.length := by
    intro count lines hbody
    obtain ⟨-, hdata⟩ := List.cons.inj hbody
    obtain ⟨-, hcount⟩ := List.cons.inj hdata
    obtain ⟨rfl, rfl⟩ := List.cons.inj hcount
    decide
  have hunknown := hall body [some (written (packet "SEND_ONCE r K".toList body))] (by decide) (by decide)
    (by decide) (by decide) ⟨_, [], .single (by decide), .finished, rfl⟩ hother
  exact absurd hunknown (by decide)

end Packet

end Lirc

end SetTop
