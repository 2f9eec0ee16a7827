import SetTop.Proofs.Logging
import SetTop.Proofs.Remote.Replies

/-!
Pressing a key through a relay.

A control asks for a key by one line, and the relay has its own control press it and answers. What the
control makes of the answer is not always what has happened. The relay presses the word that a key
begins with, and reports the success of that. And a failure whose reason is misleading is taken for a
success.
-/

namespace SetTop

open Act Lirc String

/-! ### The newest connection -/

namespace Net

def joined (s : Session) (l : Link) : Session :=
  { s with bench := { s.bench with links := s.bench.links ++ [l] } }

def noted (s : Session) (e : Event) : Session :=
  { s with bench := { s.bench with journal := s.bench.journal ++ [e] } }

variable {s : Session} {l : Link}

lemma run_link : (link s.bench.links.length).run (joined s l) = (.ok l, joined s l) := by
  change (Except.ok (((s.bench.links ++ [l])[s.bench.links.length]?).getD { peer := {} }), _) = _
  rw [List.getElem?_concat_length]
  rfl

lemma run_modifyLink (f : Link → Link) :
    (modifyLink s.bench.links.length f).run (joined s l) = (.ok (), joined s (f l)) := by
  have hmodify : (s.bench.links ++ [l]).modify s.bench.links.length f = s.bench.links ++ [f l] := by
    induction s.bench.links with
    | nil => rfl
    | cons _ _ ih => simpa using ih
  change (Except.ok (), _) = _
  rw [joined, joined, ← hmodify]

lemma run_reading {α : Type} (f : List Chunk → α × List Chunk) :
    (reading s.bench.links.length f).run (joined s l) = (.ok (f l.peer.chunks).1,
      joined s { l with peer := { l.peer with chunks := (f l.peer.chunks).2 } }) := by
  have hheard : heard (joined s l) s.bench.links.length = l.peer.chunks := by
    change (((s.bench.links ++ [l])[s.bench.links.length]?).getD { peer := {} }).peer.chunks = _
    rw [List.getElem?_concat_length]
    rfl
  rw [heard_reading, hheard, setChunks, run_modifyLink]

lemma run_send (hsound : l.peer.broken = false) (hlasts : l.peer.lasts ≠ some 0) (text : String) :
    (send s.bench.links.length text).run (joined s l) =
      (.ok (), joined (noted s (.send l.peer.label text))
        { l with peer := { l.peer with lasts := l.peer.lasts.map (· - 1) } }) := by
  have hopen : ¬(l.peer.broken || l.peer.lasts == some 0) = true := by simp [hsound, hlasts]
  rw [send, bind_of_ok run_link, if_neg hopen]
  rw [bind_of_ok (run_modifyLink _)]
  rfl

end Net

namespace Lirc

variable {s : Session} {daemon : Peer} {peers : List Peer}

def called (s : Session) (address : Address) (peers : List Peer) : Session :=
  { s with bench := { s.bench with journal := s.bench.journal ++ [.connect address], peers := peers } }

section Daemon

variable (hpeers : s.bench.peers = daemon :: peers) (hopen : daemon.refusal = none)

include hpeers hopen

lemma run_call (address : Address) (timeout : Option Num) :
    (Net.connect address timeout).run s = (.ok s.bench.links.length,
      Net.joined (called s address peers) { peer := daemon, timeout := timeout }) := by
  have hnote : (note (.connect address)).run s = (.ok (), Net.noted s (.connect address)) := rfl
  have hcalled : (modifyBench fun b => { b with peers := b.peers.tail }).run
      (Net.noted s (.connect address)) = (.ok (), called s address peers) := by
    change (Except.ok (), called s address s.bench.peers.tail) = _
    rw [hpeers]
    rfl
  have hnext : (Net.noted s (.connect address)).bench.peers.headD {} = daemon := by
    change s.bench.peers.headD {} = daemon
    rw [hpeers]
    rfl
  rw [Net.connect, bind_of_ok hnote, bind_of_ok (run_bench _)]
  rw [hnext, bind_of_ok hcalled, hopen]
  rfl

lemma run_connect (address : Address) : (connect address).run s = (.ok s.bench.links.length,
      Net.joined (called s address peers) { peer := daemon, timeout := some patience }) := by
  have hor (explain : String) : (Net.connectOr address (some patience) explain).run s =
      (.ok s.bench.links.length,
        Net.joined (called s address peers) { peer := daemon, timeout := some patience }) := by
    rw [Net.connectOr, bind_of_ok (run_attempt _ s), run_call hpeers hopen]
    rfl
  cases address with
  | path | host => exact hor _

/-- A session in which a daemon was asked for a key, and all that it says was heard. -/
def asked (s : Session) (c : Control) (key : String) (daemon : Peer) (peers : List Peer) : Session :=
  Net.joined (Net.noted (called s c.daemon peers) (.send daemon.label (request c.name key)))
    { peer := { daemon with lasts := daemon.lasts.map (· - 1), chunks := [] }, timeout := some patience }

variable (hsound : daemon.broken = false) (hlasts : daemon.lasts ≠ some 0)

include hsound hlasts

lemma run_press (c : Control) (key : String) : (c.press (.name key)).run s =
      (do Act.ofExcept (readReply (.number patience) daemon.chunks)
          Log.debug ("Pressed " ++ key)).run (asked s c key daemon peers) := by
  -- the session is given in both, since the number of its connections does not tell which one is meant
  have hsend : (Net.send s.bench.links.length (request c.name key)).run
      (Net.joined (called s c.daemon peers) { peer := daemon, timeout := some patience }) = _ :=
    Net.run_send hsound hlasts _
  have hread : (Net.reading s.bench.links.length fun chunks => (chunks, ([] : List Chunk))).run
      (Net.joined (Net.noted (called s c.daemon peers) (.send daemon.label (request c.name key)))
        { peer := { daemon with lasts := daemon.lasts.map (· - 1) }, timeout := some patience }) =
      (.ok daemon.chunks, asked s c key daemon peers) :=
    Net.run_reading (s := Net.noted (called s c.daemon peers) _) _
  rw [Control.press, bind_of_ok (run_connect hpeers hopen c.daemon)]
  change (Net.send s.bench.links.length (request c.name key) >>= _).run _ = _
  rw [bind_of_ok hsend, bind_of_ok hread]
  rfl

lemma press_comes_out (hknown : Log.Known s) (c : Control) (key : String) :
    ((c.press (.name key)).run s).1 = readReply (.number patience) daemon.chunks ∧
      ((c.press (.name key)).run s).2.bench.journal =
        s.bench.journal ++ [.connect c.daemon, .send daemon.label (request c.name key)] := by
  have hjournal : (asked s c key daemon peers).bench.journal =
      s.bench.journal ++ [.connect c.daemon, .send daemon.label (request c.name key)] :=
    List.append_assoc ..
  rw [run_press hpeers hopen hsound hlasts]
  cases hreply : readReply (.number patience) daemon.chunks with
  | error e =>
    exact ⟨rfl, hjournal⟩
  | ok _ =>
    rw [bind_of_ok (run_ofExcept (.ok ()) _)]
    obtain ⟨_, _, _, haside⟩ := Log.aside_debug ("Pressed " ++ key) (asked s c key daemon peers)
    have hasked : Log.Known (asked s c key daemon peers) := hknown
    refine ⟨Log.ok_debug hasked _, ?_⟩
    rw [haside]
    exact hjournal

end Daemon

end Lirc

namespace Relay

/-! ### What the relay does -/

/-- What the relay does when it is asked for a key, up to the answer that it has for the client. -/
def answerTo (remote : Remote) (control key : String) : Act (Option String) := do
  let request := ofList (line control key)
  match pressed? control key with
  | none =>
    debug ("Ignoring invalid command: " ++ request)
    return none
  | some word =>
    debug ("Received " ++ word)
    match ← Act.attempt (remote.press (.name word)) with
    | .ok () => return some (response request true)
    | .error e =>
      if !e.isOrdinary then throw e
      debug ("Error pressing key " ++ quote word ++ ": " ++ e.describe)
      return some (response request false e.text)

/-- Sends an answer, if there is one. A client that has gone away is no error. -/
def deliver (link : Nat) : Option String → Act Unit
  | none => pure ()
  | some text => do
    match ← Act.attempt (Net.send link text) with
    | .ok () => pure ()
    | .error e => if e.isOrdinary then pure () else throw e

def expecting (s : Session) (visitors : List Peer) : Session :=
  { s with bench := { s.bench with visitors := visitors } }

def taken (s : Session) (visitor : Peer) (visitors : List Peer) : Session :=
  Net.joined (expecting s visitors) { peer := { visitor with chunks := [] } }

variable {control key : String}

lemma obey_line (hname : ∀ c ∈ control.toList, CharSet.word.has c = true) (hkey : '\n' ∉ key.toList)
    (remote : Remote) (link : Nat) :
    obey remote link (line control key ++ ['\n']) = answerTo remote control key >>= deliver link := by
  rw [obey, Text.dropEndWhile_line (newline_not_mem_line hname hkey), command?_line hname, answerTo]
  cases pressed? control key with
  | none =>
    rw [bind_assoc]
    simp only [pure_bind]
    exact (bind_pure _).symm
  | some word =>
    rw [bind_assoc]
    refine bind_congr fun _ => ?_
    rw [bind_assoc]
    refine bind_congr fun r => ?_
    cases r with
    | ok _ => exact (pure_bind _ _).symm
    | error e =>
      dsimp only
      by_cases hstop : (!e.isOrdinary) = true
      · rw [if_pos hstop, if_pos hstop]
        rfl
      · rw [if_neg hstop, if_neg hstop, bind_assoc]
        simp only [pure_bind]
        rfl

lemma run_serve (hname : ∀ c ∈ control.toList, CharSet.word.has c = true) (hkey : '\n' ∉ key.toList)
    (remote : Remote) {s : Session} {visitor : Peer} {visitors : List Peer}
    (hvisitors : s.bench.visitors = visitor :: visitors) (hcome : visitor.refusal = none)
    (hrequest : Stream.Cut (request control key).toList visitor.chunks) (fuel : Nat) :
    (serve remote (fuel + 1)).run s =
      (do deliver s.bench.links.length (← answerTo remote control key)
          serve remote fuel).run (taken s visitor visitors) := by
  have haccept : Net.accept.run s = (.ok (s.bench.links.length, "10.0.0.1"),
      Net.joined (expecting s visitors) { peer := visitor }) := by
    rw [Net.accept, bind_of_ok (run_bench s), hvisitors]
    dsimp only
    rw [hcome]
    rfl
  have hdrain : (Net.drain s.bench.links.length).run
      (Net.joined (expecting s visitors) { peer := visitor }) =
      (.ok (line control key ++ ['\n']), taken s visitor visitors) := by
    rw [← toList_request, ← hrequest.all]
    exact Net.run_reading (s := expecting s visitors) _
  have hforM (text : List Char) : [text].forM (obey remote s.bench.links.length) =
      obey remote s.bench.links.length text >>= fun _ => pure () := rfl
  rw [serve, bind_of_ok haccept]
  rw [bind_of_ok hdrain, Text.lines_line (newline_not_mem_line hname hkey), hforM,
    obey_line hname hkey]
  simp only [bind_assoc, pure_bind]

/-! ### What comes of it -/

/-- What comes of it when the relay's control is asked for a word. -/
def outcome (remote : Remote) (word : String) (s : Session) : Except Fault Unit :=
  ((do debug ("Received " ++ word)
       remote.press (.name word)).run s).1

def said : Except Fault (Option String) → List Char
  | .ok (some text) => text.toList
  | _ => []

lemma said_of_pressed?_eq_none (h : pressed? control key = none) (remote : Remote) (s : Session) :
    said ((answerTo remote control key).run s).1 = [] := by
  rw [answerTo, h]
  rw [run_bind]
  split <;> rfl

lemma answerTo_of_pressed?_eq_some {word : String} (h : pressed? control key = some word)
    (remote : Remote) (s : Session) :
    (outcome remote word s = .ok () ∧ ((answerTo remote control key).run s).1 =
        .ok (some (response (ofList (line control key)) true))) ∨
      ∃ e, outcome remote word s = .error e ∧
        (said ((answerTo remote control key).run s).1 = [] ∨ ((answerTo remote control key).run s).1 =
          .ok (some (response (ofList (line control key)) false e.text))) := by
  rw [answerTo, h, outcome]
  rcases hdebug : (debug ("Received " ++ word)).run s with ⟨r, s₁⟩
  cases r with
  | error e =>
    rw [bind_of_error hdebug, bind_of_error hdebug]
    exact .inr ⟨e, rfl, .inl rfl⟩
  | ok _ =>
    rw [bind_of_ok hdebug, bind_of_ok hdebug, bind_of_ok (run_attempt _ s₁)]
    cases ((remote.press (.name word)).run s₁).1 with
    | ok _ => exact .inl ⟨rfl, rfl⟩
    | error e =>
      refine .inr ⟨e, rfl, ?_⟩
      dsimp only
      split
      · exact .inl rfl
      · rw [run_bind]
        split
        · exact .inr rfl
        · exact .inl rfl

variable {timeout : Json} {chunks : List Chunk} {reason : StreamEnd}

lemma readReply_nothing (h : Stream.Heard [] chunks reason) :
    readReply timeout chunks ≠ .ok () := by
  rw [readReply_heard h, ne_eq, verdict_eq_ok_iff]
  rintro ⟨_, _, ⟨rfl⟩, hsuccess, -⟩
  cases hsuccess

/-! ### Control and relay -/

/-- A control and a relay on one line, while a key is pressed: the next visitor of the relay says what
the control sends, and the control hears from its next peer what the relay has to answer. How both
texts are cut on their way is open. -/
structure Wired (c : Lirc.Control) (key : String) (remote : Remote) (client relay : Session) where
  visitor : Peer
  visitors : List Peer
  daemon : Peer
  peers : List Peer
  /-- why the control hears nothing after the answer -/
  reason : StreamEnd
  visitors_eq : relay.bench.visitors = visitor :: visitors
  visitor_comes : visitor.refusal = none
  request_cut : Stream.Cut (request c.name key).toList visitor.chunks
  peers_eq : client.bench.peers = daemon :: peers
  daemon_answers : daemon.refusal = none
  daemon_sound : daemon.broken = false
  daemon_lasts : daemon.lasts ≠ some 0
  answer_heard : Stream.Heard
    (said ((answerTo remote c.name key).run (taken relay visitor visitors)).1) daemon.chunks reason

namespace Wired

variable {c : Lirc.Control} {remote : Remote} {client relay : Session}
  (w : Wired c key remote client relay)

def start : Session := taken relay w.visitor w.visitors

/-- The relay has a failure to tell, and it is told so that it is taken for a success. -/
def Misled (word : String) : Prop :=
  ∃ e, outcome remote word w.start = .error e ∧
    ((answerTo remote c.name key).run w.start).1 =
      .ok (some (response (ofList (line c.name key)) false e.text)) ∧
    Misleading (line c.name key) e.text w.reason

lemma readReply_eq_ok_iff (hline : '\n' ∉ line c.name key) (timeout : Json) :
    readReply timeout w.daemon.chunks = .ok () ↔ ∃ word, pressed? c.name key = some word ∧
      (outcome remote word w.start = .ok () ∨ w.Misled word) := by
  have hheard : Stream.Heard (said ((answerTo remote c.name key).run w.start).1)
      w.daemon.chunks w.reason := w.answer_heard
  have htold {success : Bool} {data : String} (h : ((answerTo remote c.name key).run w.start).1 =
      .ok (some (response (ofList (line c.name key)) success data))) :
      readReply timeout w.daemon.chunks =
        verdict timeout (replyLines (line c.name key) success data) w.reason := by
    rw [h, said, toList_response, toList_ofList] at hheard
    rw [readReply_heard hheard, ended_written (not_mem_replyLines hline success data)]
  constructor
  · intro hok
    cases hpressed : pressed? c.name key with
    | none =>
      rw [said_of_pressed?_eq_none hpressed] at hheard
      exact absurd hok (readReply_nothing hheard)
    | some word =>
      refine ⟨word, rfl, ?_⟩
      rcases answerTo_of_pressed?_eq_some hpressed remote w.start with ⟨hdone, -⟩ | ⟨e, hfailed, hsaid⟩
      · exact .inl hdone
      -- the failure was told, since silence is never taken for a success
      rcases hsaid with hsaid | hanswer
      · rw [hsaid] at hheard
        exact absurd hok (readReply_nothing hheard)
      · rw [htold hanswer, verdict_eq_ok_iff] at hok
        exact .inr ⟨e, hfailed, hanswer, hok⟩
  · rintro ⟨word, hpressed, hdone | ⟨e, -, hanswer, hmisleading⟩⟩
    · rcases answerTo_of_pressed?_eq_some hpressed remote w.start with ⟨-, hanswer⟩ | ⟨e, hfailed, -⟩
      · rw [htold hanswer, verdict_success]
      · rw [hdone] at hfailed
        cases hfailed
    · rw [htold hanswer, verdict_eq_ok_iff]
      exact hmisleading

end Wired

/-- A control and a relay on one line. The control asks for the key once, and the relay has its own
control press at most one word once and answers. The control returns if and only if that word was
pressed without a failure, or the failure is misleading. The word is the key only if the key has no
other characters, and a failure misleads only if a line of its reason says what a success says, and
certainly if no line of it begins or ends a packet. -/
theorem press_through_relay {c : Lirc.Control} {remote : Remote} {client relay : Session}
    (w : Wired c key remote client relay) (hname : ∀ x ∈ c.name.toList, CharSet.word.has x = true)
    (hkey : '\n' ∉ key.toList) (hknown : Log.Known client) :
    (∀ fuel, (serve remote (fuel + 1)).run relay =
      (do deliver relay.bench.links.length (← answerTo remote c.name key)
          serve remote fuel).run w.start) ∧
    ((c.press (.name key)).run client).2.bench.journal = client.bench.journal ++
      [.connect c.daemon, .send w.daemon.label (Lirc.request c.name key)] ∧
    (((c.press (.name key)).run client).1 = .ok () ↔ ∃ word, pressed? c.name key = some word ∧
      (outcome remote word w.start = .ok () ∨ w.Misled word)) ∧
    (pressed? c.name key = some key ↔
      c.name ≠ "" ∧ key ≠ "" ∧ ∀ x ∈ key.toList, CharSet.word.has x = true) ∧
    ∀ message, (Misleading (line c.name key) message w.reason →
        Lirc.successLine ∈ Text.splitAtChar '\n' message.toList) ∧
      (Lirc.successLine ∈ Text.splitAtChar '\n' message.toList →
        Lirc.beginLine ∉ Text.splitAtChar '\n' message.toList →
        Lirc.endLine ∉ Text.splitAtChar '\n' message.toList →
        Misleading (line c.name key) message w.reason) := by
  obtain ⟨hpress, hjournal⟩ := press_comes_out w.peers_eq w.daemon_answers w.daemon_sound
    w.daemon_lasts hknown c key
  refine ⟨run_serve hname hkey remote w.visitors_eq w.visitor_comes w.request_cut, hjournal, ?_,
    pressed?_eq_some_self_iff, fun message => ⟨Misleading.mem_lines, ?_⟩⟩
  · rw [hpress]
    exact w.readReply_eq_ok_iff (newline_not_mem_line hname hkey) _
  · intro hsuccess hbegin hend
    exact misleading_of_mem_lines hsuccess hbegin hend w.reason

/-- A control that fails with `SUCCESS` for its reason is believed to have pressed the key. -/
theorem failure_taken_for_success : ∃ (client relay : Session)
      (w : Wired ⟨"stbt", .path Lirc.defaultSocket⟩ "KEY_OK" (.error "SUCCESS") client relay),
      ((Lirc.Control.press ⟨"stbt", .path Lirc.defaultSocket⟩ (.name "KEY_OK")).run client).1 = .ok () ∧
      outcome (.error "SUCCESS") "KEY_OK" w.start = .error (.failure .runtime "SUCCESS") := by
  have hname : ∀ x ∈ "stbt".toList, CharSet.word.has x = true :=
    List.all_eq_true.1 (by decide +kernel)
  have hword : ∀ x ∈ "KEY_OK".toList, CharSet.word.has x = true :=
    List.all_eq_true.1 (by decide +kernel)
  have hpressed : pressed? "stbt" "KEY_OK" = some "KEY_OK" :=
    pressed?_eq_some_self_iff.2 ⟨by decide, by decide, hword⟩
  let visitor : Peer := { chunks := [some (request "stbt" "KEY_OK").toList] }
  let relay : Session := { verbosity := some 0, bench := { visitors := [visitor] } }
  let answer := response (ofList (line "stbt" "KEY_OK")) false "SUCCESS"
  let daemon : Peer := { chunks := [some answer.toList] }
  let client : Session := { verbosity := some 0, bench := { peers := [daemon] } }
  have houtcome : outcome (.error "SUCCESS") "KEY_OK" (taken relay visitor []) =
      .error (.failure .runtime "SUCCESS") := rfl
  have hanswer : ((answerTo (.error "SUCCESS") "stbt" "KEY_OK").run (taken relay visitor [])).1 =
      .ok (some answer) := by
    rw [answerTo, hpressed]
    rfl
  have hheard : Stream.Heard (said ((answerTo (.error "SUCCESS") "stbt" "KEY_OK").run
      (taken relay visitor [])).1) daemon.chunks .closed := by
    rw [hanswer]
    exact ⟨daemon.chunks, [], .single (by decide), .finished, rfl⟩
  let w : Wired ⟨"stbt", .path defaultSocket⟩ "KEY_OK" (.error "SUCCESS") client relay :=
    { visitor := visitor, visitors := [], daemon := daemon, peers := [], reason := .closed
      visitors_eq := rfl, visitor_comes := rfl, request_cut := .single (by decide)
      peers_eq := rfl, daemon_answers := rfl, daemon_sound := rfl, daemon_lasts := nofun
      answer_heard := hheard }
  obtain ⟨-, -, hpress, -, hmisleads⟩ := press_through_relay w hname (by decide) rfl
  have hmisleading := (hmisleads "SUCCESS").2 (by decide) (by decide) (by decide)
  have hreturns := hpress.2 ⟨"KEY_OK", hpressed, .inr ⟨_, houtcome, hanswer, hmisleading⟩⟩
  exact ⟨client, relay, w, hreturns, houtcome⟩

end Relay

end SetTop
