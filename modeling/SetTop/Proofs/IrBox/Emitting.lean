import SetTop.IrBox.Client
import SetTop.Proofs.IrBox.Framing

/-!
Emitting a signal, and waiting until it has been emitted.

The place of an output in the command may be counted from the end as well, so sixteen numbers below
one are taken for outputs too.

What the emitter says is a text in pieces, of which some may have been received before (`Says`). The wait ends well if the text begins with an
acknowledgement and a report that have the same number, whichever number that is.
-/

namespace SetTop.IrBox

open List UInt8 IrBox.Box Data
open Act
open Proxy (OnlyReads label run_link sends)

/-! ### Responses in pieces -/

variable {m : Message} {rest d text data : Data} {r : Response} {chunks : List Chunk}
  {reason : StreamEnd} {s s₁ : Session} {link k k' : Nat} {port power : Int}

lemma Message.text_append_inj {m' : Message} {rest' : Data} (h : m.text ++ rest = m'.text ++ rest') :
    m = m' ∧ rest = rest' := by
  have hsplit := splitResponse_text m rest
  rw [h, splitResponse_text] at hsplit
  simp only [Except.ok.injEq, Option.some.injEq, Prod.mk.injEq, Message.response,
    Response.mk.injEq] at hsplit
  obtain ⟨⟨htype, hdata⟩, hrest⟩ := hsplit
  cases m
  cases htype
  cases hdata
  exact ⟨rfl, hrest.symm⟩

lemma ofNat_joined {high low : Char} (h : low.toNat < 256) :
    Char.ofNat ((high.toNat * 256 + low.toNat) / 256) = high ∧
      Char.ofNat ((high.toNat * 256 + low.toNat) % 256) = low := by
  have hhigh : (high.toNat * 256 + low.toNat) / 256 = high.toNat := by omega
  have hlow : (high.toNat * 256 + low.toNat) % 256 = low.toNat := by omega
  rw [hhigh, hlow, Char.ofNat_toNat, Char.ofNat_toNat]
  exact ⟨rfl, rfl⟩

lemma exists_message_of_splitResponse (h : splitResponse d = .ok (some (r, rest))) :
    ∃ m : Message, m.response = r ∧ d = m.text ++ rest := by
  rcases d with _ | ⟨high, _ | ⟨low, _ | ⟨type, left⟩⟩⟩
  · cases h
  · cases h
  · cases h
  · by_cases hheader : high.toNat < 256 ∧ low.toNat < 256
    · rw [splitResponse_cons hheader] at h
      split at h
      · rename_i hlength
        split at h
        · rename_i hbytes
          obtain ⟨rfl, rfl⟩ := h
          rw [all_cons, Bool.and_eq_true, decide_eq_true_eq] at hbytes
          have htake : (left.take (high.toNat * 256 + low.toNat)).length =
              high.toNat * 256 + low.toNat := length_take_of_le hlength
          refine ⟨⟨type.toNat, _, hbytes.1, by omega, hbytes.2⟩, rfl, ?_⟩
          rw [Message.text_eq]
          simp only [cons_append, htake, ofNat_joined hheader.2, Char.ofNat_toNat, take_append_drop]
        · cases h
      · cases h
    · rw [splitResponse, if_neg hheader] at h
      cases h

/-- There is no message at the front of some data. -/
def NoMessage (d : Data) : Prop := ∀ (m : Message) (rest : Data), d ≠ m.text ++ rest

lemma noMessage_of_splitResponse (h : ∀ found, splitResponse d ≠ .ok (some found)) : NoMessage d := by
  rintro m rest rfl
  exact h _ (splitResponse_text m rest)

/-- What a reader with some data in hand gets next is the message at the front of the data and the text
that arrives, or a failure if there is none. -/
def ReadsNext (buffer text : Data) (chunks : List Chunk) (reason : StreamEnd) : Prop :=
  (∃ (m : Message) (left more : Data) (later : List Chunk), buffer ++ text = m.text ++ (left ++ more) ∧
    nextResponse buffer chunks = (.ok m.response, left, later) ∧ Stream.Heard more later reason) ∨
  NoMessage (buffer ++ text) ∧ ∃ e left later, nextResponse buffer chunks = (.error e, left, later)

lemma readsNext_of_split {buffer : Data} (h : Stream.Heard text chunks reason)
    (hsplit : splitResponse buffer ≠ .ok none) : ReadsNext buffer text chunks reason := by
  have happend := splitResponse_append hsplit text
  rcases hbuffer : splitResponse buffer with e | _ | ⟨r, rest⟩
  · rw [hbuffer] at happend
    refine .inr ⟨noMessage_of_splitResponse (by simp [happend, Except.map]), e, buffer, chunks, ?_⟩
    rw [nextResponse.eq_def, hbuffer]
  · exact absurd hbuffer hsplit
  · obtain ⟨m, rfl, hm⟩ := exists_message_of_splitResponse hbuffer
    refine .inl ⟨m, rest, text, chunks, by rw [hm, append_assoc], ?_, h⟩
    rw [nextResponse.eq_def, hbuffer]

lemma readsNext_heard (buffer : Data) (h : Stream.Heard text chunks reason) :
    ReadsNext buffer text chunks reason := by
  obtain ⟨pieces, after, hcut, hends, rfl⟩ := h
  induction pieces generalizing buffer text with
  | nil =>
    by_cases hsplit : splitResponse buffer = .ok none
    · have hempty : NoMessage buffer := noMessage_of_splitResponse (by simp [hsplit])
      rw [Stream.cut_nil_right.1 hcut, ReadsNext, append_nil, nextResponse.eq_def, hsplit]
      cases hends with
      | finished | shut | silent => exact .inr ⟨hempty, _, _, _, rfl⟩
    · exact readsNext_of_split ⟨_, _, hcut, hends, rfl⟩ hsplit
  | cons piece pieces ih =>
    by_cases hsplit : splitResponse buffer = .ok none
    · obtain ⟨c, more, rfl, hc, rfl, hmore⟩ := Stream.cut_cons.1 hcut
      rw [ReadsNext, cons_append, nextResponse.eq_def, hsplit, ← append_assoc]
      dsimp only
      rw [if_neg (by simpa using hc)]
      exact ih _ hmore
    · exact readsNext_of_split ⟨_, _, hcut, hends, rfl⟩ hsplit

/-- All that is still to be read from a connection: what was received and not used, and what arrives.
Once reading has ended there is nothing. -/
def Says (s : Session) (link : Nat) (d : Data) : Prop :=
  ∃ l, s.bench.links[link]? = some l ∧
    (l.ended = true ∧ d = [] ∨ l.ended = false ∧
      ∃ text reason, Stream.Heard text l.peer.chunks reason ∧ l.buffer ++ text = d)

lemma receiveResponse_says (h : Says s link d) : (∃ m rest s', d = Message.text m ++ rest ∧
      (receiveResponse link).run s = (.ok m.response, s') ∧ Says s' link rest) ∨
    NoMessage d ∧ ∃ e s', (receiveResponse link).run s = (.error e, s') := by
  obtain ⟨l, hl, hl'⟩ := h
  rw [receiveResponse, bind_of_ok (run_link link s), hl, Option.getD_some]
  obtain ⟨hended, rfl⟩ | ⟨hended, text, reason, hheard, rfl⟩ := hl'
  · rw [if_pos hended]
    exact .inr ⟨noMessage_of_splitResponse (by simp [splitResponse]), _, s, rfl⟩
  · rw [if_neg (by simp [hended])]
    obtain ⟨m, left, more, later, htext, hnext, hmore⟩ | ⟨hnot, e, left, later, hnext⟩ :=
      readsNext_heard l.buffer hheard
    · rw [hnext]
      refine .inl ⟨m, left ++ more, _, htext, rfl,
        { l with buffer := left, peer := { l.peer with chunks := later }, ended := false }, ?_,
        .inr ⟨rfl, more, reason, hmore, rfl⟩⟩
      exact (getElem?_modify_eq ..).trans (by rw [hl]; rfl)
    · rw [hnext]
      exact .inr ⟨hnot, e.fault, _, rfl⟩

lemma onlyReads_receiveResponse (link : Nat) : Moves OnlyReads (receiveResponse link) := by
  refine .bind (.of_run fun _ => rfl) fun l => .ite (.throw _) ?_
  refine .bind (fun _ => ⟨rfl, rfl⟩) fun _ => ?_
  split
  · exact .pure _
  · exact .throw _

/-! ### The answer to a command -/

def Reports (k : Nat) (d : Data) : Prop :=
  k < 65536 ∧ ∃ (report : Message) (rest : Data),
    d = report.text ++ rest ∧ report.type = asyncComplete ∧ numberData k <+: report.data

/-- The data begin with the acknowledgement of a number and the report on it. -/
def Answers (k : Nat) (d : Data) : Prop :=
  ∃ (ack : Message) (code : Char) (rest : Data), d = ack.text ++ rest ∧ ack.type = outputAsync ∧
    ack.data = [Char.ofNat (k % 256), Char.ofNat (k / 256), code, '\x01'] ∧ Reports k rest

lemma numberData_inj (hk : k < 65536) (hk' : k' < 65536) (h : numberData k = numberData k') :
    k = k' := by
  have hread := bigEndian_numberData hk all_nil
  rw [h, bigEndian_numberData hk' rfl] at hread
  exact (Except.ok.inj hread).symm

lemma Reports.unique (h : Reports k d) (h' : Reports k' d) : k = k' := by
  obtain ⟨hk, report, rest, rfl, -, hreport⟩ := h
  obtain ⟨hk', report', rest', hd, -, hreport'⟩ := h'
  obtain ⟨rfl, -⟩ := Message.text_append_inj hd
  exact numberData_inj hk hk'
    ((prefix_of_prefix_length_le hreport hreport' (Nat.le_refl 2)).eq_of_length rfl)

lemma Answers.unique (h : Answers k d) (h' : Answers k' d) : k = k' := by
  obtain ⟨ack, code, rest, rfl, -, -, hreports⟩ := h
  obtain ⟨ack', code', rest', hd, -, -, hreports'⟩ := h'
  obtain ⟨-, rfl⟩ := Message.text_append_inj hd
  exact hreports.unique hreports'

lemma readAck_eq_ok {code ack : Nat} (h : readAck data = .ok (k, code, ack)) :
    k < 65536 ∧ ∃ c, data = [Char.ofNat (k % 256), Char.ofNat (k / 256), c, Char.ofNat ack] := by
  unfold readAck bytes at h
  split at h
  · rename_i hbytes
    rcases data with _ | ⟨low, _ | ⟨high, _ | ⟨c, _ | ⟨a, _ | ⟨x, more⟩⟩⟩⟩⟩
    case cons.cons.cons.cons.nil =>
      simp only [all_cons, all_nil, Bool.and_true, Bool.and_eq_true, decide_eq_true_eq] at hbytes
      have hread : (Except.ok ((ofNat high.toNat).toNat * 256 + (ofNat low.toNat).toNat,
        (ofNat c.toNat).toNat, (ofNat a.toNat).toNat) : Except Fault (Nat × Nat × Nat)) =
          .ok (k, code, ack) := h
      simp only [toNat_ofNat'] at hread
      obtain ⟨rfl, -, rfl⟩ := hread
      rw [Nat.mod_eq_of_lt hbytes.1, Nat.mod_eq_of_lt hbytes.2.1, Nat.mod_eq_of_lt hbytes.2.2.2,
        Char.ofNat_toNat]
      obtain ⟨hhigh, hlow⟩ := @ofNat_joined high low hbytes.1
      exact ⟨by omega, c, by rw [hhigh, hlow]⟩
    all_goals cases h
  · cases h

lemma readAck_of_lt {c : Char} (hk : k < 65536) (hc : c.toNat < 256) :
    readAck [Char.ofNat (k % 256), Char.ofNat (k / 256), c, '\x01'] = .ok (k, c.toNat, 1) := by
  have hhigh : (Char.ofNat (k / 256)).toNat = k / 256 := toNat_ofNat_of_lt (by omega)
  have hlow : (Char.ofNat (k % 256)).toNat = k % 256 := toNat_ofNat_of_lt (by omega)
  have hbytes : [Char.ofNat (k % 256), Char.ofNat (k / 256), c, '\x01'].all (·.toNat < 256) = true := by
    simp only [all_cons, Bool.and_eq_true, decide_eq_true_eq]
    exact ⟨by omega, by omega, hc, by decide⟩
  have hsum : k / 256 * 256 + k % 256 = k := by omega
  rw [readAck, bytes, if_pos hbytes]
  change Except.ok ((ofNat _).toNat * 256 + (ofNat _).toNat, (ofNat _).toNat, 1) = _
  simp only [toNat_ofNat', hhigh, hlow]
  rw [Nat.mod_eq_of_lt hc, Nat.mod_eq_of_lt (by omega), Nat.mod_eq_of_lt (by omega), hsum]

lemma readCompletion_eq_ok_iff (hbytes : data.all (·.toNat < 256) = true) :
    readCompletion data = .ok k ↔ k < 65536 ∧ numberData k <+: data := by
  have hshort (h : data.length < 2) : ¬numberData k <+: data := fun hpre =>
    absurd hpre.length_le (by rw [numberData, length_cons, length_singleton]; omega)
  rcases data with _ | ⟨high, _ | ⟨low, rest⟩⟩
  · refine ⟨fun h => ?_, fun h => absurd h.2 (hshort (by simp))⟩
    cases h
  · refine ⟨fun h => ?_, fun h => absurd h.2 (hshort (by simp))⟩
    rw [readCompletion, pair, bytes, take_of_length_le (by simp), if_pos hbytes] at h
    cases h
  · simp only [all_cons, Bool.and_eq_true, decide_eq_true_eq] at hbytes
    have hread : readCompletion (high :: low :: rest) = .ok (high.toNat * 256 + low.toNat) := by
      rw [readCompletion, pair, bytes, if_pos (by simp [hbytes.1, hbytes.2.1])]
      change Except.ok ((ofNat _).toNat * 256 + (ofNat _).toNat) = _
      rw [toNat_ofNat', toNat_ofNat', Nat.mod_eq_of_lt hbytes.1, Nat.mod_eq_of_lt hbytes.2.1]
    rw [hread, Except.ok.injEq, numberData, cons_prefix_cons, cons_prefix_cons]
    constructor
    · rintro rfl
      obtain ⟨hhigh, hlow⟩ := @ofNat_joined high low hbytes.2.1
      exact ⟨by omega, hhigh, hlow, nil_prefix⟩
    · rintro ⟨hk, rfl, rfl, -⟩
      rw [toNat_ofNat_of_lt (by omega), toNat_ofNat_of_lt (by omega)]
      omega

lemma reports_message_iff :
    Reports k (m.text ++ rest) ↔ m.type = asyncComplete ∧ readCompletion m.data = .ok k := by
  rw [readCompletion_eq_ok_iff m.bytes]
  constructor
  · rintro ⟨hk, report, rest', hd, htype, hnumber⟩
    obtain ⟨rfl, -⟩ := Message.text_append_inj hd
    exact ⟨htype, hk, hnumber⟩
  · rintro ⟨htype, hk, hnumber⟩
    exact ⟨hk, m, rest, rfl, htype, hnumber⟩

lemma awaitCompletion_of_ok (h : (receiveResponse link).run s = (.ok r, s₁)) :
    (∃ s', (awaitCompletion link k).run s = (.ok (), s')) ↔
      r.type = asyncComplete ∧ readCompletion r.data = .ok k := by
  rw [awaitCompletion, bind_of_ok h]
  by_cases htype : r.type = asyncComplete
  · rw [if_neg (not_not_intro htype)]
    cases hread : readCompletion r.data with
    | error e =>
      rw [bind_of_error (run_ofExcept _ s₁)]
      simp
    | ok found =>
      rw [bind_of_ok (run_ofExcept _ s₁)]
      by_cases hfound : found = k
      · rw [if_neg (not_not_intro hfound)]
        exact iff_of_true ⟨s₁, rfl⟩ ⟨htype, by rw [hfound]⟩
      · rw [if_pos hfound]
        exact iff_of_false (by rintro ⟨s', h⟩; cases h) fun h => hfound (Except.ok.inj h.2)
  · rw [if_pos htype]
    exact iff_of_false (by rintro ⟨s', h⟩; cases h) fun h => htype h.1

lemma awaitCompletion_ok_iff (h : Says s link d) :
    (∃ s', (awaitCompletion link k).run s = (.ok (), s')) ↔ Reports k d := by
  obtain ⟨m, rest, s₁, rfl, hrun, -⟩ | ⟨hnone, e, s₁, hrun⟩ := receiveResponse_says h
  · exact (awaitCompletion_of_ok hrun).trans reports_message_iff.symm
  · rw [awaitCompletion, bind_of_error hrun]
    refine iff_of_false (by rintro ⟨s', h⟩; cases h) ?_
    rintro ⟨-, report, rest, hd, -⟩
    exact hnone report rest hd

lemma readAnswer_of_ok (h : (receiveResponse link).run s = (.ok r, s₁)) :
    (∃ v s', (readAnswer link outputAsync).run s = (.ok v, s')) ↔
      r.type = outputAsync ∧ ∃ k code, readAck r.data = .ok (k, code, 1) ∧
        ∃ s', (awaitCompletion link k).run s₁ = (.ok (), s') := by
  rw [readAnswer, bind_of_ok h]
  by_cases htype : r.type = outputAsync
  · rw [if_neg (by rw [htype]; decide), if_neg (not_not_intro htype), if_pos htype]
    cases hread : readAck r.data with
    | error e =>
      rw [bind_of_error (run_ofExcept _ s₁)]
      simp
    | ok found =>
      obtain ⟨k, code, ack⟩ := found
      rw [bind_of_ok (run_ofExcept _ s₁)]
      dsimp only
      by_cases hack : ack = 1
      · subst hack
        constructor
        · rintro ⟨v, s', hrun⟩
          obtain ⟨⟨⟩, s₂, hwait, -⟩ := bind_eq_ok hrun
          exact ⟨htype, k, code, rfl, s₂, hwait⟩
        · rintro ⟨-, k', code', hfound, s', hwait⟩
          obtain ⟨rfl, -⟩ := Prod.mk.inj (Except.ok.inj hfound)
          exact ⟨r.data, s', bind_of_ok hwait⟩
      · rw [if_neg hack]
        refine iff_of_false (by rintro ⟨v, s', h⟩; cases h) ?_
        rintro ⟨-, k', code', hfound, -⟩
        exact hack (Prod.mk.inj (Prod.mk.inj (Except.ok.inj hfound)).2).2
  · refine iff_of_false ?_ fun h => htype h.1
    rintro ⟨v, s', hrun⟩
    by_cases herror : r.type = errorType
    · rw [if_pos herror] at hrun
      cases hrun
    · rw [if_neg herror, if_pos htype] at hrun
      cases hrun

lemma readAnswer_ok_iff (h : Says s link d) :
    (∃ v s', (readAnswer link outputAsync).run s = (.ok v, s')) ↔ ∃ k, Answers k d := by
  obtain ⟨m, rest, s₁, rfl, hrun, hsaid⟩ | ⟨hnone, e, s₁, hrun⟩ := receiveResponse_says h
  · rw [readAnswer_of_ok hrun]
    constructor
    · rintro ⟨htype, k, code, hack, hwait⟩
      obtain ⟨-, c, hdata⟩ := readAck_eq_ok hack
      exact ⟨k, m, c, rest, rfl, htype, hdata, (awaitCompletion_ok_iff hsaid).1 hwait⟩
    · rintro ⟨k, ack, c, rest', hd, htype, hdata, hreports⟩
      obtain ⟨rfl, rfl⟩ := Message.text_append_inj hd
      have hc : c.toNat < 256 := by
        have hbytes := m.bytes
        rw [hdata] at hbytes
        simpa using all_eq_true.1 hbytes c (by simp)
      refine ⟨htype, k, c.toNat, ?_, (awaitCompletion_ok_iff hsaid).2 hreports⟩
      exact (congrArg readAck hdata).trans (readAck_of_lt hreports.1 hc)
  · rw [readAnswer, bind_of_error hrun]
    refine iff_of_false (by rintro ⟨v, s', h⟩; cases h) ?_
    rintro ⟨k, ack, code, rest, hd, -⟩
    exact hnone ack rest hd

lemma onlyReads_awaitCompletion (link number : Nat) :
    Moves OnlyReads (awaitCompletion link number) := by
  refine .bind (onlyReads_receiveResponse link) fun r => .ite (.of_run fun _ => rfl) ?_
  exact .bind (.ofExcept _) fun _ => .ite (.throw _) (.pure _)

lemma onlyReads_readAnswer (link type : Nat) : Moves OnlyReads (readAnswer link type) := by
  refine .bind (onlyReads_receiveResponse link) fun r => ?_
  refine .ite (.of_run fun _ => rfl) (.ite (.of_run fun _ => rfl) (.ite ?_ (.pure _)))
  refine .bind (.ofExcept _) fun _ => .ite ?_ (.of_run fun _ => rfl)
  exact .bind (onlyReads_awaitCompletion _ _) fun _ => .pure _

/-! ### The command -/

def emissionData (n : Nat) (levels : List Nat) (signal : Data) : Data :=
  numberData n ++ numberData 0 ++ levels.map Char.ofNat ++ signal

lemma length_emissionData {levels : List Nat} (n : Nat) (signal : Data) (h : levels.length = 16) :
    (emissionData n levels signal).length = 20 + signal.length := by
  simp only [emissionData, numberData, length_append, length_cons, length_nil, length_map, h]

/-- The layout of a command to emit a signal: a marker, the length of what follows the type, the type, a
number and a delay of two bytes each, the powers of the outputs, and the signal. -/
def layout (length number delay : Nat) (powers : List Nat) (signal : Data) : Data :=
  '#' :: numberData length ++ [Char.ofNat 0x30] ++ numberData number ++ numberData delay ++
    powers.map Char.ofNat ++ signal

/-- The powers of the outputs, of which one is given. Outputs are counted from one, and from the last
one back for numbers below one. -/
def levels (port power : Int) : List Nat :=
  (replicate 16 0).set ((port - 1) % 16).toNat power.toNat

lemma length_levels (port power : Int) : (levels port power).length = 16 := by
  rw [levels, length_set, length_replicate]

lemma mem_levels (h : 0 ≤ power ∧ power < 256) : ∀ x ∈ levels port power, x < 256 := by
  intro x hx
  obtain hx | rfl := mem_or_eq_of_mem_set hx
  · rw [eq_of_mem_replicate hx]
    decide
  · omega

lemma getElem?_levels {i : Nat} (hport : -15 ≤ port ∧ port ≤ 16) (hi : i < 16) :
    (levels port power)[i]? =
      some (if (i + 1 : Int) = port ∨ (i + 1 : Int) = port + 16 then power.toNat else 0) := by
  rw [levels, getElem?_set, length_replicate]
  by_cases hplace : (i + 1 : Int) = port ∨ (i + 1 : Int) = port + 16
  · rw [if_pos hplace, if_pos (by omega), if_pos (by omega)]
  · rw [if_neg hplace, if_neg (by omega), getElem?_replicate_of_lt hi]

lemma powers_eq (h : -15 ≤ port ∧ port ≤ 16) (power : Json) : powers (.ofInt port) power =
      .ok ((replicate 16 (Json.ofInt 0)).set ((port - 1) % 16).toNat power) := by
  have hplace : (if port - 1 < 0 then port - 1 + 16 else port - 1) = (port - 1) % 16 := by
    split <;> omega
  change (if 0 ≤ (if port - 1 < 0 then port - 1 + 16 else port - 1) ∧ _ then Except.ok _ else _) = _
  rw [hplace, if_pos (by omega)]

lemma map_ofInt_levels (h : 0 ≤ power) : (levels port power).map (fun x : Nat => Json.ofInt x) =
      (replicate 16 (Json.ofInt 0)).set ((port - 1) % 16).toNat (.ofInt power) := by
  rw [levels, map_set, Int.toNat_of_nonneg h]
  rfl

lemma mapM_wholeByte {xs : List Nat} (h : ∀ x ∈ xs, x < 256) :
    (xs.map fun x : Nat => Json.ofInt x).mapM wholeByte = .ok (xs.map ofNat) := by
  induction xs with
  | nil => rfl
  | cons x xs ih =>
    obtain ⟨hx, hxs⟩ := forall_mem_cons.1 h
    have hbyte : wholeByte (.ofInt x) = .ok (ofNat x) := by
      simp only [wholeByte, Json.ofInt, Json.number?, byte?_of_lt hx, fitting]
    rw [map_cons, mapM_cons, hbyte, ih hxs]
    rfl

lemma mapM_wholeByte_of_error {js : List Json} {j : Json} (hj : j ∈ js)
    (h : ∃ e, wholeByte j = .error e) : ∃ e, js.mapM wholeByte = .error e := by
  obtain ⟨e, he⟩ := h
  induction js with
  | nil => cases hj
  | cons k js ih =>
    rw [mapM_cons]
    cases hk : wholeByte k with
    | error e' => exact ⟨e', rfl⟩
    | ok x =>
      obtain rfl | hj := mem_cons.1 hj
      · rw [he] at hk
        cases hk
      · obtain ⟨e', he'⟩ := ih hj
        rw [he']
        exact ⟨e', rfl⟩

structure Fits (port power : Int) (signal : Data) : Prop where
  port : -15 ≤ port ∧ port ≤ 16
  power : 0 ≤ power ∧ power < 256
  length : 20 + signal.length < 65536

section Emit

variable {port power : Int} {signal : String} {n : Nat}

lemma asyncData_eq (hpower : 0 ≤ power ∧ power < 256) (hn : n < 65536)
    (hsignal : signal.toList.all (·.toNat < 256) = true) :
    asyncData n ((levels port power).map fun x : Nat => Json.ofInt x) (.text signal) =
      .ok (emissionData n (levels port power) signal.toList) := by
  have hlevels : Bytes.toChars ((levels port power).map ofNat) =
      (levels port power).map Char.ofNat := by
    rw [Bytes.toChars, map_map]
    refine map_congr_left fun x hx => ?_
    rw [Function.comp_apply, toNat_ofNat', Nat.mod_eq_of_lt (mem_levels hpower x hx)]
  have hchars := toChars_ofChars hsignal
  have hnumber := toChars_pair hn
  simp only [Bytes.toChars] at hlevels hchars hnumber
  simp only [asyncData, signalData, mapM_wholeByte (mem_levels hpower),
    bytes, if_pos hsignal, bigEndian?_of_lt hn, fitting, bind, Except.bind, Bytes.toChars, map_append, hlevels, hchars, hnumber]
  rfl

lemma asyncData_of_power (n : Nat) (signal : String) (hpower : ¬(0 ≤ power ∧ power < 256)) :
    ∃ e, asyncData n ((replicate 16 (Json.ofInt 0)).set ((port - 1) % 16).toNat (.ofInt power))
      (.text signal) = .error e := by
  have hmem : Json.ofInt power ∈
      (replicate 16 (Json.ofInt 0)).set ((port - 1) % 16).toNat (.ofInt power) :=
    mem_set (by rw [length_replicate]; omega) _
  have hbyte : wholeByte (.ofInt power) =
      fitting none "ubyte format requires 0 <= number <= 255" := by
    simp only [wholeByte, Json.ofInt, Json.number?, Bytes.byte?, if_neg hpower]
  obtain ⟨e, he⟩ := mapM_wholeByte_of_error hmem ⟨_, hbyte⟩
  exact ⟨e, by simp only [asyncData, checkLength, he, bind, Except.bind]⟩

variable {b : Box} {s : Session}

lemma integer_run (h : ∃ draws, s.bench.draws = .number (.int n) :: draws) :
    ∃ s', (Dice.integer 0 65535).run s = (.ok n, s') ∧ s'.bench.links = s.bench.links ∧
      sends s'.bench.journal = sends s.bench.journal := by
  obtain ⟨draws, h⟩ := h
  refine ⟨{ s with bench := { s.bench with
    journal := s.bench.journal ++ [.randint 0 65535], draws := draws } }, ?_, rfl, ?_⟩
  · simp only [Dice.integer, run_bind, note, modifyBench, run_modify, h]
    rfl
  · rw [sends, filterMap_append]
    exact append_nil _

lemma all_numberData (hn : n < 65536) : (numberData n).all (·.toNat < 256) = true :=
  all_lt_of_bigEndian (bigEndian_numberData hn all_nil)

lemma all_emissionData (port : Int) (hpower : 0 ≤ power ∧ power < 256) (hn : n < 65536)
    (hsignal : signal.toList.all (·.toNat < 256) = true) :
    (emissionData n (levels port power) signal.toList).all (·.toNat < 256) = true := by
  have hlevels : ((levels port power).map Char.ofNat).all (·.toNat < 256) = true := by
    rw [all_map, all_eq_true]
    intro x hx
    have hlt := mem_levels hpower x hx
    simpa [toNat_ofNat_of_lt hlt] using hlt
  rw [emissionData, all_append, all_append, all_append, all_numberData hn, hlevels, hsignal]
  rfl

def writable (s : Session) (link : Nat) : Bool :=
  let l := (s.bench.links[link]?).getD { peer := {} }
  !(l.peer.broken || l.peer.lasts == some 0)

variable {link : Nat}

lemma send_of_not_writable (h : writable s link = false) (text : String) :
    (Net.send link text).run s = (.error Net.brokenPipe, s) := by
  rw [Net.send, bind_of_ok (run_link link s), if_pos (by simpa only [writable, Bool.not_eq_false'] using h)]
  rfl

lemma send_of_writable (h : writable s link = true) (text : String) :
    ∃ s', (Net.send link text).run s = (.ok (), s') ∧ ∀ d, Says s link d → Says s' link d := by
  rw [Net.send, bind_of_ok (run_link link s), if_neg (by simpa [writable] using h)]
  refine ⟨_, rfl, ?_⟩
  rintro d ⟨l, hl, hsaid⟩
  exact ⟨{ l with peer := { l.peer with lasts := l.peer.lasts.map (· - 1) } },
    (getElem?_modify_eq ..).trans (by rw [hl]; rfl), hsaid⟩

/-- A box that emits signals at once, a signal of bytes, and the number that is drawn for it. -/
structure Ready (b : Box) (s : Session) (signal : String) (n : Nat) : Prop where
  one : b.model ≠ markOne
  two : b.model ≠ markTwo
  bytes : signal.toList.all (·.toNat < 256) = true
  draws : ∃ draws, s.bench.draws = .number (.int n) :: draws
  number : n < 65536

section Emitting

variable (h : Ready b s signal n)

include h

lemma Ready.emit_eq_send {s₁ : Session} (hport : -15 ≤ port ∧ port ≤ 16)
    (hpower : 0 ≤ power ∧ power < 256) (hthrow : (Dice.integer 0 65535).run s = (.ok n, s₁)) :
    (b.emit (.ofInt port) (.ofInt power) (.text signal)).run s =
      (b.send outputAsync (emissionData n (levels port power) signal.toList)).run s₁ := by
  rw [emit, if_neg h.one, if_neg h.two, powers_eq hport, ← map_ofInt_levels hpower.1,
    bind_of_ok (run_ofExcept _ s), bind_of_ok hthrow,
    asyncData_eq hpower h.number h.bytes, bind_of_ok (run_ofExcept _ s₁)]

lemma Ready.emit_of_not_fits (hfits : ¬Fits port power signal.toList) :
    ∃ e s', (b.emit (.ofInt port) (.ofInt power) (.text signal)).run s = (.error e, s') ∧
      sends s'.bench.journal = sends s.bench.journal := by
  obtain ⟨s₁, hthrow, -, hsends⟩ := integer_run h.draws
  by_cases hport : -15 ≤ port ∧ port ≤ 16
  · by_cases hpower : 0 ≤ power ∧ power < 256
    · have hlength : ¬(20 + signal.toList.length < 65536) := fun h => hfits ⟨hport, hpower, h⟩
      have hnot : ¬(0 ≤ (outputAsync : Int) ∧ (outputAsync : Int) < 256 ∧
          (emissionData n (levels port power) signal.toList).length < 65536) := by
        rw [length_emissionData _ _ (length_levels _ _)]
        exact fun h => hlength h.2.2
      obtain ⟨detail, hrequest⟩ := request_of_not_fit (all_emissionData port hpower h.number h.bytes) hnot
      rw [h.emit_eq_send hport hpower hthrow, send, exchange, hrequest]
      exact ⟨_, s₁, rfl, hsends⟩
    · obtain ⟨e, he⟩ := asyncData_of_power n signal hpower
      rw [emit, if_neg h.one, if_neg h.two, powers_eq hport,
        bind_of_ok (run_ofExcept _ s), bind_of_ok hthrow, he]
      exact ⟨e, s₁, rfl, hsends⟩
  · obtain ⟨e, he⟩ : ∃ e, powers (.ofInt port) (.ofInt power) = .error e :=
      ⟨_, if_neg (by split <;> omega)⟩
    rw [emit, if_neg h.one, if_neg h.two, he]
    exact ⟨e, s, rfl, rfl⟩

lemma Ready.exchange_of_fits (hfits : Fits port power signal.toList) :
    exchange b.link outputAsync (emissionData n (levels port power) signal.toList) = (do
      Net.send b.link (String.ofList
        (layout (20 + signal.toList.length) n 0 (levels port power) signal.toList))
      readAnswer b.link outputAsync) := by
  have hlength := length_emissionData n signal.toList (length_levels port power)
  let m : Message := ⟨outputAsync, _, by decide, hlength ▸ hfits.length,
    all_emissionData port hfits.power h.number h.bytes⟩
  have hcommand : m.command =
      layout (20 + signal.toList.length) n 0 (levels port power) signal.toList := by
    rw [← hlength]
    rfl
  rw [exchange, show request outputAsync _ = _ from request_message m, hcommand]
  rfl

lemma Ready.emit_of_fits (hfits : Fits port power signal.toList)
    (hopen : writable s b.link = true) :
    ∃ s', sends s'.bench.journal = sends s.bench.journal ++ [(label s b.link,
        String.ofList (layout (20 + signal.toList.length) n 0 (levels port power) signal.toList))] ∧
      (∀ d, Says s b.link d → Says s' b.link d) ∧
      (b.emit (.ofInt port) (.ofInt power) (.text signal)).run s = (do
        let _ ← readAnswer b.link outputAsync).run s' := by
  obtain ⟨s₁, hthrow, hlinks, hsends⟩ := integer_run h.draws
  have hopen₁ : writable s₁ b.link = true := by rw [writable, hlinks]; exact hopen
  obtain ⟨s', hsend, hkeeps⟩ := send_of_writable hopen₁ (String.ofList _)
  refine ⟨s', ?_, fun d hd => hkeeps d (by rwa [Says, hlinks]), ?_⟩
  · rw [(Proxy.send_ok hsend).2, hsends, label, hlinks, label]
  · rw [h.emit_eq_send hfits.port hfits.power hthrow, send, h.exchange_of_fits hfits, run_bind,
      bind_of_ok hsend, ← run_bind]

lemma Ready.emit_of_not_writable (hfits : Fits port power signal.toList)
    (hopen : writable s b.link = false) :
    ∃ e s', (b.emit (.ofInt port) (.ofInt power) (.text signal)).run s = (.error e, s') ∧
      sends s'.bench.journal = sends s.bench.journal := by
  obtain ⟨s₁, hthrow, hlinks, hsends⟩ := integer_run h.draws
  have hopen₁ : writable s₁ b.link = false := by rw [writable, hlinks]; exact hopen
  refine ⟨Net.brokenPipe, s₁, ?_, hsends⟩
  rw [h.emit_eq_send hfits.port hfits.power hthrow, send, h.exchange_of_fits hfits,
    bind_of_error (bind_of_error (send_of_not_writable hopen₁ _))]

lemma Ready.emit_fails (hnot : ¬(Fits port power signal.toList ∧ writable s b.link = true)) :
    ∃ e s', (b.emit (.ofInt port) (.ofInt power) (.text signal)).run s = (.error e, s') ∧
      sends s'.bench.journal = sends s.bench.journal := by
  by_cases hfits : Fits port power signal.toList
  · exact h.emit_of_not_writable hfits (Bool.eq_false_iff.2 fun hopen => hnot ⟨hfits, hopen⟩)
  · exact h.emit_of_not_fits hfits

end Emitting

/-- A command is sent if port, power and length are in range, though the port may lie up to sixteen below
its range: the output is then the one that many further up. It is the only one with a power, and
nothing else is sent. Otherwise emitting fails, and nothing is sent at all. -/
theorem emit_sends_one_command {s' : Session} {r : Except Fault Unit} (h : Ready b s signal n)
    (hrun : (b.emit (.ofInt port) (.ofInt power) (.text signal)).run s = (r, s')) :
    (Fits port power signal.toList ∧ writable s b.link = true → ∃ powers : List Nat,
      sends s'.bench.journal = sends s.bench.journal ++ [(label s b.link,
        String.ofList (layout (20 + signal.toList.length) n 0 powers signal.toList))] ∧
      powers.length = 16 ∧ ∀ i : Nat, i < 16 → powers[i]? =
        some (if (i + 1 : Int) = port ∨ (i + 1 : Int) = port + 16 then power.toNat else 0)) ∧
    (¬(Fits port power signal.toList ∧ writable s b.link = true) →
      (∃ f, r = .error f) ∧ sends s'.bench.journal = sends s.bench.journal) := by
  refine ⟨fun ⟨hfits, hopen⟩ => ?_, fun hnot => ?_⟩
  · obtain ⟨s₁, hsent, -, hemit⟩ := h.emit_of_fits hfits hopen
    have hreads : Moves OnlyReads (do let _ ← readAnswer b.link outputAsync) :=
      .bind (onlyReads_readAnswer _ _) fun _ => .pure _
    refine ⟨levels port power, ?_, length_levels port power, fun i hi => getElem?_levels hfits.port hi⟩
    rw [(hreads.of_run_eq (hemit.symm.trans hrun)).sends, hsent]
  · obtain ⟨e, s₁, hemit, hsends⟩ := h.emit_fails hnot
    obtain ⟨rfl, rfl⟩ := Prod.mk.inj (hemit.symm.trans hrun)
    exact ⟨⟨e, rfl⟩, hsends⟩

/-- On a port below the first one a signal is emitted all the same: zero is the last output. -/
theorem port_zero_is_the_last_output :
    ∃ (s s' : Session) (r : Except Fault Unit) (powers : List Nat),
      ((⟨0, 8⟩ : Box).emit (.ofInt 0) (.ofInt 100) (.text "ir")).run s = (r, s') ∧
      sends s'.bench.journal = [("sock", String.ofList (layout 22 5 0 powers "ir".toList))] ∧
      powers[15]? = some 100 := by
  let s : Session := { bench := { links := [{ peer := {} }], draws := [.number (.int 5)] } }
  obtain ⟨hsent, -⟩ := @emit_sends_one_command 0 100 "ir" 5 ⟨0, 8⟩ s _ _
    ⟨by decide, by decide, by decide, ⟨[], rfl⟩, by decide⟩ rfl
  obtain ⟨powers, hjournal, -, hpowers⟩ := hsent ⟨⟨by decide, by decide, by decide⟩, by decide⟩
  exact ⟨s, _, _, powers, rfl, hjournal, (hpowers 15 (by decide)).trans (by decide)⟩

/-- Emitting ends well exactly if the command can be made and sent and the emitter then says an
acknowledgement and a report with one number, however that is cut. The number need not be that of
the command. -/
theorem emit_ok_iff {d : Data} (h : Ready b s signal n) (hsaid : Says s b.link d) :
    ((∃ s', (b.emit (.ofInt port) (.ofInt power) (.text signal)).run s = (.ok (), s')) ↔
      (Fits port power signal.toList ∧ writable s b.link = true) ∧ ∃ k, Answers k d) ∧
    ∀ k, Answers k d → (Answers n d ↔ k = n) := by
  refine ⟨?_, fun k hk => ⟨hk.unique, fun h => h ▸ hk⟩⟩
  by_cases hsent : Fits port power signal.toList ∧ writable s b.link = true
  · obtain ⟨s₁, -, hkeeps, hemit⟩ := h.emit_of_fits hsent.1 hsent.2
    rw [hemit, ← readAnswer_ok_iff (hkeeps d hsaid), Act.run_bind]
    cases (readAnswer b.link outputAsync).run s₁ with
    | mk found s₂ => cases found <;> simp [hsent]
  · obtain ⟨e, s₁, hemit, -⟩ := h.emit_fails hsent
    rw [hemit]
    simp [hsent]

/-- The answer to another command is taken for the answer to this one. -/
theorem stale_answer_is_taken :
    ∃ (s s' : Session) (d : Data), s.bench.draws = [.number (.int 5)] ∧ Says s 0 d ∧
      ((⟨0, 8⟩ : Box).emit (.ofInt 1) (.ofInt 100) (.text "ir")).run s = (.ok (), s') ∧
      Answers 9 d ∧ ¬Answers 5 d := by
  let ack : Message := ⟨outputAsync, ['\x09', '\x00', '\x00', '\x01'], by decide, by decide, by decide⟩
  let report : Message := ⟨asyncComplete, ['\x00', '\x09'], by decide, by decide, by decide⟩
  let d : Data := ack.text ++ report.text
  let s : Session :=
    { bench := { links := [{ peer := { chunks := [some d] } }], draws := [.number (.int 5)] } }
  have hsaid : Says s 0 d :=
    ⟨_, rfl, .inr ⟨rfl, d, .closed, ⟨_, [], .single (by decide), .finished, rfl⟩, rfl⟩⟩
  have hanswers : Answers 9 d :=
    ⟨ack, '\x00', report.text, rfl, rfl, rfl, by decide, report, [], rfl, rfl, prefix_refl _⟩
  obtain ⟨hok, hown⟩ := @emit_ok_iff 1 100 "ir" 5 ⟨0, 8⟩ s d
    ⟨by decide, by decide, by decide, ⟨[], rfl⟩, by decide⟩ hsaid
  obtain ⟨s', hrun⟩ := hok.2 ⟨⟨⟨by decide, by decide, by decide⟩, by decide⟩, 9, hanswers⟩
  exact ⟨s, s', d, rfl, hsaid, hrun, hanswers, fun h => absurd ((hown 9 hanswers).1 h) (by decide)⟩

end Emit

end SetTop.IrBox
