import SetTop.Proofs.IrBox.Frame
import SetTop.Proofs.Wire.Pieces

/-!
Messages and the bytes that they travel as.

What a client writes the proxy reads as the same messages, and what the emitter writes a client
reads as the same responses, wherever the bytes are cut on their way. The proxy changes nothing but
the number of a command that will be reported on, so the length that the header names stays right.
Without a free number it cannot read the command at all.

The client reads with a buffer. That this makes no difference is `splitAll_append`.
-/

namespace SetTop.IrBox

open Act List Bytes UInt8 Net Registry Data

/-- A message: its type takes one byte, and the length of its data two. -/
structure Message where
  type : Nat
  data : Data
  type_lt : type < 256
  length_lt : data.length < 65536
  bytes : data.all (·.toNat < 256) = true

namespace Message

variable (m : Message)

def front : Data := numberData m.data.length ++ [Char.ofNat m.type]

def text : Data := m.front ++ m.data

def command : Data := marker :: m.text

def response : Response := ⟨m.type, m.data⟩

lemma toNat_type : (Char.ofNat m.type).toNat = m.type := toNat_ofNat_of_lt m.type_lt

lemma toNat_high : (Char.ofNat (m.data.length / 256)).toNat = m.data.length / 256 :=
  toNat_ofNat_of_lt (by have := m.length_lt; omega)

lemma toNat_low : (Char.ofNat (m.data.length % 256)).toNat = m.data.length % 256 :=
  toNat_ofNat_of_lt (Nat.mod_lt _ (by decide))

lemma text_eq :
    m.text = Char.ofNat (m.data.length / 256) :: Char.ofNat (m.data.length % 256) ::
      Char.ofNat m.type :: m.data := rfl

end Message

/-! ### Requests -/

lemma byte?_of_lt {n : Nat} (hn : n < 256) : byte? n = some (ofNat n) := by
  have h : 0 ≤ (n : Int) ∧ (n : Int) < 256 := by omega
  rw [byte?, if_pos h, Int.toNat_natCast]

variable {d data rest x tail : Data} {type : Int} {chunks : List Chunk}

lemma toChars_ofChars (h : d.all (·.toNat < 256) = true) : toChars (ofChars d) = d := by
  rw [toChars, ofChars, map_map]
  refine (map_congr_left fun c hc => ?_).trans (map_id d)
  have hlt : c.toNat < 256 := by simpa using all_eq_true.1 h c hc
  rw [Function.comp_apply, toNat_ofNat', Nat.mod_eq_of_lt hlt, Char.ofNat_toNat, id]

lemma request_of_bytes (h : data.all (·.toNat < 256) = true) :
    request type data = (do
      let length ← fitting (bigEndian? data.length) "'H' format requires 0 <= number <= 65535"
      let type ← fitting (byte? type)
      return marker :: toChars (length ++ type :: ofChars data)) := by
  have hlength : data.length = (ofChars data).length := (length_map ..).symm
  rw [request, bytes, if_pos h, hlength]
  rfl

lemma request_message (m : Message) : request m.type m.data = .ok m.command := by
  have htext : toChars ([ofNat (m.data.length / 256), ofNat (m.data.length % 256)] ++
      ofNat m.type :: ofChars m.data) = m.text := by
    have hdata : toChars (ofChars m.data) = m.data := toChars_ofChars m.bytes
    have htype : Char.ofNat (ofNat m.type).toNat = Char.ofNat m.type := by
      rw [toNat_ofNat', Nat.mod_eq_of_lt m.type_lt]
    rw [toChars, map_append, ← toChars, toChars_pair m.length_lt, map_cons, htype, ← toChars, hdata]
    rfl
  rw [request_of_bytes m.bytes, bigEndian?_of_lt m.length_lt, byte?_of_lt m.type_lt, Message.command,
    ← htext]
  rfl

lemma request_of_not_fit (hbytes : data.all (·.toNat < 256) = true)
    (h : ¬(0 ≤ type ∧ type < 256 ∧ data.length < 65536)) :
    ∃ detail, request type data = .error (.foreign .packing detail) := by
  rw [request_of_bytes hbytes]
  by_cases hlength : data.length < 65536
  · have htype : ¬(0 ≤ type ∧ type < 256) := fun ht => h ⟨ht.1, ht.2, hlength⟩
    rw [bigEndian?_of_lt hlength, byte?, if_neg htype]
    exact ⟨_, rfl⟩
  · have hlong : ¬(0 ≤ (data.length : Int) ∧ (data.length : Int).toNat < 65536) := by omega
    rw [bigEndian?, if_neg hlong]
    exact ⟨_, rfl⟩

/-! ### Responses -/

lemma splitResponse_cons {high low type : Char} (h : high.toNat < 256 ∧ low.toNat < 256) :
    splitResponse (high :: low :: type :: rest) =
      if high.toNat * 256 + low.toNat ≤ rest.length then
        if (type :: rest.take (high.toNat * 256 + low.toNat)).all (·.toNat < 256) then
          .ok (some (⟨type.toNat, rest.take (high.toNat * 256 + low.toNat)⟩,
            rest.drop (high.toNat * 256 + low.toNat)))
        else .error .garbled
      else .ok none := by
  rw [splitResponse, if_pos h]

lemma splitResponse_text (m : Message) (rest : Data) :
    splitResponse (m.text ++ rest) = .ok (some (m.response, rest)) := by
  have hlength := m.length_lt
  have hsum : m.data.length / 256 * 256 + m.data.length % 256 = m.data.length := by omega
  rw [m.text_eq]
  simp only [cons_append]
  rw [splitResponse_cons (by rw [m.toNat_high, m.toNat_low]; omega), m.toNat_high, m.toNat_low, hsum,
    take_left, drop_left, if_pos (by simp), if_pos, m.toNat_type]
  · rfl
  · rw [all_cons, m.toNat_type, m.bytes, Bool.and_true]
    exact decide_eq_true m.type_lt

/-- The beginning of a message that has not arrived whole. -/
def Incomplete (d : Data) : Prop := ∃ m : Message, d <+: m.text ∧ d ≠ m.text

lemma Incomplete.splitResponse (h : Incomplete d) : splitResponse d = .ok none := by
  obtain ⟨m, hpre, hne⟩ := h
  have hlength := m.length_lt
  have hlt : d.length < m.text.length :=
    Nat.lt_of_le_of_ne hpre.length_le fun heq => hne (hpre.eq_of_length heq)
  rw [m.text_eq] at hpre hlt
  rcases d with _ | ⟨high, _ | ⟨low, _ | ⟨type, rest⟩⟩⟩
  · rfl
  · rfl
  · rfl
  · obtain ⟨rfl, hlow⟩ := cons_prefix_cons.1 hpre
    obtain ⟨rfl, -⟩ := cons_prefix_cons.1 hlow
    simp only [length_cons] at hlt
    rw [splitResponse_cons (by rw [m.toNat_high, m.toNat_low]; omega), m.toNat_high, m.toNat_low,
      if_neg (by omega)]

lemma splitResponse_append (h : splitResponse x ≠ .ok none) (y : Data) :
    splitResponse (x ++ y) = (splitResponse x).map (Option.map (Prod.map id (· ++ y))) := by
  rcases x with _ | ⟨high, _ | ⟨low, _ | ⟨type, rest⟩⟩⟩
  · exact absurd rfl h
  · exact absurd rfl h
  · exact absurd rfl h
  · simp only [cons_append]
    by_cases hheader : high.toNat < 256 ∧ low.toNat < 256
    · rw [splitResponse_cons hheader] at h ⊢
      rw [splitResponse_cons hheader]
      by_cases hlength : high.toNat * 256 + low.toNat ≤ rest.length
      · rw [if_pos (Nat.le_trans hlength (by simp)),
          take_append_of_le_length hlength, drop_append_of_le_length hlength]
        split <;> rfl
      · rw [if_neg hlength] at h
        exact absurd rfl h
    · rw [splitResponse, splitResponse, if_neg hheader, if_neg hheader]
      rfl

lemma splitAll_of_some {r : Response} (h : splitResponse d = .ok (some (r, rest))) :
    splitAll d = (r :: (splitAll rest).1, (splitAll rest).2) := by
  rw [splitAll]
  split
  all_goals
    rename_i heq
    rw [h] at heq
    cases heq
  rfl

lemma splitAll_of_none (h : splitResponse d = .ok none) : splitAll d = ([], .ok d) := by
  rw [splitAll]
  split <;> simp_all

lemma splitAll_of_error {reason : StreamEnd} (h : splitResponse d = .error reason) :
    splitAll d = ([], .error reason) := by
  rw [splitAll]
  split <;> simp_all

lemma splitAll_append (x y : Data) :
    splitAll (x ++ y) =
      match (splitAll x).2 with
      | .ok left => ((splitAll x).1 ++ (splitAll (left ++ y)).1, (splitAll (left ++ y)).2)
      | .error reason => ((splitAll x).1, .error reason) := by
  induction h : x.length using Nat.strongRecOn generalizing x with
  | ind n ih =>
    cases hx : splitResponse x with
    | error reason =>
      have happend := splitResponse_append (x := x) (by simp [hx]) y
      rw [hx] at happend
      rw [splitAll_of_error hx, splitAll_of_error happend]
    | ok found =>
      cases found with
      | none =>
        rw [splitAll_of_none hx]
        rfl
      | some found =>
        obtain ⟨r, rest⟩ := found
        have happend := splitResponse_append (x := x) (by simp [hx]) y
        rw [hx] at happend
        have hlt : rest.length < n := h ▸ length_lt_of_splitResponse hx
        rw [splitAll_of_some hx, splitAll_of_some happend]
        rw [ih rest.length hlt rest rfl]
        cases (splitAll rest).2 with
        | ok | error => rfl

lemma splitResponse_left {left : Data} (h : (splitAll x).2 = .ok left) :
    splitResponse left = .ok none := by
  induction hn : x.length using Nat.strongRecOn generalizing x with
  | ind n ih =>
    cases hx : splitResponse x with
    | error reason =>
      rw [splitAll_of_error hx] at h
      cases h
    | ok found =>
      cases found with
      | none =>
        rw [splitAll_of_none hx] at h
        cases h
        exact hx
      | some found =>
        obtain ⟨r, rest⟩ := found
        rw [splitAll_of_some hx] at h
        exact ih rest.length (hn ▸ length_lt_of_splitResponse hx) h rfl

lemma responsesFrom_cut {text buffer : Data} (h : Stream.Cut text chunks)
    (hbuffer : splitResponse buffer = .ok none) :
    responsesFrom buffer chunks =
      ((splitAll (buffer ++ text)).1,
        match (splitAll (buffer ++ text)).2 with
        | .ok _ => .closed
        | .error reason => reason) := by
  induction chunks generalizing text buffer with
  | nil =>
    rw [Stream.cut_nil_right.1 h, append_nil, splitAll_of_none hbuffer]
    rfl
  | cons chunk chunks ih =>
    obtain ⟨c, more, rfl, hc, rfl, hmore⟩ := Stream.cut_cons.1 h
    rw [responsesFrom, if_neg (by simpa using hc), ← append_assoc, splitAll_append (buffer ++ c)]
    rcases hsplit : splitAll (buffer ++ c) with ⟨done, left⟩
    cases left with
    | error reason => rfl
    | ok left =>
      have hleft : splitResponse left = .ok none := splitResponse_left (by rw [hsplit])
      dsimp only
      rw [ih hmore hleft]

lemma splitAll_messages (ms : List Message) (h : splitResponse tail = .ok none) :
    splitAll (ms.flatMap Message.text ++ tail) = (ms.map Message.response, .ok tail) := by
  induction ms with
  | nil => exact splitAll_of_none h
  | cons m ms ih =>
    rw [flatMap_cons, append_assoc, splitAll_of_some (splitResponse_text m _), ih, map_cons]

/-! ### Commands -/

namespace Proxy

variable {s : Session} {client : Nat}

lemma all_front (m : Message) : m.front.all (·.toNat < 256) = true := by
  have hlength := m.length_lt
  have htype := m.type_lt
  rw [Message.front, numberData]
  simp only [cons_append, nil_append, all_cons, all_nil, m.toNat_high, m.toNat_low,
    m.toNat_type, Bool.and_true, Bool.and_eq_true, decide_eq_true_eq]
  omega

lemma readHeader_front (m : Message) : readHeader m.front = .ok (m.data.length, m.type) := by
  have hlength := m.length_lt
  have htype := m.type_lt
  have hsum : m.data.length / 256 % 256 * 256 + m.data.length % 256 % 256 = m.data.length := by omega
  rw [readHeader, bytes, if_pos (all_front m)]
  change Except.ok ((ofNat _).toNat * 256 + (ofNat _).toNat, (ofNat _).toNat) = _
  rw [m.toNat_high, m.toNat_low, m.toNat_type, toNat_ofNat', toNat_ofNat',
    toNat_ofNat', Nat.mod_eq_of_lt htype, hsum]

variable {m : Message} {rest d : Data} {k n : Nat} {t : Incoming} {r r' : Registry} {ms : List Message}
  {s' : Session}

lemma readCommand_cut (h : Stream.Cut (m.command ++ rest) (heard s client)) :
    ∃ s', (readCommand client).run s = (.ok ⟨m.type, marker :: m.front, m.data⟩, s') ∧
      s'.proxy = s.proxy ∧ Stream.Cut rest (heard s' client) := by
  have hsplit : m.command ++ rest = (marker :: m.front) ++ (m.data ++ rest) := by
    rw [Message.command, Message.text, ← cons_append, append_assoc]
  rw [hsplit] at h
  obtain ⟨s₁, hheader, h₁⟩ := receiveExactly_cut h
  change (receiveExactly client 4).run s = _ at hheader
  obtain ⟨s₂, hdata, h₂⟩ := receiveExactly_cut h₁
  have hrun : (readCommand client).run s = (.ok ⟨m.type, marker :: m.front, m.data⟩, s₂) := by
    have hbytes : bytes (marker :: m.front) = .ok (ofChars (marker :: m.front)) := by
      rw [bytes]
      rw [all_cons, all_front m]
      rfl
    rw [readCommand, bind_of_ok hheader, hbytes, bind_of_ok (run_ofExcept _ s₁), drop_one,
      tail_cons, readHeader_front, bind_of_ok (run_ofExcept _ s₁)]
    dsimp only
    rw [head?_cons, if_neg (by decide), if_neg (by simp), bind_of_ok hdata]
    rfl
  exact ⟨s₂, hrun, ((onlyReads_readCommand client).of_run_eq hrun).proxy, h₂⟩

/-- A command that will be reported on has a number. -/
def Numbered (m : Message) : Prop := m.type = outputAsync → 2 ≤ m.data.length

/-- The next commands of a client, as they are passed on. -/
def takeCommands (client : Nat) : Nat → Act (List Incoming)
  | 0 => pure []
  | n + 1 => do return (← receiveCommand client) :: (← takeCommands client n)

/-- Messages of a client, the commands that they become, and the registry before and after: a command
that will be reported on gets a fresh number in the place of its own, and the registry keeps that. -/
inductive Passing (client : Nat) : Registry → List Message → List Incoming → Registry → Prop
  | nil (r : Registry) : Passing client r [] [] r
  | same {r r' : Registry} {m : Message} {ms : List Message} {ts : List Incoming}
      (hm : m.type ≠ outputAsync) (h : Passing client r ms ts r') :
      Passing client r (m :: ms) (⟨m.type, marker :: m.front, m.data⟩ :: ts) r'
  | numbered {r r₁ r' : Registry} {k n : Nat} {m : Message} {ms : List Message} {ts : List Incoming}
      (hm : m.type = outputAsync) (hk : m.data.bigEndian = .ok k) (hn : r.freshNumber = some (n, r₁))
      (h : Passing client (r₁.put n (some ⟨client, k⟩)) ms ts r') :
      Passing client r (m :: ms)
        (⟨m.type, marker :: m.front, numberData n ++ m.data.drop 2⟩ :: ts) r'

lemma exists_bigEndian (hbytes : d.all (·.toNat < 256) = true) (h : 2 ≤ d.length) :
    ∃ k, d.bigEndian = .ok k := by
  rcases d with _ | ⟨high, _ | ⟨low, rest⟩⟩
  · simp at h
  · simp at h
  · refine ⟨(ofNat high.toNat).toNat * 256 + (ofNat low.toNat).toNat, ?_⟩
    rw [bigEndian, bytes, if_pos hbytes]
    rfl

lemma two_le_of_bigEndian (h : d.bigEndian = .ok k) : 2 ≤ d.length := by
  have hbytes := all_lt_of_bigEndian h
  rw [bigEndian, bytes, if_pos hbytes] at h
  rcases d with _ | ⟨high, _ | ⟨low, rest⟩⟩
  · cases h
  · cases h
  · simp

lemma enroll_fresh (h : t.type = outputAsync) (hk : t.data.bigEndian = .ok k)
    (hn : s.proxy.registry.freshNumber = some (n, r)) :
    (enroll client t).run s = (.ok { t with data := numberData n ++ t.data.drop 2 },
      withRegistry s (r.put n (some ⟨client, k⟩))) := by
  have hle := (freshNumber_spec hn).2.1
  rw [maxNumber] at hle
  have hregister : s.proxy.registry.register client t.data =
      .ok (numberData n ++ t.data.drop 2, r.put n (some ⟨client, k⟩)) := by
    rw [register, hk]
    rw [hn]
    dsimp only
    rw [renumber_bigEndian t.data (show n < 65536 by omega)]
  rw [enroll, if_pos h, bind_of_ok (run_state s), hregister]
  rfl

lemma enroll_full (h : t.type = outputAsync) (hk : t.data.bigEndian = .ok k)
    (hn : s.proxy.registry.freshNumber = none) :
    (enroll client t).run s = (.error (.foreign .recursion ""), s) := by
  have hregister : s.proxy.registry.register client t.data = .error (.foreign .recursion "") := by
    rw [register, hk]
    rw [hn]
  rw [enroll, if_pos h, bind_of_ok (run_state s), hregister]
  rfl

lemma Passing.readHeader_eq {ts : List Incoming} (h : Passing client r ms ts r') :
    ∀ t ∈ ts, readHeader (t.header.drop 1) = .ok (t.data.length, t.type) := by
  induction h with
  | nil => simp
  | same _ _ ih => exact forall_mem_cons.2 ⟨readHeader_front _, ih⟩
  | @numbered r r₁ r' k n m ms ts _ hk _ _ ih =>
    refine forall_mem_cons.2 ⟨?_, ih⟩
    have hlength : (numberData n ++ m.data.drop 2).length = m.data.length := by
      have htwo := two_le_of_bigEndian hk
      rw [length_append, length_drop, numberData, length_cons, length_singleton]
      omega
    rw [hlength]
    exact readHeader_front m

lemma receiveCommand_cases (hvalid : s.proxy.registry.Valid) (hm : Numbered m)
    (h : Stream.Cut (m.command ++ rest) (heard s client)) : (m.type ≠ outputAsync ∧ ∃ s',
      (receiveCommand client).run s = (.ok ⟨m.type, marker :: m.front, m.data⟩, s') ∧
        s'.proxy.registry = s.proxy.registry ∧ Stream.Cut rest (heard s' client)) ∨
    (m.type = outputAsync ∧ ∃ k n r s', m.data.bigEndian = .ok k ∧
      s.proxy.registry.freshNumber = some (n, r) ∧ (receiveCommand client).run s =
          (.ok ⟨m.type, marker :: m.front, numberData n ++ m.data.drop 2⟩, s') ∧
        s'.proxy.registry = r.put n (some ⟨client, k⟩) ∧ Stream.Cut rest (heard s' client)) ∨
    (m.type = outputAsync ∧ s.proxy.registry.entries.length = 65536 ∧ ∃ s',
      (receiveCommand client).run s = (.error (.foreign .recursion ""), s')) := by
  obtain ⟨s₁, hread, hproxy, hrest⟩ := readCommand_cut h
  rw [receiveCommand, bind_of_ok hread]
  by_cases htype : m.type = outputAsync
  · obtain ⟨k, hk⟩ := exists_bigEndian m.bytes (hm htype)
    cases hn : s.proxy.registry.freshNumber with
    | none =>
      refine .inr (.inr ⟨htype, hvalid.freshNumber_eq_none_iff.1 hn, s₁, ?_⟩)
      exact enroll_full htype hk (hproxy ▸ hn)
    | some found =>
      obtain ⟨n, r⟩ := found
      refine .inr (.inl ⟨htype, k, n, r, withRegistry s₁ (r.put n (some ⟨client, k⟩)), hk, rfl, ?_, rfl,
        hrest⟩)
      exact enroll_fresh htype hk (hproxy ▸ hn)
  · exact .inl ⟨htype, s₁, by rw [enroll, if_neg htype]; rfl, by rw [hproxy], hrest⟩

lemma length_put_fresh (h : r.freshNumber = some (n, r')) (p : Option Pending) :
    (r'.put n p).entries.length = r.entries.length + 1 := by
  have hcount := congrArg length (numbers_put_fresh h p)
  simpa [numbers] using hcount

/-- How many numbers are taken once commands have been read. -/
def demand (s : Session) (ms : List Message) : Nat :=
  s.proxy.registry.entries.length + ms.countP (·.type == outputAsync)

lemma demand_cons_of_ne {s : Session} (ms : List Message) (hm : m.type ≠ outputAsync)
    (hs : s'.proxy.registry = s.proxy.registry) : demand s' ms = demand s (m :: ms) := by
  simp [demand, hs, hm]

lemma demand_cons_of_eq {s : Session} (ms : List Message) (hm : m.type = outputAsync)
    (hs : s'.proxy.registry.entries.length = s.proxy.registry.entries.length + 1) :
    demand s' ms = demand s (m :: ms) := by
  simp only [demand, countP_cons, hm, beq_self_eq_true, if_true]
  omega

lemma takeCommands_of_free (hvalid : s.proxy.registry.Valid) (hms : ∀ m ∈ ms, Numbered m)
    (hfree : demand s ms ≤ 65536)
    (h : Stream.Cut (ms.flatMap Message.command ++ rest) (heard s client)) :
    ∃ ts s', (takeCommands client ms.length).run s = (.ok ts, s') ∧
      Passing client s.proxy.registry ms ts s'.proxy.registry ∧ Stream.Cut rest (heard s' client) := by
  induction ms generalizing s with
  | nil => exact ⟨[], s, rfl, .nil _, h⟩
  | cons m ms ih =>
    rw [flatMap_cons, append_assoc] at h
    obtain ⟨hm, hms⟩ := forall_mem_cons.1 hms
    rw [length_cons, takeCommands]
    obtain ⟨htype, s₁, hrun, hsame, hrest⟩ | ⟨htype, k, n, r, s₁, hk, hn, hrun, hput, hrest⟩ |
      ⟨htype, hfull, -⟩ := receiveCommand_cases hvalid hm h
    · rw [← demand_cons_of_ne ms htype hsame] at hfree
      obtain ⟨ts, s₂, hmore, hpassing, hleft⟩ := ih (hsame ▸ hvalid) hms hfree hrest
      rw [bind_of_ok hrun, bind_of_ok hmore]
      exact ⟨_, s₂, rfl, .same htype (hsame ▸ hpassing), hleft⟩
    · rw [← demand_cons_of_eq ms htype (hput ▸ length_put_fresh hn _)] at hfree
      obtain ⟨ts, s₂, hmore, hpassing, hleft⟩ := ih (hput ▸ hvalid.put_fresh hn _) hms hfree hrest
      rw [bind_of_ok hrun, bind_of_ok hmore]
      exact ⟨_, s₂, rfl, .numbered htype hk hn (hput ▸ hpassing), hleft⟩
    · simp only [demand, countP_cons, htype, beq_self_eq_true, if_true] at hfree
      omega

lemma takeCommands_of_full (hvalid : s.proxy.registry.Valid) (hms : ∀ m ∈ ms, Numbered m)
    (hfull : 65536 < demand s ms)
    (h : Stream.Cut (ms.flatMap Message.command ++ rest) (heard s client)) :
    ∃ s', (takeCommands client ms.length).run s = (.error (.foreign .recursion ""), s') := by
  induction ms generalizing s with
  | nil =>
    have hle := hvalid.length_le
    simp only [demand, countP_nil] at hfull
    omega
  | cons m ms ih =>
    rw [flatMap_cons, append_assoc] at h
    obtain ⟨hm, hms⟩ := forall_mem_cons.1 hms
    rw [length_cons, takeCommands]
    obtain ⟨htype, s₁, hrun, hsame, hrest⟩ | ⟨htype, k, n, r, s₁, hk, hn, hrun, hput, hrest⟩ |
      ⟨-, -, s₁, hrun⟩ := receiveCommand_cases hvalid hm h
    · rw [← demand_cons_of_ne ms htype hsame] at hfull
      obtain ⟨s₂, hmore⟩ := ih (hsame ▸ hvalid) hms hfull hrest
      exact ⟨s₂, by rw [bind_of_ok hrun, bind_of_error hmore]⟩
    · rw [← demand_cons_of_eq ms htype (hput ▸ length_put_fresh hn _)] at hfull
      obtain ⟨s₂, hmore⟩ := ih (hput ▸ hvalid.put_fresh hn _) hms hfull hrest
      exact ⟨s₂, by rw [bind_of_ok hrun, bind_of_error hmore]⟩
    · exact ⟨s₁, bind_of_error hrun⟩

/-- Requests are written exactly if type and length fit. However the requests of a client are cut, the
proxy reads them as they were written, with a fresh number where one is needed and the right length
before all of them, and leaves what follows; that is, as long as there are numbers, and without one
the reading fails. However the responses of the emitter are cut, they are read as they were written,
and one at the end that is not complete is left out. -/
theorem messages_survive_cutting :
    (∀ (type : Int) (data : Data), data.all (·.toNat < 256) = true →
      (∃ m : Message, m.type = type ∧ m.data = data ∧ request type data = .ok m.command) ∨
      (¬(0 ≤ type ∧ type < 256 ∧ data.length < 65536) ∧
        ∃ detail, request type data = .error (.foreign .packing detail))) ∧
    (∀ (s : Session) (client : Nat) (ms : List Message) (rest : Data), s.proxy.registry.Valid →
      (∀ m ∈ ms, Numbered m) →
      Stream.Cut (ms.flatMap Message.command ++ rest) (Net.heard s client) →
      (demand s ms ≤ 65536 → ∃ ts s', (takeCommands client ms.length).run s = (.ok ts, s') ∧
        Passing client s.proxy.registry ms ts s'.proxy.registry ∧
        (∀ t ∈ ts, readHeader (t.header.drop 1) = .ok (t.data.length, t.type)) ∧
        Stream.Cut rest (Net.heard s' client)) ∧
      (65536 < demand s ms → ∃ s',
        (takeCommands client ms.length).run s = (.error (.foreign .recursion ""), s'))) ∧
    ∀ (ms : List Message) (tail : Data) (chunks : List Chunk), Incomplete tail →
      Stream.Cut (ms.flatMap Message.text ++ tail) chunks →
      readResponses chunks = .ok (ms.map Message.response) := by
  refine ⟨fun type data hbytes => ?_, fun s client ms rest hvalid hms h => ⟨fun hfree => ?_, ?_⟩,
    fun ms tail chunks htail h => ?_⟩
  · by_cases hfit : 0 ≤ type ∧ type < 256 ∧ data.length < 65536
    · let m : Message := ⟨type.toNat, data, by omega, hfit.2.2, hbytes⟩
      have htype : (m.type : Int) = type := Int.toNat_of_nonneg hfit.1
      exact .inl ⟨m, htype, rfl, htype ▸ request_message m⟩
    · exact .inr ⟨hfit, request_of_not_fit hbytes hfit⟩
  · obtain ⟨ts, s', hrun, hpassing, hleft⟩ := takeCommands_of_free hvalid hms hfree h
    exact ⟨ts, s', hrun, hpassing, hpassing.readHeader_eq, hleft⟩
  · exact fun hfull => takeCommands_of_full hvalid hms hfull h
  · rw [readResponses, responsesFrom_cut h rfl, nil_append, splitAll_messages ms htail.splitResponse]

/-- A command and the request to turn the emitter on, cut inside of both headers; and responses of which
the last is not complete. -/
theorem cut_headers_survive :
    ∃ (s : Session) (ms : List Message) (ts : List Incoming) (s' : Session),
      s.proxy.registry = {} ∧
      Net.heard s 0 = [some ['#', '\x00'], some ['\x03', '0', 'a', 'b', 'c', '#'],
        some ['\x00', '\x00', '\x05', '!']] ∧
      (takeCommands 0 2).run s = (.ok ts, s') ∧ Passing 0 {} ms ts s'.proxy.registry ∧
      Stream.Cut ['!'] (Net.heard s' 0) ∧
      readResponses [some ['\x00'], some ['\x01', '\x05', 'x', '\x00'], some ['\x02', '\x06', 'y']] =
        .ok [⟨powerOn, ['x']⟩] := by
  let command : Message := ⟨outputAsync, ['a', 'b', 'c'], by decide, by decide, by decide⟩
  let power : Message := ⟨powerOn, [], by decide, by decide, by decide⟩
  let on : Message := ⟨powerOn, ['x'], by decide, by decide, by decide⟩
  let off : Message := ⟨powerOff, ['y', 'z'], by decide, by decide, by decide⟩
  let pieces : List Data := [['#', '\x00'], ['\x03', '0', 'a', 'b', 'c', '#'],
    ['\x00', '\x00', '\x05', '!']]
  let s : Session := { bench := { links := [{ peer := { chunks := pieces.map some } }] } }
  have hcut : Stream.Cut ([command, power].flatMap Message.command ++ ['!']) (heard s 0) :=
    ⟨pieces, rfl, by decide, by decide⟩
  have hms : ∀ m ∈ [command, power], Numbered m := by
    simp [Numbered, command, power, powerOn, outputAsync]
  obtain ⟨-, hcommands, hresponses⟩ := messages_survive_cutting
  obtain ⟨ts, s', hrun, hpassing, -, hleft⟩ :=
    (hcommands s 0 [command, power] ['!'] valid_empty hms hcut).1 (by decide)
  have htail : Incomplete ['\x00', '\x02', '\x06', 'y'] := ⟨off, by decide, by decide⟩
  refine ⟨s, [command, power], ts, s', rfl, rfl, hrun, hpassing, hleft, ?_⟩
  exact hresponses [on] _ _ htail ⟨[['\x00'], ['\x01', '\x05', 'x', '\x00'], ['\x02', '\x06', 'y']], rfl,
    by decide, by decide⟩

/-- A client that sends more commands than there are numbers is not always read. -/
theorem crowd_exhausts_numbers :
    ¬∀ (s : Session) (client : Nat) (ms : List Message), s.proxy.registry = {} →
      (∀ m ∈ ms, Numbered m) →
      Stream.Cut (ms.flatMap Message.command) (Net.heard s client) →
      ∃ ts s', (takeCommands client ms.length).run s = (.ok ts, s') := by
  intro hall
  let command : Message := ⟨outputAsync, ['a', 'b'], by decide, by decide, by decide⟩
  let ms : List Message := replicate 65537 command
  let s : Session :=
    { bench := { links := [{ peer := { chunks := [some (ms.flatMap Message.command)] } }] } }
  have hms : ∀ m ∈ ms, Numbered m := by
    intro m hm
    rw [eq_of_mem_replicate hm]
    exact fun _ => Nat.le_refl 2
  have hcut : Stream.Cut (ms.flatMap Message.command) (heard s 0) := by
    refine .single fun hnil => ?_
    have hmem : command ∈ ms := mem_replicate.2 ⟨by decide, rfl⟩
    cases flatMap_eq_nil_iff.1 hnil command hmem
  have hfull : 65536 < demand s ms := by
    have hcount : ms.countP (·.type == outputAsync) = 65537 := by
      rw [countP_replicate]
      rfl
    rw [demand, hcount]
    exact Nat.lt_of_lt_of_le (by decide : 65536 < 65537) (Nat.le_add_left 65537 _)
  obtain ⟨ts, s', hrun⟩ := hall s 0 ms rfl hms hcut
  rw [← append_nil (ms.flatMap Message.command)] at hcut
  obtain ⟨s'', herror⟩ := takeCommands_of_full valid_empty hms hfull hcut
  rw [hrun] at herror
  cases herror

end Proxy

end SetTop.IrBox
