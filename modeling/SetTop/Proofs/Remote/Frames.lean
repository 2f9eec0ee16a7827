import SetTop.Proofs.IrBox.Emitting
import SetTop.Proofs.Logging
import SetTop.Remote.Networked

/-!
Frames with keys can be read back.

A frame is three texts inside each other, each behind its length, and the innermost one is written
with sixty-four letters. Taking the layers off again gives the sender and the key
(`readKey?_keyFrame`), so that no two keys have the same frame.
-/

namespace SetTop

open Act List Bytes Base64 Net
open IrBox (writable send_of_not_writable)
open IrBox.Proxy (OnlyReads onlyReads_reading sends label send_ok run_link)

/-! ### Sixty-four letters -/

namespace Base64

def number? (c : Char) : Option Nat := letters.findIdx? (· == c)

/-- The bytes that letters stand for, in groups of four. Only the last group may be filled up. -/
def decode? : List Char → Option Bytes
  | [] => some []
  | [a, b, '=', '='] => do return [UInt8.ofNat (((← number? a) * 64 + (← number? b)) / 16)]
  | [a, b, c, '='] => do
    let n := ((← number? a) * 64 + (← number? b)) * 64 + (← number? c)
    return [UInt8.ofNat (n / 1024), UInt8.ofNat (n / 4)]
  | a :: b :: c :: d :: rest => do
    let n := (((← number? a) * 64 + (← number? b)) * 64 + (← number? c)) * 64 + (← number? d)
    return UInt8.ofNat (n / 65536) :: UInt8.ofNat (n / 256) :: UInt8.ofNat (n % 256) ::
      (← decode? rest)
  | _ => none

lemma number?_letter {n : Nat} (h : n < 64) : number? (letter n) = some n ∧ letter n ≠ '=' := by
  revert n
  decide

lemma ofNat_eq {n : Nat} {a : UInt8} (h : n % 256 = a.toNat) : UInt8.ofNat n = a :=
  UInt8.toNat_inj.1 (by rw [UInt8.toNat_ofNat', h])

lemma decode?_encode (b : Bytes) : decode? (encode b) = some b := by
  fun_induction encode b with
  | case1 => rfl
  | case2 a n =>
    have ha := a.toNat_lt
    obtain ⟨h₁, -⟩ := number?_letter (n := n / 64) (by omega)
    obtain ⟨h₂, -⟩ := number?_letter (n := n % 64) (by omega)
    have hvalue : UInt8.ofNat ((n / 64 * 64 + n % 64) / 16) = a := ofNat_eq (by omega)
    simp [decode?, h₁, h₂, hvalue]
  | case3 a b n =>
    have ha := a.toNat_lt
    have hb := b.toNat_lt
    obtain ⟨h₁, -⟩ := number?_letter (n := n / 4096) (by omega)
    obtain ⟨h₂, -⟩ := number?_letter (n := n / 64 % 64) (by omega)
    obtain ⟨h₃, hne⟩ := number?_letter (n := n % 64) (by omega)
    have hn : (n / 4096 * 64 + n / 64 % 64) * 64 + n % 64 = n := by omega
    have hvalue : UInt8.ofNat (n / 1024) = a := ofNat_eq (by omega)
    have hvalue' : UInt8.ofNat (n / 4) = b := ofNat_eq (by omega)
    simp [decode?, h₁, h₂, h₃, hn, hvalue, hvalue']
  | case4 a b c rest n ih =>
    have ha := a.toNat_lt
    have hb := b.toNat_lt
    have hc := c.toNat_lt
    obtain ⟨h₁, -⟩ := number?_letter (n := n / 262144) (by omega)
    obtain ⟨h₂, -⟩ := number?_letter (n := n / 4096 % 64) (by omega)
    obtain ⟨h₃, -⟩ := number?_letter (n := n / 64 % 64) (by omega)
    obtain ⟨h₄, hne⟩ := number?_letter (n := n % 64) (by omega)
    have hn : ((n / 262144 * 64 + n / 4096 % 64) * 64 + n / 64 % 64) * 64 + n % 64 = n := by omega
    have hvalue : UInt8.ofNat (n / 65536) = a := ofNat_eq (by omega)
    have hvalue' : UInt8.ofNat (n / 256) = b := ofNat_eq (by omega)
    have hvalue'' : UInt8.ofNat (n % 256) = c := ofNat_eq (by omega)
    simp [decode?, h₁, h₂, h₃, h₄, hne, hn, ih, hvalue, hvalue', hvalue'']

lemma all_encode (b : Bytes) : (encode b).all (·.toNat < 256) = true := by
  have hletter (n : Nat) : (letter n).toNat < 256 := by
    have hall : (('=' :: letters).all (·.toNat < 256)) = true := by decide
    have hmem : letter n ∈ '=' :: letters := by
      rw [letter, getD_eq_getElem?_getD]
      cases h : letters[n]? with
      | none => exact mem_cons_self
      | some c => exact mem_cons_of_mem _ (mem_of_getElem? h)
    simpa using all_eq_true.1 hall _ hmem
  fun_induction encode b with
  | case1 => rfl
  | case2 | case3 => simp [hletter]
  | case4 a b c rest n ih => simp [hletter, ih]

end Base64

/-! ### Layers -/

namespace Samsung

def sized (data : Bytes) : Bytes :=
  UInt8.ofNat (data.length % 256) :: UInt8.ofNat (data.length / 256) :: data

lemma withLength_eq (data : Bytes) : withLength data =
    if data.length ≤ 65535 then .ok (sized data) else .error (.foreign .packing "") := by
  rw [withLength, littleEndian?]
  split
  · next h =>
    rw [IrBox.bigEndian?_of_lt (Nat.lt_succ_of_le h)]
    rfl
  · next h =>
    rw [bigEndian?, if_neg (by omega)]
    rfl

/-- What stands behind its length at the beginning, and the rest. -/
def takeSized? : Bytes → Option (Bytes × Bytes)
  | low :: high :: rest =>
    let n := high.toNat * 256 + low.toNat
    if n ≤ rest.length then some (rest.take n, rest.drop n) else none
  | _ => none

lemma takeSized?_sized {data : Bytes} (h : data.length ≤ 65535) (rest : Bytes) :
    takeSized? (sized data ++ rest) = some (data, rest) := by
  have hn : data.length / 256 % 256 * 256 + data.length % 256 = data.length := by omega
  simp [sized, takeSized?, hn]

/-- Takes the layers off a frame: its sender, and the key that it is about. Nothing may be left. -/
def readKey? : Bytes → Option (Bytes × Bytes)
  | 0 :: rest => do
    let (name, rest) ← takeSized? rest
    match ← takeSized? rest with
    | (0 :: 0 :: 0 :: content, []) =>
      match ← takeSized? content with
      | (letters, []) => return (name, ← decode? (toChars letters))
      | _ => none
    | _ => none
  | _ => none

/-- What the frame of a key carries. -/
def payload (key : String) : Bytes :=
  [0, 0, 0] ++ sized (ofChars (encode (ofText key)))

variable {key : String}

lemma keyFrame_eq (hkey : key.toList.all (·.toNat < 256) = true) : keyFrame key =
    if (payload key).length ≤ 65535 then .ok (0 :: sized sender ++ sized (payload key))
    else .error (.foreign .packing "") := by
  have hlength : (payload key).length =
      (ofChars (encode (ofText key))).length + 5 := rfl
  have hsender : withLength sender = .ok (sized sender) := (withLength_eq _).trans (if_pos (by decide))
  have hbytes : bytesOf key = .ok (ofText key) := if_pos hkey
  rw [keyFrame, encodeText, hbytes]
  change (withLength (ofChars (encode (ofText key))) >>= _) = _
  rw [withLength_eq]
  by_cases hletters : (ofChars (encode (ofText key))).length ≤ 65535
  · rw [if_pos hletters]
    change frame (payload key) = _
    rw [frame, hsender]
    rw [withLength_eq]
    split <;> rfl
  · rw [if_neg hletters, if_neg (by omega)]
    rfl

lemma readKey?_keyFrame (h : (payload key).length ≤ 65535) :
    readKey? (0 :: sized sender ++ sized (payload key)) = some (sender, ofText key) := by
  have hletters : (ofChars (encode (ofText key))).length ≤ 65535 :=
    Nat.le_trans (Nat.le_add_right _ 5) h
  have hrest := takeSized?_sized h []
  have hcontent := takeSized?_sized hletters []
  rw [append_nil] at hrest hcontent
  have hback := IrBox.toChars_ofChars (all_encode (ofText key))
  simp only [readKey?, cons_append, @takeSized?_sized sender (by decide), hrest,
    Option.bind_eq_bind, Option.bind_some]
  simp only [payload, cons_append, nil_append, hcontent, hback, decode?_encode, Option.bind_some]
  rfl

/-! ### Pressing a key -/

lemma onlyReads_debug (text : String) : Moves OnlyReads (Log.debug text) := by
  intro s
  obtain ⟨_, _, _, h⟩ := Log.aside_debug text s
  rw [h]
  exact ⟨rfl, rfl⟩

lemma onlyReads_receive (link limit : Nat) : Moves OnlyReads (receive link limit) := by
  refine .bind (onlyReads_reading link _) fun r => ?_
  split
  · exact .pure _
  · exact .pure _
  · exact .throw _

lemma run_press (link : Nat) (s : Session) {f : Bytes} (hf : keyFrame key = .ok f) :
    (press link (.name key)).run s = (do
      send link (toText f)
      Log.debug ("Pressed " ++ key)
      receiveReply link).run s := by
  change (Act.ofExcept (keyFrame key) >>= _).run s = _
  rw [hf]
  rfl

variable {s : Session} {link : Nat}

lemma heard_send (h : writable s link = true) (text : String) :
    ∃ s', (send link text).run s = (.ok (), s') ∧ s'.verbosity = s.verbosity ∧
      heard s' link = heard s link := by
  rw [send, bind_of_ok (run_link link s), if_neg (by simpa [writable] using h)]
  refine ⟨_, rfl, rfl, ?_⟩
  change (((s.bench.links.modify link _)[link]?).getD _).peer.chunks = _
  rw [getElem?_modify_eq, heard]
  cases s.bench.links[link]? <;> rfl

lemma ok_receive (h : (heard s link).head? ≠ some none) (limit : Nat) :
    ∃ cs s', (receive link limit).run s = (.ok cs, s') ∧ s'.verbosity = s.verbosity := by
  rw [receive, bind_of_ok (heard_reading link _ s)]
  rcases hchunks : heard s link with _ | ⟨_ | c, rest⟩
  · exact ⟨[], _, rfl, rfl⟩
  · rw [hchunks] at h
    exact absurd rfl h
  · rw [Stream.receive]
    by_cases hempty : c.isEmpty = true
    · rw [if_pos hempty]
      exact ⟨[], _, rfl, rfl⟩
    · rw [if_neg hempty]
      by_cases hshort : c.length ≤ limit
      · rw [if_pos hshort]
        exact ⟨_, _, rfl, rfl⟩
      · rw [if_neg hshort]
        exact ⟨_, _, rfl, rfl⟩

/-- **Frames can be read back.** A key is pressed by one frame from which its sender and the key are
read back, and different keys have different frames. It fails, before anything is sent, if the key is
too long for a frame or the connection is lost, and otherwise not if the television answers in time. -/
theorem press_frames_key (hkey : key.toList.all (·.toNat < 256) = true) (link : Nat) (s : Session) :
    (65535 < (payload key).length → ∃ e, (press link (.name key)).run s = (.error e, s)) ∧
    ((payload key).length ≤ 65535 → ∃ f, keyFrame key = .ok f ∧
      readKey? f = some (sender, Bytes.ofText key) ∧
      (writable s link = false → ∃ e, (press link (.name key)).run s = (.error e, s)) ∧
      (writable s link = true →
        sends ((press link (.name key)).run s).2.bench.journal =
          sends s.bench.journal ++ [(label s link, Bytes.toText f)] ∧
        (Log.Known s → (Net.heard s link).head? ≠ some none →
          ((press link (.name key)).run s).1 = .ok ()))) ∧
    ∀ key' f, key'.toList.all (·.toNat < 256) = true → keyFrame key = .ok f → keyFrame key' = .ok f →
      key' = key := by
  have hframe := keyFrame_eq hkey
  refine ⟨fun hlong => ?_, fun hfits => ?_, fun key' f hkey' hf hf' => ?_⟩
  · rw [if_neg (by omega)] at hframe
    refine ⟨.foreign .packing "", ?_⟩
    change (Act.ofExcept (keyFrame key) >>= _).run s = _
    rw [hframe]
    rfl
  · rw [if_pos hfits] at hframe
    refine ⟨_, hframe, readKey?_keyFrame hfits, fun hbroken => ?_, fun hwritable => ?_⟩
    · rw [run_press link s hframe]
      exact ⟨_, bind_of_error (send_of_not_writable hbroken _)⟩
    · obtain ⟨s₁, hsend, hlevel, hheard⟩ := heard_send hwritable (toText _)
      rw [run_press link s hframe, bind_of_ok hsend]
      have hrest : Moves OnlyReads (do
          Log.debug ("Pressed " ++ key)
          receiveReply link) :=
        .bind (onlyReads_debug _) fun _ => .bind (onlyReads_receive link _) fun _ => onlyReads_debug _
      refine ⟨(hrest s₁).sends.trans (send_ok hsend).2, fun hknown hreply => ?_⟩
      have hknown₁ : Log.Known s₁ := by rwa [Log.Known, hlevel]
      obtain ⟨err, hdebug⟩ := Log.run_debug hknown₁ ("Pressed " ++ key)
      rw [← hheard] at hreply
      obtain ⟨cs, s₂, hreceive, hlevel₂⟩ := @ok_receive (Log.told s₁ err) link hreply 4096
      have hknown₂ : Log.Known s₂ := by
        rw [Log.Known, hlevel₂]
        exact hknown₁
      rw [bind_of_ok hdebug, receiveReply, bind_of_ok hreceive]
      exact Log.ok_debug hknown₂ _
  · have hread {k : String} (hk : k.toList.all (·.toNat < 256) = true) (h : keyFrame k = .ok f) :
        readKey? f = some (sender, ofText k) := by
      rw [keyFrame_eq hk] at h
      split at h
      · next hfits =>
        cases h
        exact readKey?_keyFrame hfits
      · cases h
    have hsame : ofText key' = ofText key :=
      congrArg Prod.snd (Option.some.inj ((hread hkey' hf').symm.trans (hread hkey hf)))
    have hchars := congrArg toChars hsame
    rw [ofText, ofText, IrBox.toChars_ofChars hkey', IrBox.toChars_ofChars hkey] at hchars
    exact String.toList_inj.1 hchars

/-- A television that answers. -/
theorem digit_key_is_framed :
    let s : Session :=
      { verbosity := some 0, bench.links := [{ peer := { chunks := [some ['x']] } }] }
    ∃ f, readKey? f = some (sender, Bytes.ofText "KEY_0") ∧
      sends ((press 0 (.name "KEY_0")).run s).2.bench.journal = [("sock", Bytes.toText f)] ∧
      ((press 0 (.name "KEY_0")).run s).1 = .ok () := by
  intro s
  obtain ⟨-, hfits, -⟩ := @press_frames_key "KEY_0" (by decide) 0 s
  obtain ⟨f, -, hread, -, hsent⟩ := hfits (by decide +kernel)
  obtain ⟨hjournal, hok⟩ := hsent (by decide)
  exact ⟨f, hread, hjournal, hok rfl (by decide)⟩

end Samsung

end SetTop
