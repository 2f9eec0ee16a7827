import SetTop.Cache.Findings
import SetTop.Proofs.Json.Sorted

/-!
What a key tells.

The key of a search is the text of a value, and tells that value. So two searches have the same key
if and only if their pictures have the same extents and the same bytes, and their parameters are the
same up to the order of fields. The kind of a picture's elements is not in the key, and neither is
what the search reads from the configuration.
-/

namespace SetTop

open List Json

/-! ### Bytes -/

variable {size n m : ℕ}

lemma eq_of_flatMap_eq {α β : Type} {f : α → List β} {P : α → Prop} (hpos : 0 < size)
    (hsize : ∀ a, P a → (f a).length = size) (hinj : ∀ a b, P a → P b → f a = f b → a = b)
    {as bs : List α} (has : ∀ a ∈ as, P a) (hbs : ∀ b ∈ bs, P b) (h : as.flatMap f = bs.flatMap f) :
    as = bs := by
  induction as generalizing bs with
  | nil =>
    cases bs with
    | nil => rfl
    | cons b bs =>
      have hlength := hsize b (hbs b (by simp))
      rw [flatMap_nil, flatMap_cons, nil_eq_append_iff] at h
      rw [h.1] at hlength
      exact absurd hlength hpos.ne
  | cons a as ih =>
    obtain ⟨ha, has⟩ := forall_mem_cons.1 has
    cases bs with
    | nil =>
      have hlength := hsize a ha
      rw [flatMap_nil, flatMap_cons, append_eq_nil_iff] at h
      rw [h.1] at hlength
      exact absurd hlength hpos.ne
    | cons b bs =>
      obtain ⟨hb, hbs⟩ := forall_mem_cons.1 hbs
      rw [flatMap_cons, flatMap_cons] at h
      obtain ⟨hfirst, hrest⟩ := append_inj h ((hsize a ha).trans (hsize b hb).symm)
      rw [hinj a b ha hb hfirst, ih has hbs hrest]

lemma hexDigits_two (h : n < 256) : Text.hexDigits 2 n = [(n / 16).digitChar, (n % 16).digitChar] := by
  have hfirst : Text.hexDigits 1 (n / 16) = [(n / 16).digitChar] := by
    rw [Text.hexDigits, Nat.toDigits_of_lt_base (by omega)]
    rfl
  rw [hexDigits_succ (by decide), hfirst]
  rfl

lemma eq_of_digitChar_eq (hn : n < 16) (hm : m < 16) (h : n.digitChar = m.digitChar) : n = m := by
  have hvalue := plainHexValue?_digitChar n hn
  rw [h, plainHexValue?_digitChar m hm] at hvalue
  exact (Option.some.inj hvalue).symm

lemma eq_of_hexDigits_eq (hn : n < 256) (hm : m < 256) (h : Text.hexDigits 2 n = Text.hexDigits 2 m) :
    n = m := by
  rw [hexDigits_two hn, hexDigits_two hm] at h
  simp only [List.cons.injEq, and_true] at h
  have hhigh := eq_of_digitChar_eq (by omega) (by omega) h.1
  have hlow := eq_of_digitChar_eq (by omega) (by omega) h.2
  omega

/-! ### Pictures -/

lemma lowBytes_succ (size n : ℕ) :
    lowBytes (size + 1) n = n % 256 :: lowBytes size (n / 256) := by
  rw [lowBytes, range_succ_eq_map, map_cons, map_map]
  congr 1
  · exact congrArg (· % 256) (Nat.div_one n)
  · refine map_congr_left fun i _ => ?_
    change n / 256 ^ (i + 1) % 256 = n / 256 / 256 ^ i % 256
    rw [Nat.div_div_eq_div_mul, Nat.pow_succ']

lemma eq_of_lowBytes_eq (hn : n < 256 ^ size) (hm : m < 256 ^ size)
    (h : lowBytes size n = lowBytes size m) : n = m := by
  induction size generalizing n m with
  | zero => omega
  | succ size ih =>
    rw [Nat.pow_succ'] at hn hm
    rw [lowBytes_succ, lowBytes_succ] at h
    obtain ⟨hlow, hhigh⟩ := List.cons.inj h
    have := ih (Nat.div_lt_of_lt_mul hn) (Nat.div_lt_of_lt_mul hm) hhigh
    omega

namespace PixelKind

variable (e : PixelKind) {v w : ℕ}

/-- The whole number that a float has, read off its bits: how many of them are the fraction, and by
how much the exponent is raised. -/
def numberOfBits (fraction raised bits : ℕ) : ℕ :=
  if bits = 0 then 0
  else (2 ^ fraction + bits % 2 ^ fraction) / 2 ^ (fraction + raised - bits / 2 ^ fraction)

lemma numberOfBits_single :
    ∀ v < 256, numberOfBits 23 127 (Float32.ofNat v).toBits.toNat = v := by
  decide +kernel

lemma numberOfBits_double : ∀ v < 256, numberOfBits 52 1023 (Float.ofNat v).toBits.toNat = v := by
  decide +kernel

lemma bytes_cases : (∀ v, e.bytes v = [v]) ∨ ∃ (size : ℕ) (g : ℕ → ℕ), 0 < size ∧
    (∀ v, e.bytes v = lowBytes size (g v)) ∧
    ∀ v < 256, ∀ w < 256, g v < 256 ^ size ∧ (g v = g w → v = w) := by
  have hplain {size : ℕ} (hsize : 0 < size) :
      ∀ v < 256, ∀ w < 256, v < 256 ^ size ∧ (v = w → v = w) :=
    fun v hv _ _ => ⟨hv.trans_le (Nat.le_pow hsize), id⟩
  -- Bits tell the number that is read off them.
  have hread {size : ℕ} {g number : ℕ → ℕ} (hg : ∀ v, g v < 256 ^ size)
      (hnumber : ∀ v < 256, number (g v) = v) :
      ∀ v < 256, ∀ w < 256, g v < 256 ^ size ∧ (g v = g w → v = w) := by
    intro v hv w hw
    refine ⟨hg v, fun h => ?_⟩
    rw [← hnumber v hv, h, hnumber w hw]
  cases e with
  | byte => exact .inl fun v => rfl
  | other name =>
    unfold bytes
    dsimp only
    split_ifs
    · exact .inl fun v => rfl
    · exact .inr ⟨2, id, by decide, fun v => rfl, hplain (by decide)⟩
    · exact .inr ⟨4, id, by decide, fun v => rfl, hplain (by decide)⟩
    · exact .inr ⟨8, id, by decide, fun v => rfl, hplain (by decide)⟩
    · exact .inr ⟨4, _, by decide, fun v => rfl,
        hread (fun v => UInt32.toNat_lt _) numberOfBits_single⟩
    · exact .inr ⟨8, _, by decide, fun v => rfl,
        hread (fun v => UInt64.toNat_lt _) numberOfBits_double⟩
    · exact .inl fun v => rfl

lemma exists_length_bytes : ∃ size, 0 < size ∧ ∀ v, (e.bytes v).length = size := by
  rcases e.bytes_cases with h | ⟨size, g, hpos, h, -⟩
  · exact ⟨1, Nat.one_pos, fun v => by rw [h]; rfl⟩
  · exact ⟨size, hpos, fun v => by rw [h, lowBytes, length_map, length_range]⟩

lemma lt_of_mem_bytes (hv : v < 256) : ∀ b ∈ e.bytes v, b < 256 := by
  intro b hb
  rcases e.bytes_cases with h | ⟨size, g, -, h, -⟩
  · rw [h, mem_singleton] at hb
    omega
  · rw [h] at hb
    obtain ⟨i, -, rfl⟩ := mem_map.1 hb
    exact Nat.mod_lt _ (by decide)

lemma eq_of_bytes_eq (hv : v < 256) (hw : w < 256) (h : e.bytes v = e.bytes w) : v = w := by
  rcases e.bytes_cases with hone | ⟨size, g, -, hlow, hg⟩
  · rw [hone, hone] at h
    exact singleton_inj.1 h
  · rw [hlow, hlow] at h
    exact (hg v hv w hw).2 (eq_of_lowBytes_eq (hg v hv w hw).1 (hg w hw v hv).1 h)

end PixelKind

namespace Image

def IsBytes (i : Image) : Prop := ∀ v ∈ i.values.toList, v < 256

variable {i j : Image}

lemma IsBytes.lt_of_mem_rawBytes (hi : i.IsBytes) : ∀ b ∈ i.rawBytes, b < 256 := by
  intro b hb
  obtain ⟨v, hv, hb⟩ := mem_flatMap.1 hb
  exact i.element.lt_of_mem_bytes (hi v hv) b hb

lemma values_eq_of_rawBytes_eq (hi : i.IsBytes) (hj : j.IsBytes) (hkind : i.element = j.element)
    (h : i.rawBytes = j.rawBytes) : i.values = j.values := by
  obtain ⟨size, hpos, hlength⟩ := i.element.exists_length_bytes
  rw [rawBytes, rawBytes, ← hkind] at h
  exact Array.toList_inj.1
    (eq_of_flatMap_eq hpos (fun v _ => hlength v) (fun _ _ => i.element.eq_of_bytes_eq) hi hj h)

lemma eq_of_shape_eq (hshape : i.shape = j.shape) (hkind : i.element = j.element)
    (hvalues : i.values = j.values) : i = j := by
  obtain ⟨height, width, channels, values, element⟩ := i
  obtain ⟨height', width', channels', values', element'⟩ := j
  cases channels <;> cases channels' <;> simp_all [shape]

lemma lasting_keyPart (i : Image) : i.keyPart.Lasting := by
  refine .list fun part hpart => ?_
  simp only [mem_cons, not_mem_nil, or_false] at hpart
  rcases hpart with rfl | rfl
  · exact .list (forall_mem_map.2 fun n _ => .int n)
  · exact .text _

lemma sorted_keyPart (i : Image) : i.keyPart.sorted = i.keyPart := by
  have hshape : (i.shape.map ofNat).map sorted = i.shape.map ofNat := by
    rw [map_map]
    exact map_congr_left fun n _ => rfl
  simp only [keyPart, sorted, sortedItems, sortedItems_eq_map, hshape]

lemma keyPart_eq_iff (hi : i.IsBytes) (hj : j.IsBytes) :
    i.keyPart = j.keyPart ↔ i.shape = j.shape ∧ i.rawBytes = j.rawBytes := by
  constructor
  · intro h
    simp only [keyPart, list.injEq, List.cons.injEq, text.injEq, and_true] at h
    obtain ⟨hshape, htext⟩ := h
    refine ⟨map_injective_iff.2 ?_ hshape, ?_⟩
    · intro n m hnm
      cases hnm
      rfl
    · exact eq_of_flatMap_eq Nat.two_pos (fun a ha => by rw [hexDigits_two ha]; rfl)
        (fun _ _ => eq_of_hexDigits_eq) hi.lt_of_mem_rawBytes hj.lt_of_mem_rawBytes
        (String.ofList_injective htext)
  · rintro ⟨hshape, hbytes⟩
    rw [keyPart, keyPart, hshape, hbytes]

end Image

/-! ### Parameters -/

namespace MatchParameters

def sorted (p : MatchParameters) : MatchParameters :=
  { p with
    matchThreshold := p.matchThreshold.sorted
    confirmThreshold := p.confirmThreshold.sorted
    erodePasses := p.erodePasses.sorted }

/-- The parameters are values that their texts tell. -/
structure Lasting (p : MatchParameters) : Prop where
  matchThreshold : p.matchThreshold.Lasting
  confirmThreshold : p.confirmThreshold.Lasting
  erodePasses : p.erodePasses.Lasting

lemma Lasting.sorted {p : MatchParameters} (h : p.Lasting) : p.sorted.Lasting :=
  ⟨h.matchThreshold.sorted, h.confirmThreshold.sorted, h.erodePasses.sorted⟩

end MatchParameters

namespace Argument

lemma sorted_parametersPart (p : MatchParameters) :
    (parametersPart p).sorted = parametersPart p.sorted := by
  simp [parametersPart, MatchParameters.sorted, sorted, sortedFields, insertField]

variable {p : MatchParameters}

lemma parametersPart_inj {q : MatchParameters} : parametersPart p = parametersPart q ↔ p = q := by
  constructor
  · intro h
    simp only [parametersPart] at h
    cases p
    simp_all
  · rintro rfl
    rfl

lemma lasting_parametersPart (h : p.Lasting) : (parametersPart p).Lasting := by
  refine .object (by simp) ?_
  simp only [forall_mem_cons, not_mem_nil, false_implies, implies_true, and_true]
  exact ⟨.text _, h.confirmThreshold, h.erodePasses, .text _, h.matchThreshold⟩

end Argument

/-! ### Searches -/

namespace Findings

def argumentsPart (image template : Image) (p : MatchParameters) : Json :=
  .object [("image", image.keyPart), ("imglog", .null),
    ("match_parameters", Argument.parametersPart p.sorted), ("template", template.keyPart)]

lemma keyPart_arguments (image template : Image) (p : MatchParameters) :
    (Argument.object (arguments image template p)).keyPart =
      .ok (argumentsPart image template p) := by
  have hfields : Argument.keyFields (arguments image template p) =
      .ok [("image", image.keyPart), ("imglog", .null),
        ("match_parameters", Argument.parametersPart p), ("template", template.keyPart)] := rfl
  rw [Argument.keyPart, hfields]
  simp [bind, Except.bind, pure, Except.pure, sorted, sortedFields, insertField,
    Image.sorted_keyPart, Argument.sorted_parametersPart, argumentsPart]

variable {p p' : MatchParameters} {image image' template template' : Image}

lemma lasting_argumentsPart (image template : Image) (h : p.Lasting) :
    (argumentsPart image template p).Lasting := by
  refine .object (by simp) ?_
  simp only [forall_mem_cons, not_mem_nil, false_implies, implies_true, and_true]
  exact ⟨image.lasting_keyPart, .null, Argument.lasting_parametersPart h.sorted,
    template.lasting_keyPart⟩

lemma argumentsPart_eq_iff : argumentsPart image template p = argumentsPart image' template' p' ↔
      image.keyPart = image'.keyPart ∧ p.sorted = p'.sorted ∧
        template.keyPart = template'.keyPart := by
  simp [argumentsPart, Argument.parametersPart_inj]

def digestText (image template : Image) (p : MatchParameters) : String :=
  (list [.text (list [.text function, dependsOn.sorted]).write,
    argumentsPart image template p]).write

lemma digest_eq (image template : Image) (p : MatchParameters) :
    digest image template p = .ok (digestText image template p) := by
  rw [digest, callDigest, keyPart_arguments]
  rfl

lemma digestText_eq_iff (hp : p.Lasting) (hp' : p'.Lasting) :
    digestText image template p = digestText image' template' p' ↔
      image.keyPart = image'.keyPart ∧ p.sorted = p'.sorted ∧
        template.keyPart = template'.keyPart := by
  have hlasting (image template : Image) {p : MatchParameters} (hp : p.Lasting) (name : String) :
      (list [.text name, argumentsPart image template p]).Lasting := by
    refine .list ?_
    simp only [forall_mem_cons, not_mem_nil, false_implies, implies_true, and_true]
    exact ⟨.text _, lasting_argumentsPart image template hp⟩
  rw [← argumentsPart_eq_iff]
  constructor
  · intro h
    have hvalue := (hlasting image template hp _).eq_of_write_eq (hlasting image' template' hp' _) h
    simpa using hvalue
  · intro h
    rw [digestText, digestText, h]

end Findings

end SetTop
