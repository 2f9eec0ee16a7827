import SetTop.Matching.Confirm
import SetTop.Proofs.Image.Places

/-!
When a candidate is confirmed.

A pass of erosion leaves ink where all that a place touches has ink, so it never adds any
(`Image.Within.erodeOnce_self`) and keeps the order of pictures (`Image.Within.erodeOnce`). A higher
limit and more passes leave less ink, and confirm all that was confirmed before
(`confirmMatch_mono`).
-/

namespace SetTop.Image

variable {a b c : Image} {h w m n : Nat}

/-- A picture has the extent of another one, and ink only where that one has. -/
structure Within (a b : Image) : Prop where
  height : a.height = b.height
  width : a.width = b.width
  ink : ∀ y x, a.Inked y x → b.Inked y x

namespace Within

lemma erodeOnce (h : Within a b) : Within a.erodeOnce b.erodeOnce where
  height := h.height
  width := h.width
  ink y x := by
    rw [inked_erodeOnce_iff, inked_erodeOnce_iff, h.height, h.width]
    rintro ⟨hy, hx, hink⟩
    refine ⟨hy, hx, fun y' x' htouch hy' hx' => ?_⟩
    exact (h.ink y' x' ⟨h.height ▸ hy', h.width ▸ hx', hink y' x' htouch hy' hx'⟩).2.2

lemma erodeOnce_self (a : Image) : Within a.erodeOnce a where
  height := rfl
  width := rfl
  ink y x hink := by
    obtain ⟨hy, hx, hink⟩ := inked_erodeOnce_iff.1 hink
    exact ⟨hy, hx, hink y x (by simp [Touches, distance]) hy hx⟩

lemma trans (h : Within a b) (h' : Within b c) : Within a c :=
  ⟨h.height.trans h'.height, h.width.trans h'.width, fun y x hink => h'.ink y x (h.ink y x hink)⟩

lemma erode (h : Within a b) (hmn : m ≤ n) : Within (a.erode n) (b.erode m) := by
  induction n generalizing a b m with
  | zero =>
    obtain rfl : m = 0 := Nat.le_zero.1 hmn
    exact h
  | succ n ih =>
    cases m with
    | zero => exact ih ((erodeOnce_self a).trans h) n.zero_le
    | succ m => exact ih (b := b.erodeOnce) h.erodeOnce (Nat.le_of_succ_le_succ hmn)

lemma threshold {s t : Int} (ha : a.IsGrey h w) (hst : s ≤ t) :
    Within (a.threshold t) (a.threshold s) where
  height := rfl
  width := rfl
  ink y x := by
    rintro ⟨hy, hx, hink⟩
    have hvalue (limit : Int) :=
      ha.value_threshold_ne_zero limit (ha.height ▸ hy) (ha.width ▸ hx)
    exact ⟨hy, hx, (hvalue s).2 (Int.lt_of_le_of_lt hst ((hvalue t).1 hink))⟩

end Within

lemma IsGrey.erode (ha : a.IsGrey h w) : (a.erode n).IsGrey h w := by
  induction n generalizing a with
  | zero => exact ha
  | succ n ih => exact ih (ha.height ▸ ha.width ▸ isGrey_generateGrey _ _ _)

lemma IsGrey.hasInk_iff (ha : a.IsGrey h w) : a.hasInk = true ↔ ∃ y x, a.Inked y x := by
  simp only [hasInk, Array.any_eq_true, bne_iff_ne]
  constructor
  · rintro ⟨k, hk, hne⟩
    have hplace := hk
    rw [ha.filled, ha.depth_eq, Nat.mul_one] at hplace
    obtain ⟨hy, hx⟩ := Grid.lt_of_index_lt hplace
    refine ⟨_, _, hy, hx, ?_⟩
    rw [value, Nat.div_add_mod', ha.depth_eq]
    simpa [hk] using hne
  · rintro ⟨y, x, hy, hx, hne⟩
    have hk := ha.filled.index_lt_size hy hx (ha.depth_eq ▸ Nat.zero_lt_one)
    rw [value, Array.getElem?_eq_getElem hk] at hne
    exact ⟨_, hk, hne⟩

end SetTop.Image

namespace SetTop

open Confirm

variable {image template a b : Image} {region : Region} {p q : MatchParameters} {h w : Nat}

/-- The same method of confirming, with a limit and a number of passes that are no smaller. -/
structure MatchParameters.Looser (q p : MatchParameters) : Prop where
  method : q.confirmMethod = p.confirmMethod
  limit : ∃ s t, p.confirmLimit = .ok s ∧ q.confirmLimit = .ok t ∧ s ≤ t
  passes : ∃ m n, p.passCount = .ok m ∧ q.passCount = .ok n ∧ m ≤ n

lemma Confirm.compareGrey_eq {d : Image} {s : Int} {m : Nat} (hlimit : p.confirmLimit = .ok s)
    (hpasses : p.passCount = .ok m) (hd : Image.absoluteDifference a b = .ok d) :
    (compareGrey p a b).2 = .ok !((d.threshold s).erode m).hasInk := by
  rw [compareGrey, hd, hlimit, hpasses]
  rfl

lemma Confirm.compareGrey_mono (ha : a.IsGrey h w) (hb : b.Filled) (hpq : q.Looser p)
    (hagree : (compareGrey p a b).2 = .ok true) : (compareGrey q a b).2 = .ok true := by
  cases hd : Image.absoluteDifference a b with
  | error e =>
    rw [compareGrey, hd] at hagree
    cases hagree
  | ok d =>
    obtain ⟨s, t, hs, ht, hst⟩ := hpq.limit
    obtain ⟨m, n, hm, hn, hmn⟩ := hpq.passes
    have hgrey := (ha.of_combine hb hd).2
    have hink (limit : Int) (passes : Nat) : ((d.threshold limit).erode passes).hasInk = true ↔
        ∃ y x, ((d.threshold limit).erode passes).Inked y x := (hgrey.map _).erode.hasInk_iff
    rw [compareGrey_eq hs hm hd, Except.ok.injEq, Bool.not_eq_true', Bool.eq_false_iff, Ne, hink] at hagree
    rw [compareGrey_eq ht hn hd, Except.ok.injEq, Bool.not_eq_true', Bool.eq_false_iff, Ne, hink]
    rintro ⟨y, x, hleft⟩
    exact hagree ⟨y, x, ((Image.Within.threshold hgrey hst).erode hmn).ink y x hleft⟩

lemma Confirm.trace_cases (image : Image) (region : Region) (template : Image)
    (hmethod : q.confirmMethod = p.confirmMethod) :
    (trace image region template q).2 = (trace image region template p).2 ∨
      ∃ (a b : Image) (h w : Nat), a.IsGrey h w ∧ b.Filled ∧
        (trace image region template p).2 = (compareGrey p a b).2 ∧
        (trace image region template q).2 = (compareGrey q a b).2 := by
  have hnormalize {a a' : Image} (ha : a.normalize = .ok a') : ∃ f, a' = a.map f := by
    rw [Image.normalize] at ha
    split at ha <;> cases ha
    exact ⟨_, rfl⟩
  simp only [trace, hmethod]
  split
  · exact .inl rfl
  split
  · exact .inl rfl
  next window a b hgreys =>
    obtain ⟨_, -, hgreys⟩ := exists_of_bind_eq_ok hgreys
    obtain ⟨_, ha, hgreys⟩ := exists_of_bind_eq_ok hgreys
    obtain ⟨_, hb, hgreys⟩ := exists_of_bind_eq_ok hgreys
    cases hgreys
    have ha := Image.grey_eq_ok ha
    have hb := Image.grey_eq_ok hb
    split
    · split
      · next ha' hb' =>
        obtain ⟨f, rfl⟩ := hnormalize ha'
        obtain ⟨g, rfl⟩ := hnormalize hb'
        exact .inr ⟨_, _, _, _, ha.map f, (hb.map g).filled, rfl, rfl⟩
      · exact .inl rfl
      · exact .inl rfl
    · exact .inr ⟨a, b, _, _, ha, hb.filled, rfl, rfl⟩

/-- A candidate that is confirmed is confirmed with any higher limit and any more passes. -/
theorem confirmMatch_mono (hpq : q.Looser p)
    (hconfirmed : confirmMatch image region template p = .ok true) :
    confirmMatch image region template q = .ok true := by
  rw [confirmMatch] at hconfirmed ⊢
  obtain hsame | ⟨a, b, h, w, ha, hb, hp, hq⟩ := trace_cases image region template hpq.method
  · exact hsame.trans hconfirmed
  · exact hq.trans (compareGrey_mono ha hb hpq (hp.symm.trans hconfirmed))

def spotted (middle : Nat) : Image :=
  .generate 3 3 (some 3) fun y x _ => if y = 1 ∧ x = 1 then middle else 255

/-- Compares with a share of full difference, after some passes. -/
def comparing (share passes : Nat) : MatchParameters :=
  ⟨"sqdiff-normed", .null, "absdiff", .number (.int share), .number (.int passes)⟩

theorem confirmMatch_spotted :
    confirmMatch (spotted 0) (.ofInts 0 0 3 3) (spotted 255) (comparing 0 0) = .ok false ∧
      confirmMatch (spotted 0) (.ofInts 0 0 3 3) (spotted 255) (comparing 0 1) = .ok true ∧
      (comparing 1 2).Looser (comparing 0 1) ∧
      confirmMatch (spotted 0) (.ofInts 0 0 3 3) (spotted 255) (comparing 1 2) = .ok true := by
  have hone : confirmMatch (spotted 0) (.ofInts 0 0 3 3) (spotted 255) (comparing 0 1) = .ok true := by
    decide +kernel
  have hlooser : (comparing 1 2).Looser (comparing 0 1) :=
    ⟨rfl, ⟨0, 255, by decide +kernel⟩, ⟨1, 2, by decide +kernel⟩⟩
  exact ⟨by decide +kernel, hone, hlooser, confirmMatch_mono hlooser hone⟩

end SetTop
