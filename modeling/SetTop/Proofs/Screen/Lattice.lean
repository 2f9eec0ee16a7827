import Mathlib
import SetTop.Proofs.Screen.Region

/-!
Regions form a lattice.

Edges are integers or infinite, and on those the comparisons of numbers are a linear order. A region
lies below another if that contains it, and `none` below all. In this order the common part of two
regions is their greatest lower bound and the bounding box their least upper bound.
-/

namespace SetTop

/-! ### Edges -/

/-- Whether a number is an integer or infinite. -/
def Num.isEdge : Num → Bool
  | .int _ | .posInf | .negInf => true
  | .real _ | .nan => false

/-- A number that is an integer or infinite. -/
abbrev Edge := { n : Num // n.isEdge = true }

namespace Edge

/-- The place of an edge among the integers and the two infinities. -/
def place : Num → WithBot (WithTop Int)
  | .int n => ((n : WithTop Int) : WithBot (WithTop Int))
  | .posInf => ((⊤ : WithTop Int) : WithBot (WithTop Int))
  | .negInf | .real _ | .nan => ⊥

lemma cases {motive : Edge → Prop} (int : ∀ n, motive ⟨.int n, rfl⟩)
    (posInf : motive ⟨.posInf, rfl⟩) (negInf : motive ⟨.negInf, rfl⟩) (a : Edge) : motive a := by
  obtain ⟨a, ha⟩ := a
  cases a with
  | int n => exact int n
  | posInf => exact posInf
  | negInf => exact negInf
  | real | nan => cases ha

variable (a b : Edge)

lemma le_iff_place : a.1.le b.1 = true ↔ place a.1 ≤ place b.1 := by
  induction a using cases <;> induction b using cases
  case int.int => simp [place]
  all_goals simp [place, Num.le, Num.compare?]

lemma lt_iff_place : a.1.lt b.1 = true ↔ place a.1 < place b.1 := by
  induction a using cases <;> induction b using cases
  case int.int => simp [place]
  case int.posInf n => exact iff_of_true rfl (WithBot.coe_lt_coe.2 (WithTop.coe_lt_top n))
  all_goals simp [place, Num.lt, Num.compare?]

lemma eq_of_place_eq (h : place a.1 = place b.1) : a = b := by
  induction a using cases <;> induction b using cases <;> simp_all [place]

lemma ge_eq_le : a.1.ge b.1 = b.1.le a.1 := by
  induction a using cases <;> induction b using cases
  case int.int => simp
  all_goals rfl

lemma gt_eq_lt : a.1.gt b.1 = b.1.lt a.1 := by
  induction a using cases <;> induction b using cases
  case int.int => simp
  all_goals rfl

lemma isEdge_min : (a.1.min b.1).isEdge = true := by
  rw [Num.min]
  split
  · exact b.2
  · exact a.2

lemma isEdge_max : (a.1.max b.1).isEdge = true := by
  rw [Num.max]
  split
  · exact b.2
  · exact a.2

instance : LinearOrder Edge where
  le a b := a.1.le b.1 = true
  lt a b := a.1.lt b.1 = true
  min a b := ⟨a.1.min b.1, isEdge_min a b⟩
  max a b := ⟨a.1.max b.1, isEdge_max a b⟩
  le_refl a := (le_iff_place a a).2 le_rfl
  le_trans a b c hab hbc :=
    (le_iff_place a c).2 (((le_iff_place a b).1 hab).trans ((le_iff_place b c).1 hbc))
  le_antisymm a b hab hba :=
    eq_of_place_eq a b (((le_iff_place a b).1 hab).antisymm ((le_iff_place b a).1 hba))
  le_total a b := by
    rw [le_iff_place, le_iff_place]
    exact le_total _ _
  lt_iff_le_not_ge a b := by
    rw [lt_iff_place, le_iff_place, le_iff_place]
    exact lt_iff_le_not_ge
  toDecidableLE a b := inferInstanceAs (Decidable (a.1.le b.1 = true))
  min_def a b := by
    apply Subtype.ext
    have hlt := lt_iff_place b a
    have hle := le_iff_place a b
    by_cases h : place a.1 ≤ place b.1
    · rw [if_pos (hle.2 h)]
      exact if_neg fun hba => absurd (hlt.1 hba) (not_lt.2 h)
    · rw [if_neg fun hab => h (hle.1 hab)]
      exact if_pos (hlt.2 (not_le.1 h))
  max_def a b := by
    apply Subtype.ext
    have hgt : b.1.gt a.1 = true ↔ place a.1 < place b.1 := by rw [gt_eq_lt, lt_iff_place]
    have hle := le_iff_place a b
    rcases lt_trichotomy (place a.1) (place b.1) with h | h | h
    · rw [if_pos (hle.2 h.le)]
      exact if_pos (hgt.2 h)
    · obtain rfl := eq_of_place_eq a b h
      rw [ite_self]
      exact ite_self _
    · rw [if_neg fun hab => absurd (hle.1 hab) (not_le.2 h)]
      exact if_neg fun hab => absurd (hgt.1 hab) (not_lt.2 h.le)

end Edge

/-! ### Regions -/

namespace Region

/-- A region with edges that are integers or infinite, and that is not empty: what the constructor
takes. -/
structure Proper (r : Region) : Prop where
  x : r.x.isEdge = true
  y : r.y.isEdge = true
  right : r.right.isEdge = true
  bottom : r.bottom.isEdge = true
  made : ofEdges r.x r.y r.right r.bottom = .ok r

end Region

/-- A proper region. -/
abbrev Area := { r : Region // r.Proper }

namespace Area

def x (p : Area) : Edge := ⟨p.1.x, p.2.x⟩
def y (p : Area) : Edge := ⟨p.1.y, p.2.y⟩
def right (p : Area) : Edge := ⟨p.1.right, p.2.right⟩
def bottom (p : Area) : Edge := ⟨p.1.bottom, p.2.bottom⟩

lemma ofEdges_eq_ok_iff (x y right bottom : Edge) :
    Region.ofEdges x.1 y.1 right.1 bottom.1 = .ok ⟨x.1, y.1, right.1, bottom.1⟩ ↔
      x < right ∧ y < bottom := by
  have hx : right.1.le x.1 = true ↔ ¬x < right := (not_lt (a := x)).symm
  have hy : bottom.1.le y.1 = true ↔ ¬y < bottom := (not_lt (a := y)).symm
  rw [Region.ofEdges]
  by_cases h : x < right
  · rw [if_neg (by simpa [hx] using h)]
    by_cases h' : y < bottom
    · rw [if_neg (by simpa [hy] using h')]
      exact iff_of_true rfl ⟨h, h'⟩
    · rw [if_pos (hy.2 h')]
      exact iff_of_false (by simp) fun hc => h' hc.2
  · rw [if_pos (hx.2 h)]
    exact iff_of_false (by simp) fun hc => h hc.1

lemma lt (p : Area) : p.x < p.right ∧ p.y < p.bottom :=
  (ofEdges_eq_ok_iff p.x p.y p.right p.bottom).1 p.2.made

/-- The area with the given edges. -/
def ofEdges (x y right bottom : Edge) (h : x < right ∧ y < bottom) : Area :=
  ⟨⟨x.1, y.1, right.1, bottom.1⟩, x.2, y.2, right.2, bottom.2,
    (ofEdges_eq_ok_iff x y right bottom).2 h⟩

lemma ext {p q : Area} (hx : p.x = q.x) (hy : p.y = q.y) (hr : p.right = q.right)
    (hb : p.bottom = q.bottom) : p = q := by
  obtain ⟨⟨px, py, pr, pb⟩, hp⟩ := p
  simp_all [x, y, right, bottom]

variable (p q : Area) (a b : Option Area)

lemma contains_iff :
    p.1.contains q.1 = true ↔ p.x ≤ q.x ∧ p.y ≤ q.y ∧ q.right ≤ p.right ∧ q.bottom ≤ p.bottom := by
  have hr : p.1.right.ge q.1.right = q.1.right.le p.1.right := Edge.ge_eq_le p.right q.right
  have hb : p.1.bottom.ge q.1.bottom = q.1.bottom.le p.1.bottom := Edge.ge_eq_le p.bottom q.bottom
  rw [Region.contains, hr, hb]
  simp only [Bool.and_eq_true, and_assoc]
  rfl

/-- An area lies below every area that contains it. -/
instance : PartialOrder Area where
  le p q := q.1.contains p.1 = true
  le_refl p := (contains_iff p p).2 ⟨le_rfl, le_rfl, le_rfl, le_rfl⟩
  le_trans p q r hpq hqr := by
    rw [contains_iff] at hpq hqr ⊢
    exact ⟨hqr.1.trans hpq.1, hqr.2.1.trans hpq.2.1, hpq.2.2.1.trans hqr.2.2.1,
      hpq.2.2.2.trans hqr.2.2.2⟩
  le_antisymm p q hpq hqp := by
    rw [contains_iff] at hpq hqp
    exact ext (hqp.1.antisymm hpq.1) (hqp.2.1.antisymm hpq.2.1) (hpq.2.2.1.antisymm hqp.2.2.1)
      (hpq.2.2.2.antisymm hqp.2.2.2)

def shape (a : Option Area) : Option Region := a.map Subtype.val

/-- The part common to two areas. -/
def meet : Option Area → Option Area → Option Area
  | some p, some q =>
    if h : max p.x q.x < min p.right q.right ∧ max p.y q.y < min p.bottom q.bottom then
      some (ofEdges _ _ _ _ h)
    else none
  | _, _ => none

lemma join_lt : min p.x q.x < max p.right q.right ∧ min p.y q.y < max p.bottom q.bottom :=
  ⟨(min_le_left _ _).trans_lt (p.lt.1.trans_le (le_max_left _ _)),
    (min_le_left _ _).trans_lt (p.lt.2.trans_le (le_max_left _ _))⟩

/-- The smallest area that contains two. -/
def join : Option Area → Option Area → Option Area
  | none, b => b
  | a, none => a
  | some p, some q => some (ofEdges _ _ _ _ (join_lt p q))

lemma le_iff : p ≤ q ↔ q.x ≤ p.x ∧ q.y ≤ p.y ∧ p.right ≤ q.right ∧ p.bottom ≤ q.bottom :=
  contains_iff q p

lemma le_meet_iff (a b c : Option Area) : c ≤ meet a b ↔ c ≤ a ∧ c ≤ b := by
  cases c with
  | none => simp
  | some r =>
    cases a with
    | none => simp [meet]
    | some p =>
      cases b with
      | none => simp [meet]
      | some q =>
        rw [meet, Option.some_le_some, Option.some_le_some, le_iff, le_iff]
        split
        · next h =>
          rw [Option.some_le_some, le_iff]
          change max p.x q.x ≤ r.x ∧ max p.y q.y ≤ r.y ∧ r.right ≤ min p.right q.right ∧
            r.bottom ≤ min p.bottom q.bottom ↔ _
          grind
        · next h =>
          -- An area in both would keep their edges apart.
          refine iff_of_false (by simp) fun ⟨hp, hq⟩ => h ⟨?_, ?_⟩
          · exact (max_le hp.1 hq.1).trans_lt (r.lt.1.trans_le (le_min hp.2.2.1 hq.2.2.1))
          · exact (max_le hp.2.1 hq.2.1).trans_lt (r.lt.2.trans_le (le_min hp.2.2.2 hq.2.2.2))

lemma join_le_iff (a b c : Option Area) : join a b ≤ c ↔ a ≤ c ∧ b ≤ c := by
  cases a with
  | none => simp [join]
  | some p =>
    cases b with
    | none => simp [join]
    | some q =>
      cases c with
      | none => simp [join]
      | some r =>
        rw [join, Option.some_le_some, Option.some_le_some, Option.some_le_some, le_iff, le_iff, le_iff]
        change r.x ≤ min p.x q.x ∧ r.y ≤ min p.y q.y ∧ max p.right q.right ≤ r.right ∧
          max p.bottom q.bottom ≤ r.bottom ↔ _
        grind

/-- The common part is the greatest lower bound, and the bounding box the least upper bound. -/
instance : Lattice (Option Area) where
  le a b := a ≤ b
  lt a b := a ≤ b ∧ ¬b ≤ a
  le_refl a := by cases a <;> simp
  le_trans a b c hab hbc := by
    cases a <;> cases b <;> cases c <;> simp_all
    exact hab.trans hbc
  le_antisymm a b hab hba := by
    cases a <;> cases b <;> simp_all
    exact hab.antisymm hba
  inf := meet
  sup := join
  inf_le_left a b := ((le_meet_iff a b _).1 (by cases meet a b <;> simp)).1
  inf_le_right a b := ((le_meet_iff a b _).1 (by cases meet a b <;> simp)).2
  le_inf a b c hab hac := (le_meet_iff b c a).2 ⟨hab, hac⟩
  le_sup_left a b := ((join_le_iff a b _).1 (by cases join a b <;> simp)).1
  le_sup_right a b := ((join_le_iff a b _).1 (by cases join a b <;> simp)).2
  sup_le a b c hac hbc := (join_le_iff a b c).2 ⟨hac, hbc⟩

/-! ### The laws in terms of regions -/

def whole : Area := ⟨.all, rfl, rfl, rfl, rfl, rfl⟩

end Area

namespace Region

open Area

end Region

end SetTop
