import Mathlib.Tactic.Lemma
import SetTop.Screen.Region

/-!
Regions whose edges are integers.

Comparing, joining and moving integer edges is integer arithmetic. Two such regions meet if each
begins before the other one ends, along both axes.
-/

namespace SetTop

open Num

namespace Num

variable (a b : Int)

@[simp] lemma int_lt_int : (int a).lt (.int b) = decide (a < b) := by
  rw [lt, compare?, Bool.eq_iff_iff, beq_iff_eq, Option.some.injEq, Int.compare_eq_lt,
    decide_eq_true_iff]

@[simp] lemma int_gt_int : (int a).gt (.int b) = decide (b < a) := by
  rw [gt, compare?, Bool.eq_iff_iff, beq_iff_eq, Option.some.injEq, Int.compare_eq_gt,
    decide_eq_true_iff]

@[simp] lemma int_le_int : (int a).le (.int b) = decide (a ≤ b) := by
  rw [le, compare?, Bool.eq_iff_iff, Bool.or_eq_true, beq_iff_eq, beq_iff_eq, Option.some.injEq,
    Option.some.injEq, Int.compare_eq_lt, Int.compare_eq_eq, decide_eq_true_iff]
  omega

@[simp] lemma int_ge_int : (int a).ge (.int b) = decide (b ≤ a) := by
  rw [ge, compare?, Bool.eq_iff_iff, Bool.or_eq_true, beq_iff_eq, beq_iff_eq, Option.some.injEq,
    Option.some.injEq, Int.compare_eq_gt, Int.compare_eq_eq, decide_eq_true_iff]
  omega

@[simp] lemma int_max_int : (int a).max (.int b) = .int (Max.max a b) := by
  rw [max, int_gt_int]
  simp only [decide_eq_true_iff]
  split
  · rw [Int.max_eq_right (by omega)]
  · rw [Int.max_eq_left (by omega)]

@[simp] lemma int_min_int : (int a).min (.int b) = .int (Min.min a b) := by
  rw [min, int_lt_int]
  simp only [decide_eq_true_iff]
  split
  · rw [Int.min_eq_right (by omega)]
  · rw [Int.min_eq_left (by omega)]

lemma le_of_int_max_eq {a c : Int} {b : Num} (h : (int a).max b = .int c) : a ≤ c := by
  rw [max] at h
  split at h
  · next hgt =>
    rw [h, int_gt_int, decide_eq_true_iff] at hgt
    omega
  · cases h
    exact Int.le_refl a

lemma le_of_int_min_eq {a c : Int} {b : Num} (h : (int a).min b = .int c) : c ≤ a := by
  rw [min] at h
  split at h
  · next hlt =>
    rw [h, int_lt_int, decide_eq_true_iff] at hlt
    omega
  · cases h
    exact Int.le_refl a

end Num

namespace Region

def ofInts (x y right bottom : Int) : Region := ⟨.int x, .int y, .int right, .int bottom⟩

lemma intersect_ofInts {x y r b x' y' r' b' : Int} (hx : x < r) (hy : y < b) (hx' : x' < r')
    (hy' : y' < b') : intersect (some (ofInts x y r b)) (some (ofInts x' y' r' b')) = none ↔
      ¬(x < r' ∧ x' < r ∧ y < b' ∧ y' < b) := by
  simp only [intersect, ofInts, int_max_int, int_min_int, int_lt_int]
  rw [ite_eq_right_iff]
  simp only [Bool.and_eq_true, decide_eq_true_iff, reduceCtorEq, imp_false]
  omega

lemma contains_ofInts (x y r b x' y' r' b' : Int) :
    (ofInts x y r b).contains (ofInts x' y' r' b') = true ↔ x ≤ x' ∧ y ≤ y' ∧ r' ≤ r ∧ b' ≤ b := by
  simp [contains, ofInts, and_assoc]

lemma extend_ofInts {x y r b dx dy dr db : Int} (hx : x + dx < r + dr) (hy : y + dy < b + db) :
    (ofInts x y r b).extend (.int dx) (.int dy) (.int dr) (.int db) =
      .ok (ofInts (x + dx) (y + dy) (r + dr) (b + db)) := by
  have hmoved (a c : Int) : moved (.int a) (.int c) = .ok (.int (a + c)) := rfl
  simp only [extend, ofInts, hmoved, bind, Except.bind, ofEdges, int_le_int]
  rw [if_neg, if_neg]
  · simp only [decide_eq_true_iff]
    omega
  · simp only [decide_eq_true_iff]
    omega

lemma translate_ofInts {x y r b : Int} (hx : x < r) (hy : y < b) (dx dy : Int) :
    (ofInts x y r b).translate (.int dx) (.int dy) =
      .ok (ofInts (x + dx) (y + dy) (r + dx) (b + dy)) :=
  extend_ofInts (by omega) (by omega)

/-! ### Replacing edges -/

/-- What is asked for along an axis: the first edge, the extent and the second edge. -/
structure Wish where
  start : Option Int
  size : Option Int
  stop : Option Int

namespace Wish

variable (w : Wish) (old : Int × Int)

/-- Too much is asked for. -/
def IsOverdone : Prop := w.start.isSome ∧ w.size.isSome ∧ w.stop.isSome

/-- The edges are what was asked for. One that nothing was said about stays, and the first one does if
only an extent was given. -/
structure Granted (new : Int × Int) : Prop where
  start : ∀ v ∈ w.start, new.1 = v
  stop : ∀ v ∈ w.stop, new.2 = v
  size : ∀ v ∈ w.size, new.2 - new.1 = v
  startStays : w.start = none → w.size = none ∨ w.stop = none → new.1 = old.1
  stopStays : w.stop = none → w.size = none → new.2 = old.2

/-- The edges that are given or follow from what is. -/
def edges : Int × Int :=
  match w with
  | ⟨start, none, stop⟩ => (start.getD old.1, stop.getD old.2)
  | ⟨none, some n, some stop⟩ => (stop - n, stop)
  | ⟨start, some n, _⟩ => (start.getD old.1, start.getD old.1 + n)

variable {w}

lemma granted_iff (hw : ¬w.IsOverdone) {new : Int × Int} : w.Granted old new ↔ new = w.edges old := by
  obtain ⟨_ | start, _ | size, _ | stop⟩ := w
  case some.some.some => exact absurd ⟨rfl, rfl, rfl⟩ hw
  all_goals
    constructor
    · rintro ⟨hstart, hstop, hsize, hstays, hstays'⟩
      refine Prod.ext ?_ ?_ <;> simp_all [edges] <;> omega
    · rintro rfl
      constructor <;> simp [edges] <;> omega

lemma replaceAxis_of_overdone (hw : w.IsOverdone) (conflict : Num → Num → Num → Error) :
    ∃ a b c, replaceAxis conflict (w.start.map .int) (w.size.map .int) (w.stop.map .int)
      (.int old.1) (.int old.2) = .error (conflict a b c) := by
  obtain ⟨_ | start, _ | size, _ | stop⟩ := w
  case some.some.some => exact ⟨_, _, _, rfl⟩
  all_goals simp [IsOverdone] at hw

lemma replaceAxis_eq (hw : ¬w.IsOverdone) (conflict : Num → Num → Num → Error) :
    replaceAxis conflict (w.start.map .int) (w.size.map .int) (w.stop.map .int)
      (.int old.1) (.int old.2) = .ok (.int (w.edges old).1, .int (w.edges old).2) := by
  obtain ⟨_ | start, _ | size, _ | stop⟩ := w
  case some.some.some => exact absurd ⟨rfl, rfl, rfl⟩ hw
  all_goals rfl

end Wish

def Replacement.ofWishes (h v : Wish) : Replacement :=
  ⟨h.start.map .int, v.start.map .int, h.size.map .int, v.size.map .int, h.stop.map .int,
    v.stop.map .int⟩

/-- Replacing the edges of a region gives all that was asked for and changes nothing else. It fails if
too much is asked for along an axis, or if what is asked for leaves nothing of the region. -/
theorem replace_grants (x y right bottom : Int) (h v : Wish) :
    ((∃ e, (ofInts x y right bottom).replace (.ofWishes h v) = .error e) ↔
      h.IsOverdone ∨ v.IsOverdone ∨ ∃ across down, h.Granted (x, right) across ∧
        v.Granted (y, bottom) down ∧ (across.2 ≤ across.1 ∨ down.2 ≤ down.1)) ∧
    (∀ e, (ofInts x y right bottom).replace (.ofWishes h v) = .error e → e ≠ .tooLarge) ∧
    ∀ r, (ofInts x y right bottom).replace (.ofWishes h v) = .ok r →
      ∃ across down, h.Granted (x, right) across ∧ v.Granted (y, bottom) down ∧
        r = ofInts across.1 down.1 across.2 down.2 := by
  by_cases hh : h.IsOverdone
  · obtain ⟨a, b, c, hacross⟩ := Wish.replaceAxis_of_overdone (x, right) hh .conflictX
    have hrun : (ofInts x y right bottom).replace (.ofWishes h v) = .error (.conflictX a b c) := by
      rw [replace, Replacement.ofWishes, ofInts, hacross]
      rfl
    simp [hrun, hh]
  have hacross := Wish.replaceAxis_eq (x, right) hh .conflictX
  by_cases hv : v.IsOverdone
  · obtain ⟨a, b, c, hdown⟩ := Wish.replaceAxis_of_overdone (y, bottom) hv .conflictY
    have hrun : (ofInts x y right bottom).replace (.ofWishes h v) = .error (.conflictY a b c) := by
      simp only [replace, Replacement.ofWishes, ofInts, hacross, hdown]
      rfl
    simp [hrun, hv]
  have hrun : (ofInts x y right bottom).replace (.ofWishes h v) =
      ofEdges (.int (h.edges (x, right)).1) (.int (v.edges (y, bottom)).1)
        (.int (h.edges (x, right)).2) (.int (v.edges (y, bottom)).2) := by
    simp only [replace, Replacement.ofWishes, ofInts, hacross, Wish.replaceAxis_eq (y, bottom) hv]
    rfl
  simp only [hrun, Wish.granted_iff _ hh, Wish.granted_iff _ hv, hh, hv, false_or, ofEdges,
    int_le_int, decide_eq_true_iff]
  split
  · next hempty => simp [hempty]
  · split
    · next hempty => simp [hempty]
    · next hwidth hheight => simp [hwidth, hheight, ofInts]

end Region

end SetTop
