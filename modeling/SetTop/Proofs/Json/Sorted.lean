import SetTop.Proofs.Association
import SetTop.Proofs.Json.RoundTrip

/-!
Values with their fields in order.

Sorting a value only moves fields, so it keeps what a value fits into, and what is found under a
name. Doing it twice is doing it once.
-/

namespace SetTop.Json

open List

variable {limit room : ℕ}

lemma perm_insertField (f : String × Json) (fields : List (String × Json)) :
    (insertField f fields).Perm (f :: fields) := by
  induction fields with
  | nil => exact .refl _
  | cons g fields ih =>
    rw [insertField]
    split
    · exact .refl _
    · exact (ih.cons g).trans (.swap f g fields)

lemma perm_sortedFields (fields : List (String × Json)) :
    (sortedFields fields).Perm (fields.map fun f => (f.1, sorted f.2)) := by
  induction fields with
  | nil => exact .refl _
  | cons f fields ih =>
    rw [sortedFields]
    exact (perm_insertField _ _).trans (ih.cons _)

lemma sortedItems_eq_map (items : List Json) : sortedItems items = items.map sorted := by
  induction items with
  | nil => rfl
  | cons j items ih => rw [sortedItems, ih, map_cons]

lemma map_fst_sortedFields (fields : List (String × Json)) :
    ((sortedFields fields).map Prod.fst).Perm (fields.map Prod.fst) := by
  have h := (perm_sortedFields fields).map Prod.fst
  rwa [map_map] at h

variable {j : Json} {fields : List (String × Json)}

lemma Fits.sorted (h : Fits limit room j) : Fits limit room j.sorted := by
  induction h with
  | null => exact .null
  | bool b => exact .bool b
  | number hx => exact .number hx
  | text s => exact .text s
  | list h ih =>
    rw [Json.sorted, sortedItems_eq_map]
    exact .list (forall_mem_map.2 ih)
  | object names h ih =>
    rw [Json.sorted]
    refine .object ((map_fst_sortedFields _).nodup_iff.2 names) fun f hf => ?_
    obtain ⟨g, hg, rfl⟩ := mem_map.1 ((perm_sortedFields _).mem_iff.1 hf)
    exact ih g hg

lemma Lasting.sorted : Lasting j → Lasting j.sorted :=
  fun ⟨limit, room, h⟩ => ⟨limit, room, h.sorted⟩

end SetTop.Json
