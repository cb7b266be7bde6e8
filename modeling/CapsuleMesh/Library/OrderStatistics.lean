import Mathlib.Data.List.Sort
import Mathlib.Data.List.Forall2
import Mathlib.Order.Lattice

/-!
# Order statistics

Sorting is monotone from place to place, does not depend on the order of what is sorted, and
keeps each place among the values.
-/

namespace CapsuleMesh.Library.OrderStatistics

variable {α : Type*} [LinearOrder α]

def sorted (values : List α) : List α := values.insertionSort (· ≤ ·)

theorem sorted_pairwise (values : List α) : (sorted values).Pairwise (· ≤ ·) :=
  List.pairwise_insertionSort _ values

theorem sorted_perm (values : List α) : (sorted values).Perm values :=
  List.perm_insertionSort _ values

@[simp] theorem length_sorted (values : List α) : (sorted values).length = values.length :=
  (sorted_perm values).length_eq

@[simp] theorem mem_sorted {a : α} {values : List α} : a ∈ sorted values ↔ a ∈ values :=
  (sorted_perm values).mem_iff

theorem sorted_congr {these those : List α} (h : these.Perm those) : sorted these = sorted those :=
  ((sorted_perm these).trans (h.trans (sorted_perm those).symm)).eq_of_pairwise
    (fun _ _ _ _ => le_antisymm) (sorted_pairwise these) (sorted_pairwise those)

theorem orderedInsert_of_pairwise {a : α} {as : List α} (h : (a :: as).Pairwise (· ≤ ·)) :
    as.orderedInsert (· ≤ ·) a = a :: as := by
  cases as with
  | nil => rfl
  | cons b bs =>
      apply List.orderedInsert_cons_of_le
      exact List.rel_of_pairwise_cons h List.mem_cons_self

/-- A greater value inserted among greater ones is at no place below. -/
theorem forall₂_orderedInsert {a b : α} {as bs : List α} (hab : a ≤ b)
    (h : List.Forall₂ (· ≤ ·) as bs) (has : as.Pairwise (· ≤ ·)) (hbs : bs.Pairwise (· ≤ ·)) :
    List.Forall₂ (· ≤ ·) (as.orderedInsert (· ≤ ·) a) (bs.orderedInsert (· ≤ ·) b) := by
  induction h generalizing a b with
  | nil => exact .cons hab .nil
  | @cons a' b' as bs hab' h ih =>
      by_cases ha : a ≤ a'
      · by_cases hb : b ≤ b'
        · rw [List.orderedInsert_cons_of_le _ as ha, List.orderedInsert_cons_of_le _ bs hb]
          exact .cons hab (.cons hab' h)
        · rw [List.orderedInsert_cons_of_le _ as ha, List.orderedInsert_of_not_le _ bs hb]
          refine .cons (ha.trans hab') ?_
          rw [← orderedInsert_of_pairwise has]
          exact ih (hab'.trans (le_of_not_ge hb)) has.of_cons hbs.of_cons
      · by_cases hb : b ≤ b'
        · rw [List.orderedInsert_of_not_le _ as ha, List.orderedInsert_cons_of_le _ bs hb]
          refine .cons ((le_of_not_ge ha).trans hab) ?_
          rw [← orderedInsert_of_pairwise hbs]
          exact ih (hab.trans hb) has.of_cons hbs.of_cons
        · rw [List.orderedInsert_of_not_le _ as ha, List.orderedInsert_of_not_le _ bs hb]
          exact .cons hab' (ih hab has.of_cons hbs.of_cons)

theorem forall₂_sorted {these those : List α} (h : List.Forall₂ (· ≤ ·) these those) :
    List.Forall₂ (· ≤ ·) (sorted these) (sorted those) := by
  induction h with
  | nil => exact .nil
  | cons hab _ ih => exact forall₂_orderedInsert hab ih (sorted_pairwise _) (sorted_pairwise _)

theorem sorted_getElem_le {these those : List α} (h : List.Forall₂ (· ≤ ·) these those) {i : ℕ}
    {a b : α} (ha : (sorted these)[i]? = some a) (hb : (sorted those)[i]? = some b) : a ≤ b := by
  obtain ⟨hi, rfl⟩ := List.getElem?_eq_some_iff.mp ha
  obtain ⟨hj, rfl⟩ := List.getElem?_eq_some_iff.mp hb
  exact (List.forall₂_iff_get.mp (forall₂_sorted h)).2 i hi hj

end CapsuleMesh.Library.OrderStatistics
