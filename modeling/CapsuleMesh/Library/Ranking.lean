import Mathlib.Data.Finset.Card
import Mathlib.Data.Finset.Dedup
import Mathlib.Data.List.Sort

/-!
# Ranking a set

A list is read as the set of its members, which are put in order and then ranked by a key.  The order
decides between members of equal keys, so the ranking depends on the set alone.
-/

namespace CapsuleMesh.Library

variable {α κ : Type*} [LinearOrder α] [LinearOrder κ]

/-- The members, in order. -/
def sortedSet (as : List α) : List α := as.dedup.insertionSort (· ≤ ·)

@[simp] theorem mem_sortedSet {as : List α} {a : α} : a ∈ sortedSet as ↔ a ∈ as := by
  rw [sortedSet, List.mem_insertionSort, List.mem_dedup]

theorem nodup_sortedSet (as : List α) : (sortedSet as).Nodup := by
  apply (List.perm_insertionSort _ _).nodup_iff.mpr
  exact List.nodup_dedup as

theorem pairwise_sortedSet (as : List α) : (sortedSet as).Pairwise (· ≤ ·) :=
  List.pairwise_insertionSort _ _

theorem sortedSet_congr {as bs : List α} (h : ∀ a, a ∈ as ↔ a ∈ bs) :
    sortedSet as = sortedSet bs := by
  have hperm : (sortedSet as).Perm (sortedSet bs) := by
    apply (List.perm_ext_iff_of_nodup (nodup_sortedSet as) (nodup_sortedSet bs)).mpr
    intro a
    rw [mem_sortedSet, mem_sortedSet, h]
  apply hperm.eq_of_pairwise _ (pairwise_sortedSet as) (pairwise_sortedSet bs)
  intro a b _ _ hab hba
  exact le_antisymm hab hba

theorem length_sortedSet (as : List α) : (sortedSet as).length = as.toFinset.card := by
  rw [sortedSet, List.length_insertionSort, List.card_toFinset]

/-- The members, the lowest key first. -/
def ranking (rank : α → κ) (as : List α) : List α :=
  (sortedSet as).insertionSort fun a b => rank a ≤ rank b

variable (rank : α → κ)

theorem ranking_congr {as bs : List α} (h : ∀ a, a ∈ as ↔ a ∈ bs) :
    ranking rank as = ranking rank bs := by
  rw [ranking, sortedSet_congr h, ranking]

theorem mem_ranking {as : List α} {a : α} : a ∈ ranking rank as ↔ a ∈ as := by
  rw [ranking, List.mem_insertionSort, mem_sortedSet]

theorem nodup_ranking (as : List α) : (ranking rank as).Nodup := by
  apply (List.perm_insertionSort _ _).nodup_iff.mpr
  exact nodup_sortedSet as

theorem length_ranking (as : List α) : (ranking rank as).length = as.toFinset.card := by
  rw [ranking, List.length_insertionSort, length_sortedSet]

end CapsuleMesh.Library
