import Mathlib.Algebra.BigOperators.Group.List.Basic
import Mathlib.Data.Int.Notation
import Mathlib.Tactic.Ring

/-!
# Eviction under a budget

Elements are dropped from the front of a list for as long as what is left is over a budget.
-/

namespace CapsuleMesh.Library

variable {α : Type*} (size : α → ℕ) (budget : Int)

def totalSize (l : List α) : ℕ := (l.map size).sum

@[simp] theorem totalSize_nil : totalSize size [] = 0 := rfl

@[simp] theorem totalSize_cons (a : α) (l : List α) :
    totalSize size (a :: l) = size a + totalSize size l := rfl

theorem totalSize_append (l r : List α) :
    totalSize size (l ++ r) = totalSize size l + totalSize size r := by
  rw [totalSize, List.map_append, List.sum_append]
  rfl

theorem totalSize_perm {l r : List α} (h : l.Perm r) : totalSize size l = totalSize size r :=
  (h.map size).sum_eq

/-- The elements that go, while `total` is over the budget. -/
def evicted : (total : Int) → List α → List α
  | _, [] => []
  | total, a :: l => if total > budget then a :: evicted (total - size a) l else []

theorem evicted_prefix (total : Int) (l : List α) : evicted size budget total l <+: l := by
  induction l generalizing total with
  | nil => exact List.nil_prefix
  | cons a l ih =>
      rw [evicted]
      split_ifs with hover
      · exact List.prefix_cons_inj a |>.mpr (ih _)
      · exact List.nil_prefix

/-- What is left is within the budget. -/
theorem totalSize_le_budget {total : Int} {l rest : List α} (hbudget : 0 ≤ budget)
    (htotal : total = totalSize size l) (h : l = evicted size budget total l ++ rest) :
    totalSize size rest ≤ budget := by
  induction l generalizing total with
  | nil =>
      obtain ⟨-, rfl⟩ := List.append_eq_nil_iff.mp h.symm
      exact hbudget
  | cons a l ih =>
      rw [evicted] at h
      split_ifs at h with hover
      · have hrest : total - size a = totalSize size l := by
          rw [htotal, totalSize_cons]
          push_cast
          ring
        exact ih hrest (List.cons.inj h).2
      · rw [List.nil_append] at h
        rw [← h, ← htotal]
        exact not_lt.mp hover

/-- Each element that goes was over the budget with all that was still there. -/
theorem budget_lt_of_evicted {total : Int} {l p q : List α}
    (h : evicted size budget total l = p ++ q) (hq : q ≠ []) :
    budget < total - totalSize size p := by
  induction p generalizing total l with
  | nil =>
      cases l with
      | nil => exact absurd h.symm hq
      | cons a l =>
        rw [evicted] at h
        split_ifs at h with hover
        · rw [totalSize_nil]
          simpa using hover
        · exact absurd h.symm hq
  | cons b p ih =>
      cases l with
      | nil => cases h
      | cons a l =>
        rw [evicted] at h
        split_ifs at h with hover
        · obtain ⟨rfl, htail⟩ := List.cons.inj h
          have hlt := ih htail
          rw [totalSize_cons]
          push_cast
          omega
        · cases h

end CapsuleMesh.Library
