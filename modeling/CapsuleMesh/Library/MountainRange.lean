import Mathlib.Algebra.Group.Nat.Defs
import Mathlib.Data.Nat.Find
import Mathlib.Order.WellFounded

/-!
# Sizes of Merkle mountain ranges

A mountain range keeps one perfect binary tree for each binary digit of the number of
leaves.  Adding a leaf merges as many trees as that number has trailing ones, and each
merge adds a node.
-/

namespace CapsuleMesh.Library.MountainRange

/-- The merges when a leaf is added to `n` leaves. -/
def merges (n : ℕ) : ℕ := Nat.findGreatest (fun k => 2 ^ k ∣ n + 1) n

/-- The number of nodes over `n` leaves. -/
def sizeOfLeaves : ℕ → ℕ
  | 0 => 0
  | n + 1 => sizeOfLeaves n + 1 + merges n

/-- The number of leaves under `size` nodes. -/
def leavesOfSize (size : ℕ) : ℕ := Nat.findGreatest (fun n => sizeOfLeaves n ≤ size) size

theorem sizeOfLeaves_strictMono : StrictMono sizeOfLeaves :=
  strictMono_nat_of_lt_succ fun n => by
    rw [sizeOfLeaves]
    omega

@[simp] theorem leavesOfSize_sizeOfLeaves (n : ℕ) : leavesOfSize (sizeOfLeaves n) = n := by
  have hle : n ≤ sizeOfLeaves n := sizeOfLeaves_strictMono.le_apply
  apply le_antisymm
  · have hspec : sizeOfLeaves (leavesOfSize (sizeOfLeaves n)) ≤ sizeOfLeaves n :=
      Nat.findGreatest_spec (P := fun m => sizeOfLeaves m ≤ sizeOfLeaves n) hle le_rfl
    exact sizeOfLeaves_strictMono.le_iff_le.mp hspec
  · exact Nat.le_findGreatest hle le_rfl

end CapsuleMesh.Library.MountainRange
