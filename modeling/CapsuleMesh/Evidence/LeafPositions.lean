import CapsuleMesh.Evidence.ServedRecords

/-!
# The leaf of a node index

`_leaf_of_node_index` of `ask_history.py` looks for the leaf in a window of twenty-eight.  Below
`2 ^ 53` the window is wide enough, and what it does not find is the number of a join.
-/

namespace CapsuleMesh.AskHistory

open Library.MountainRange

theorem leafIndex_eq_iff {n index : ℕ} :
    (2 * n : Int) - popcount n = index ↔ leafIndex n = index := by
  have hle := popcount_le n
  rw [leafIndex]
  omega

/-- A number below `2 ^ 53` has at most fifty-three ones, so twice the leaf is at most so much
above the index. -/
theorem leaf_in_window {n index : ℕ} (hindex : leafIndex n = index) (hlt : index < 2 ^ 53) :
    index / 2 ≤ n ∧ n < index / 2 + 28 := by
  have hle := popcount_le n
  rw [leafIndex] at hindex
  have hones : popcount n ≤ 53 := by
    apply popcount_le_of_lt
    omega
  omega

theorem leafOfNodeIndex_eq_some {n index : ℕ} (hlt : index < 2 ^ 53) :
    leafOfNodeIndex index = some n ↔ leafIndex n = index := by
  have hguard : (0 : Int) ≤ index ∧ (index : Int) < 2 ^ 53 := by omega
  rw [leafOfNodeIndex, if_pos hguard, Int.toNat_natCast]
  constructor
  · intro h
    have hfound := List.find?_some h
    rw [decide_eq_true_iff, leafIndex_eq_iff] at hfound
    exact hfound
  · intro h
    obtain ⟨hfrom, hto⟩ := leaf_in_window h hlt
    cases hfind : (List.range' (index / 2) 28).find? fun n : ℕ =>
        decide ((2 * n : Int) - popcount n = index) with
    | none =>
        have hmem : n ∈ List.range' (index / 2) 28 := List.mem_range'_1.mpr ⟨hfrom, hto⟩
        have hmissed := List.find?_eq_none.mp hfind n hmem
        rw [decide_eq_true_iff, leafIndex_eq_iff] at hmissed
        exact absurd h hmissed
    | some m =>
        have hfound := List.find?_some hfind
        rw [decide_eq_true_iff, leafIndex_eq_iff] at hfound
        rw [leafIndex_strictMono.injective (hfound.trans h.symm)]

/-- The nodes of a range over so many leaves, each with its leaf where it is one. -/
def markedNodes (leaves : ℕ) : List (Option ℕ) :=
  build some (fun _ _ _ => none) (List.range leaves)

theorem stores_markedNodes (leaves : ℕ) :
    Stores some (fun _ _ _ => none) id (markedNodes leaves) leaves := by
  have hstores := stores_build (some : ℕ → Option ℕ) (fun _ _ _ => none) id leaves
  rwa [List.map_id] at hstores

theorem markedNodes_length (leaves : ℕ) : (markedNodes leaves).length = leafIndex leaves :=
  (stores_markedNodes leaves).length

/-- In a range that has the node, it is marked with the leaf that the window finds. -/
theorem getElem?_markedNodes {index leaves : ℕ} (hlt : index < 2 ^ 53)
    (hnode : index < leafIndex leaves) :
    (markedNodes leaves)[index]? = some (leafOfNodeIndex index) := by
  obtain ⟨height, a, hdvd, hindex⟩ := exists_nodeIndex index
  have hfits : a + 2 ^ height ≤ leaves := by
    by_contra hshort
    have hpos := Nat.two_pow_pos height
    have hcarry := nodeIndex_of_carry hdvd
    have hmono : leafIndex leaves ≤ leafIndex (a + 2 ^ height - 1) :=
      leafIndex_strictMono.monotone (by omega)
    omega
  have hstored := (stores_markedNodes leaves).holds height a hdvd hfits
  rw [hindex] at hstored
  rw [hstored]
  cases height with
  | zero =>
      rw [nodeIndex_leaf] at hindex
      rw [(leafOfNodeIndex_eq_some hlt).mpr hindex]
      rfl
  | succ height =>
      cases hleaf : leafOfNodeIndex index with
      | none => rfl
      | some n =>
        -- a join is above the ground, and a leaf is not
        have hground := heightAt_leafIndex n
        rw [(leafOfNodeIndex_eq_some hlt).mp hleaf, ← hindex, heightAt_nodeIndex hdvd] at hground
        omega

theorem lt_leafIndex_succ (index : ℕ) : index < leafIndex (index + 1) := by
  have hle := popcount_le (index + 1)
  rw [leafIndex]
  omega

/-- Below `2 ^ 53` the window finds the one leaf whose node index is given, and finds none
exactly where every range that has the node has a join there. -/
theorem leafOfNodeIndex_exact (index : ℕ) (hlt : index < 2 ^ 53) :
    (∀ n : ℕ, leafOfNodeIndex index = some n ↔ (2 * n : Int) - popcount n = index) ∧
    (∀ n m : ℕ, (2 * n : Int) - popcount n = index → (2 * m : Int) - popcount m = index → n = m) ∧
    (leafOfNodeIndex index = none ↔
      ∀ leaves, index < (markedNodes leaves).length → (markedNodes leaves)[index]? = some none) := by
  refine ⟨?_, ?_, ?_⟩
  · intro n
    rw [leafIndex_eq_iff]
    exact leafOfNodeIndex_eq_some hlt
  · intro n m hn hm
    rw [leafIndex_eq_iff] at hn hm
    exact leafIndex_strictMono.injective (hn.trans hm.symm)
  · constructor
    · intro hnone leaves hnode
      rw [markedNodes_length] at hnode
      rw [getElem?_markedNodes hlt hnode, hnone]
    · intro hjoins
      have hnode := lt_leafIndex_succ index
      have hjoin := hjoins (index + 1) (by rwa [markedNodes_length])
      rw [getElem?_markedNodes hlt hnode] at hjoin
      exact Option.some.inj hjoin

/-- The greatest index in the domain. -/
theorem leafOfNodeIndex_exact_last :
    (leafOfNodeIndex (2 ^ 53 - 1 : ℕ) = none ↔ ∀ leaves,
      2 ^ 53 - 1 < (markedNodes leaves).length → (markedNodes leaves)[2 ^ 53 - 1]? = some none) :=
  (leafOfNodeIndex_exact (2 ^ 53 - 1) (by norm_num)).2.2

end CapsuleMesh.AskHistory
