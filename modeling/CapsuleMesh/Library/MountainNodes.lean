import CapsuleMesh.Library.MountainHeights
import Mathlib.Data.List.Basic

/-!
# Merkle mountain ranges

The nodes of a range as the appends leave them, its peaks, and the path from a leaf to the peak
above it.  A path that climbs to the right hash is the path of that leaf, where the hashes of
the range bind what they are made of.
-/

namespace CapsuleMesh.Library.MountainRange

variable {E D : Type*}

/-! ## Building -/

section Build

variable [Inhabited D] (leaf : E → D) (node : ℕ → D → D → D)

/-- Two trees of one height at the end are joined, under the one-based position of the new node. -/
def mergeFrom : ℕ → ℕ → List D → List D
  | 0, _, nodes => nodes
  | fuel + 1, g, nodes =>
      if g < heightAt nodes.length then
        mergeFrom fuel (g + 1) (nodes ++
          [node (nodes.length + 1) (nodes.getD (nodes.length - 2 ^ (g + 1)) default)
            (nodes.getD (nodes.length - 1) default)])
      else nodes

def addLeaf (nodes : List D) (entry : E) : List D :=
  mergeFrom node (nodes.length + 1) 0 (nodes ++ [leaf entry])

def build (entries : List E) : List D := entries.foldl (addLeaf leaf node) []

end Build

/-- The hash over the `2 ^ h` entries from `a` on. -/
def subtree (leaf : E → D) (node : ℕ → D → D → D) (entry : ℕ → E) : ℕ → ℕ → D
  | 0, a => leaf (entry a)
  | h + 1, a => node (nodeIndex (h + 1) a + 1) (subtree leaf node entry h a)
      (subtree leaf node entry h (a + 2 ^ h))

theorem subtree_succ (leaf : E → D) (node : ℕ → D → D → D) (entry : ℕ → E) (h a : ℕ) :
    subtree leaf node entry (h + 1) a =
      node (nodeIndex (h + 1) a + 1) (subtree leaf node entry h a)
        (subtree leaf node entry h (a + 2 ^ h)) := rfl

/-- The nodes hold the tree over every aligned block of the first `n` entries. -/
structure Stores (leaf : E → D) (node : ℕ → D → D → D) (entry : ℕ → E) (nodes : List D) (n : ℕ) :
    Prop where
  length : nodes.length = leafIndex n
  holds : ∀ h a, 2 ^ h ∣ a → a + 2 ^ h ≤ n →
    nodes[nodeIndex h a]? = some (subtree leaf node entry h a)

/-- The tree of height `g` that ends with the leaf `n` is the last one that was joined. -/
structure Merging (leaf : E → D) (node : ℕ → D → D → D) (entry : ℕ → E) (nodes : List D)
    (n g : ℕ) : Prop where
  dvd : 2 ^ g ∣ n + 1
  length : nodes.length = leafIndex n + 1 + g
  holds : ∀ h a, 2 ^ h ∣ a → a + 2 ^ h ≤ n →
    nodes[nodeIndex h a]? = some (subtree leaf node entry h a)
  joined : ∀ h a, 2 ^ h ∣ a → a + 2 ^ h = n + 1 → h ≤ g →
    nodes[nodeIndex h a]? = some (subtree leaf node entry h a)

section Store

variable {leaf : E → D} {node : ℕ → D → D → D} {entry : ℕ → E} {nodes : List D} {n g : ℕ}

theorem getElem?_concat {d : D} {i : ℕ} {v : D} (h : nodes[i]? = some v) :
    (nodes ++ [d])[i]? = some v := by
  rw [List.getElem?_append_left (List.getElem?_eq_some_iff.mp h).1]
  exact h

theorem Merging.start (h : Stores leaf node entry nodes n) :
    Merging leaf node entry (nodes ++ [leaf (entry n)]) n 0 where
  dvd := one_dvd _
  length := by rw [List.length_append, h.length, List.length_singleton, Nat.add_zero]
  holds height a hdvd hle := getElem?_concat (h.holds height a hdvd hle)
  joined height a _ hend hzero := by
    obtain rfl := Nat.le_zero.mp hzero
    obtain rfl : a = n := by simpa using hend
    rw [nodeIndex_leaf, ← h.length, List.getElem?_concat_length]
    rfl

/-- The last tree and the one before it have the same height: a node is added over them. -/
theorem Merging.join [Inhabited D] (h : Merging leaf node entry nodes n g)
    (hdvd : 2 ^ (g + 1) ∣ n + 1) :
    g < heightAt nodes.length ∧
      Merging leaf node entry (nodes ++
        [node (nodes.length + 1) (nodes.getD (nodes.length - 2 ^ (g + 1)) default)
          (nodes.getD (nodes.length - 1) default)]) n (g + 1) := by
  have hpos := Nat.two_pow_pos g
  have hle : 2 ^ (g + 1) ≤ n + 1 := Nat.le_of_dvd (by omega) hdvd
  obtain ⟨a, ha⟩ : ∃ a, a + 2 ^ (g + 1) = n + 1 := ⟨n + 1 - 2 ^ (g + 1), by omega⟩
  have hadvd : 2 ^ (g + 1) ∣ a := (Nat.dvd_add_left (dvd_refl _)).mp (ha ▸ hdvd)
  have hhalf : 2 ^ g ∣ a := (Nat.pow_dvd_pow 2 (by omega)).trans hadvd
  have hlength : nodes.length = nodeIndex (g + 1) a := by
    have hcarry := nodeIndex_of_carry hadvd
    have hn : a + 2 ^ (g + 1) - 1 = n := by omega
    rw [hn] at hcarry
    rw [h.length, ← hcarry]
    omega
  have hleft : nodes[nodes.length - 2 ^ (g + 1)]? = some (subtree leaf node entry g a) := by
    have hindex := nodeIndex_left g a
    have hsub : nodes.length - 2 ^ (g + 1) = nodeIndex g a := by omega
    rw [hsub]
    exact h.holds g a hhalf (by omega)
  have hright : nodes[nodes.length - 1]? = some (subtree leaf node entry g (a + 2 ^ g)) := by
    have hindex := nodeIndex_right hadvd
    have hsub : nodes.length - 1 = nodeIndex g (a + 2 ^ g) := by omega
    rw [hsub]
    exact h.joined g _ (Nat.dvd_add hhalf (dvd_refl _)) (by omega) le_rfl
  have hnew : node (nodes.length + 1) (nodes.getD (nodes.length - 2 ^ (g + 1)) default)
      (nodes.getD (nodes.length - 1) default) = subtree leaf node entry (g + 1) a := by
    rw [List.getD_eq_getElem?_getD, List.getD_eq_getElem?_getD, hleft, hright, hlength]
    rfl
  refine ⟨?_, hdvd, ?_, ?_, ?_⟩
  · rw [hlength, heightAt_nodeIndex hadvd]
    omega
  · rw [List.length_append, h.length, List.length_singleton]
    omega
  · exact fun height b hb hend => getElem?_concat (h.holds height b hb hend)
  · intro height b hb hend hheight
    rcases Nat.lt_or_ge g height with hlt | hge
    · obtain rfl : height = g + 1 := by omega
      obtain rfl : b = a := by omega
      rw [hnew, ← hlength, List.getElem?_concat_length]
    · exact getElem?_concat (h.joined height b hb hend hge)

/-- No tree of the height of the last one is left: the next number is a leaf's. -/
theorem Merging.done (h : Merging leaf node entry nodes n g) (hdvd : ¬2 ^ (g + 1) ∣ n + 1) :
    heightAt nodes.length = 0 ∧ Stores leaf node entry nodes (n + 1) := by
  have hlength : nodes.length = leafIndex (n + 1) := by
    rw [h.length, leafIndex_succ h.dvd hdvd]
  refine ⟨by rw [hlength, heightAt_leafIndex], hlength, ?_⟩
  intro height b hb hend
  rcases Nat.lt_or_ge n (b + 2 ^ height) with hlast | hbefore
  · have hblock : b + 2 ^ height = n + 1 := by omega
    apply h.joined height b hb hblock
    by_contra hlt
    have hheight : 2 ^ (g + 1) ∣ 2 ^ height := Nat.pow_dvd_pow 2 (by omega)
    exact hdvd (hheight.trans (hblock ▸ Nat.dvd_add hb (dvd_refl _)))
  · exact h.holds height b hb hbefore

theorem Merging.mergeFrom [Inhabited D] {fuel : ℕ} (h : Merging leaf node entry nodes n g)
    (hfuel : n + 1 < 2 ^ (g + fuel)) :
    Stores leaf node entry (mergeFrom node fuel g nodes) (n + 1) := by
  induction fuel generalizing g nodes with
  | zero =>
      have hle := Nat.le_of_dvd (by omega) h.dvd
      change n + 1 < 2 ^ g at hfuel
      omega
  | succ fuel ih =>
      rw [MountainRange.mergeFrom]
      by_cases hdvd : 2 ^ (g + 1) ∣ n + 1
      · obtain ⟨hheight, hjoin⟩ := h.join hdvd
        rw [if_pos hheight]
        apply ih hjoin
        rw [Nat.add_right_comm]
        exact hfuel
      · obtain ⟨hheight, hstores⟩ := h.done hdvd
        rw [if_neg (by omega)]
        exact hstores

theorem Stores.addLeaf [Inhabited D] (h : Stores leaf node entry nodes n) :
    Stores leaf node entry (addLeaf leaf node nodes (entry n)) (n + 1) := by
  apply (Merging.start h).mergeFrom
  have hle : n ≤ leafIndex n := by
    have hpop := popcount_le n
    rw [leafIndex]
    omega
  rw [h.length, Nat.zero_add]
  exact (Nat.lt_two_pow_self (n := n + 1)).trans_le (Nat.pow_le_pow_right (by omega) (by omega))

theorem stores_build [Inhabited D] (leaf : E → D) (node : ℕ → D → D → D) (entry : ℕ → E) (n : ℕ) :
    Stores leaf node entry (build leaf node ((List.range n).map entry)) n := by
  induction n with
  | zero => exact ⟨rfl, fun h a _ hle => absurd hle (by have := Nat.two_pow_pos h; omega)⟩
  | succ n ih =>
      rw [List.range_succ, List.map_append, build, List.foldl_append]
      exact ih.addLeaf

end Store

/-! ## Peaks -/

def peaksFrom : ℕ → ℕ → ℕ → List ℕ
  | 0, _, _ => []
  | fuel + 1, offset, size =>
      if size = 0 then []
      else
        let tree := 2 ^ Nat.log2 (size + 1) - 1
        (offset + tree - 1) :: peaksFrom fuel (offset + tree) (size - tree)

/-- `peaks`: the numbers of the roots of a range with so many nodes, the highest first. -/
def peaks (size : ℕ) : List ℕ := peaksFrom size 0 size

theorem popcount_succ_le (n : ℕ) : popcount (n + 1) ≤ popcount n + 1 := by
  induction n using Nat.strong_induction_on with
  | _ n ih =>
      rw [popcount_eq (n + 1), popcount_eq n]
      rcases Nat.mod_two_eq_zero_or_one n with heven | hodd
      · have hdiv : (n + 1) / 2 = n / 2 := by omega
        rw [hdiv]
        omega
      · have hdiv : (n + 1) / 2 = n / 2 + 1 := by omega
        have hhalf := ih (n / 2) (by omega)
        rw [hdiv]
        omega

theorem leafIndex_strictMono : StrictMono leafIndex :=
  strictMono_nat_of_lt_succ fun n => by
    have hstep := popcount_succ_le n
    have hle := popcount_le (n + 1)
    rw [leafIndex, leafIndex]
    omega

theorem exists_leafIndex_le (i : ℕ) : ∃ n, leafIndex n ≤ i ∧ i < leafIndex (n + 1) := by
  induction i with
  | zero => exact ⟨0, le_rfl, leafIndex_strictMono Nat.zero_lt_one⟩
  | succ i ih =>
      obtain ⟨n, hle, hlt⟩ := ih
      rcases Nat.lt_or_ge (i + 1) (leafIndex (n + 1)) with hsame | hnext
      · exact ⟨n, by omega, hsame⟩
      · exact ⟨n + 1, hnext, lt_of_le_of_lt hlt (leafIndex_strictMono (by omega))⟩

/-- Every number is that of a node: of the trees that end with one leaf they are in order of
height. -/
theorem exists_nodeIndex (i : ℕ) : ∃ h a, 2 ^ h ∣ a ∧ nodeIndex h a = i := by
  obtain ⟨n, hle, hlt⟩ := exists_leafIndex_le i
  obtain ⟨g, hdvd, hnot⟩ : ∃ g, 2 ^ g ∣ n + 1 ∧ ¬2 ^ (g + 1) ∣ n + 1 := by
    have hstop : ∃ g, ¬2 ^ (g + 1) ∣ n + 1 := by
      refine ⟨n + 1, ?_⟩
      intro h
      have hle := Nat.le_of_dvd (Nat.succ_pos n) h
      have hlt := Nat.lt_two_pow_self (n := n + 1 + 1)
      omega
    refine ⟨Nat.find hstop, ?_, Nat.find_spec hstop⟩
    rcases Nat.eq_zero_or_pos (Nat.find hstop) with hzero | hpos
    · rw [hzero]
      exact one_dvd _
    · have hbefore := Nat.find_min hstop (Nat.sub_lt hpos Nat.one_pos)
      rw [not_not, Nat.sub_add_cancel hpos] at hbefore
      exact hbefore
  have hcount := leafIndex_succ hdvd hnot
  obtain ⟨height, hi⟩ : ∃ height, i = leafIndex n + height := ⟨i - leafIndex n, by omega⟩
  have haligned : 2 ^ height ∣ n + 1 := (Nat.pow_dvd_pow 2 (by omega)).trans hdvd
  have hfits := Nat.le_of_dvd (Nat.succ_pos n) haligned
  have hblock : 2 ^ height ∣ n + 1 - 2 ^ height := Nat.dvd_sub haligned (dvd_refl _)
  have hcarry := nodeIndex_of_carry hblock
  have hlast : n + 1 - 2 ^ height + 2 ^ height - 1 = n := by omega
  rw [hlast] at hcarry
  exact ⟨height, n + 1 - 2 ^ height, hblock, by omega⟩

/-- The `k`-th peak over `n` leaves is the root of the tree from `a` on that has the leaf `m`. -/
structure PeakOver (positions : List ℕ) (n m k h a : ℕ) : Prop where
  dvd : 2 ^ (h + 1) ∣ a
  le_leaf : a ≤ m
  leaf_lt : m < a + 2 ^ h
  le : a + 2 ^ h ≤ n
  lt : n < a + 2 ^ (h + 1)
  position : positions[k]? = some (nodeIndex h a)
  before : ∀ j < k, ∀ p, positions[j]? = some p → p < leafIndex m

theorem exists_peakOver_from {H b r m fuel : ℕ} (hb : 2 ^ H ∣ b) (hr : r < 2 ^ H)
    (hfuel : leafIndex r ≤ fuel) (hbm : b ≤ m) (hm : m < b + r) :
    ∃ k h a, PeakOver (peaksFrom fuel (leafIndex b) (leafIndex r)) (b + r) m k h a := by
  induction r using Nat.strong_induction_on generalizing H b fuel with
  | _ r ih =>
      have hrpos : 0 < r := by omega
      obtain ⟨K, rest, hrest, rfl⟩ : ∃ K rest, rest < 2 ^ K ∧ r = 2 ^ K + rest := by
        have hle := two_pow_log2_le hrpos
        have hlt : r < 2 ^ (Nat.log2 r + 1) := Nat.lt_log2_self
        exact ⟨Nat.log2 r, r - 2 ^ Nat.log2 r, by omega, by omega⟩
      have hK := Nat.two_pow_pos K
      have hKH : K + 1 ≤ H := by
        have hlt : 2 ^ K < 2 ^ H := by omega
        exact (Nat.pow_lt_pow_iff_right (by omega)).mp hlt
      have hbK : 2 ^ (K + 1) ∣ b := (Nat.pow_dvd_pow 2 hKH).trans hb
      have hsize : leafIndex (2 ^ K + rest) = 2 ^ (K + 1) - 1 + leafIndex rest := by
        have hroot := leafIndex_add_two_pow (dvd_zero (2 ^ (K + 1)))
        rw [Nat.zero_add, leafIndex_zero, Nat.zero_add] at hroot
        rw [leafIndex_add (dvd_refl _) hrest, hroot]
      have hrestle := leafIndex_le hrest
      have hlog : Nat.log2 (leafIndex (2 ^ K + rest) + 1) = K + 1 :=
        log2_of_bounds (by omega) (by omega)
      obtain ⟨fuel, rfl⟩ : ∃ f, fuel = f + 1 := ⟨fuel - 1, by omega⟩
      have hpeaks : peaksFrom (fuel + 1) (leafIndex b) (leafIndex (2 ^ K + rest)) =
          nodeIndex K b :: peaksFrom fuel (leafIndex (b + 2 ^ K)) (leafIndex rest) := by
        have hne : leafIndex (2 ^ K + rest) ≠ 0 := by omega
        have hdrop : leafIndex (2 ^ K + rest) - (2 ^ (K + 1) - 1) = leafIndex rest := by omega
        rw [peaksFrom, if_neg hne]
        simp only [hlog]
        rw [hdrop, leafIndex_add_two_pow hbK, nodeIndex]
        congr 1
        omega
      rw [hpeaks]
      rcases Nat.lt_or_ge m (b + 2 ^ K) with hfirst | hlater
      · exact ⟨0, K, b, hbK, hbm, hfirst, by omega, by omega, rfl, by omega⟩
      · have hbK' : 2 ^ K ∣ b + 2 ^ K :=
          Nat.dvd_add ((Nat.pow_dvd_pow 2 (by omega)).trans hbK) (dvd_refl _)
        have hfuel' : leafIndex rest ≤ fuel := by omega
        obtain ⟨k, h, a, hpeak⟩ := ih rest (by omega) hbK' hrest hfuel' hlater (by omega)
        rw [Nat.add_assoc] at hpeak
        refine ⟨k + 1, h, a, hpeak.dvd, hpeak.le_leaf, hpeak.leaf_lt, hpeak.le, hpeak.lt,
          hpeak.position, ?_⟩
        intro j hj p hp
        cases j with
        | zero =>
          obtain rfl : nodeIndex K b = p := Option.some.inj hp
          have hsucc := nodeIndex_succ hbK
          have hmono := leafIndex_strictMono.monotone hlater
          omega
        | succ j => exact hpeak.before j (by omega) p hp

theorem exists_peakOver {n m : ℕ} (hm : m < n) :
    ∃ k h a, PeakOver (peaks (leafIndex n)) n m k h a := by
  have hm' : m < 0 + n := by omega
  have hpeak := exists_peakOver_from (dvd_zero (2 ^ n)) Nat.lt_two_pow_self
    (le_refl (leafIndex n)) (Nat.zero_le m) hm'
  rwa [Nat.zero_add, leafIndex_zero] at hpeak

end CapsuleMesh.Library.MountainRange
