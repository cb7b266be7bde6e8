import Mathlib.Data.Nat.Digits.Defs
import Mathlib.Algebra.Group.Nat.Defs
import Mathlib.Tactic.Ring

/-!
# Positions in a Merkle mountain range

The nodes of a range are numbered from zero in the order in which they are added: each tree
after its two halves.  A tree of height `h` over the leaves from `a` on has its root at
`nodeIndex h a`, and `heightAt` reads the height off the number alone.
-/

namespace CapsuleMesh.Library.MountainRange

/-! ## Ones of a number -/

def popcount (n : ℕ) : ℕ := (Nat.digits 2 n).sum

theorem popcount_eq (n : ℕ) : popcount n = n % 2 + popcount (n / 2) := by
  rcases Nat.eq_zero_or_pos n with rfl | hn
  · rfl
  · rw [popcount, Nat.digits_def' (by omega) hn, List.sum_cons, popcount]

@[simp] theorem popcount_zero : popcount 0 = 0 := rfl

theorem popcount_le (n : ℕ) : popcount n ≤ n := by
  induction n using Nat.strong_induction_on with
  | _ n ih =>
      rcases Nat.eq_zero_or_pos n with rfl | hn
      · exact le_rfl
      · rw [popcount_eq]
        have hhalf := ih (n / 2) (by omega)
        omega

/-- Ones above and below a power of two are counted apart. -/
theorem popcount_add {h a m : ℕ} (ha : 2 ^ h ∣ a) (hm : m < 2 ^ h) :
    popcount (a + m) = popcount a + popcount m := by
  induction h generalizing a m with
  | zero =>
      obtain rfl : m = 0 := by simpa using hm
      rfl
  | succ h ih =>
      obtain ⟨c, rfl⟩ := ha
      rw [pow_succ] at hm
      have hhalf : 2 ^ (h + 1) * c = 2 * (2 ^ h * c) := by ring
      have hsum : (2 ^ (h + 1) * c + m) / 2 = 2 ^ h * c + m / 2 := by omega
      have hdiv : 2 ^ (h + 1) * c / 2 = 2 ^ h * c := by omega
      rw [popcount_eq (_ + m), popcount_eq (2 ^ (h + 1) * c), popcount_eq m, hsum, hdiv,
        ih (dvd_mul_right _ _) (by omega)]
      omega

@[simp] theorem popcount_two_pow (h : ℕ) : popcount (2 ^ h) = 1 := by
  induction h with
  | zero => rfl
  | succ h ih =>
      have hdiv : 2 ^ (h + 1) / 2 = 2 ^ h := by omega
      rw [popcount_eq, hdiv, ih]
      omega

theorem popcount_add_two_pow {h a : ℕ} (ha : 2 ^ (h + 1) ∣ a) :
    popcount (a + 2 ^ h) = popcount a + 1 := by
  have hlt : 2 ^ h < 2 ^ (h + 1) := Nat.pow_lt_pow_right (by omega) (by omega)
  rw [popcount_add ha hlt, popcount_two_pow]

theorem popcount_two_pow_sub_one (h : ℕ) : popcount (2 ^ h - 1) = h := by
  induction h with
  | zero => rfl
  | succ h ih =>
      have hpos := Nat.two_pow_pos h
      have hdiv : (2 ^ (h + 1) - 1) / 2 = 2 ^ h - 1 := by omega
      rw [popcount_eq, hdiv, ih]
      omega

theorem popcount_le_of_lt {n k : ℕ} (h : n < 2 ^ k) : popcount n ≤ k := by
  induction k generalizing n with
  | zero =>
      obtain rfl : n = 0 := by simpa using h
      rfl
  | succ k ih =>
      rw [pow_succ] at h
      have hhalf := ih (n := n / 2) (by omega)
      rw [popcount_eq]
      omega

/-! ## Where leaves and nodes are -/

/-- The number of the leaf `n`, and of the nodes over `n` leaves. -/
def leafIndex (n : ℕ) : ℕ := 2 * n - popcount n

/-- The number of the root over the `2 ^ h` leaves from `a` on. -/
def nodeIndex (h a : ℕ) : ℕ := leafIndex a + (2 ^ (h + 1) - 2)

@[simp] theorem leafIndex_zero : leafIndex 0 = 0 := rfl

@[simp] theorem nodeIndex_leaf (a : ℕ) : nodeIndex 0 a = leafIndex a := rfl

theorem leafIndex_add {h a m : ℕ} (ha : 2 ^ h ∣ a) (hm : m < 2 ^ h) :
    leafIndex (a + m) = leafIndex a + leafIndex m := by
  have hpa := popcount_le a
  have hpm := popcount_le m
  rw [leafIndex, leafIndex, leafIndex, popcount_add ha hm]
  omega

theorem leafIndex_add_two_pow {h a : ℕ} (ha : 2 ^ (h + 1) ∣ a) :
    leafIndex (a + 2 ^ h) = leafIndex a + (2 ^ (h + 1) - 1) := by
  have hpa := popcount_le a
  have hpos := Nat.two_pow_pos h
  rw [leafIndex, leafIndex, popcount_add_two_pow ha]
  omega

theorem leafIndex_le {h m : ℕ} (hm : m < 2 ^ h) : leafIndex m ≤ 2 ^ (h + 1) - 2 := by
  rw [leafIndex]
  omega

/-- The node over two trees is numbered after the right one. -/
theorem nodeIndex_right {h a : ℕ} (ha : 2 ^ (h + 1) ∣ a) :
    nodeIndex h (a + 2 ^ h) + 1 = nodeIndex (h + 1) a := by
  have hpos := Nat.two_pow_pos h
  rw [nodeIndex, nodeIndex, leafIndex_add_two_pow ha]
  omega

/-- The node over two trees is as far after the left one as that has leaves, twice. -/
theorem nodeIndex_left (h a : ℕ) : nodeIndex h a + 2 ^ (h + 1) = nodeIndex (h + 1) a := by
  have hpos := Nat.two_pow_pos h
  rw [nodeIndex, nodeIndex]
  omega

/-- After a left tree comes the first leaf of the right one. -/
theorem nodeIndex_succ {h a : ℕ} (ha : 2 ^ (h + 1) ∣ a) :
    nodeIndex h a + 1 = leafIndex (a + 2 ^ h) := by
  have hpos := Nat.two_pow_pos h
  rw [nodeIndex, leafIndex_add_two_pow ha]
  omega

/-- A tree that ends with the leaf `n` is completed when the nodes below it are there. -/
theorem nodeIndex_of_carry {h a : ℕ} (ha : 2 ^ h ∣ a) :
    leafIndex (a + 2 ^ h - 1) + h = nodeIndex h a := by
  have hpos := Nat.two_pow_pos h
  have hpa := popcount_le a
  have hsub : a + 2 ^ h - 1 = a + (2 ^ h - 1) := by omega
  have hones : popcount (2 ^ h - 1) ≤ 2 ^ h - 1 := popcount_le _
  rw [popcount_two_pow_sub_one] at hones
  rw [hsub, leafIndex_add ha (by omega), nodeIndex, leafIndex, leafIndex, popcount_two_pow_sub_one]
  omega

/-- After the leaf `n` come the trees that end with it. -/
theorem leafIndex_succ {n g : ℕ} (hdvd : 2 ^ g ∣ n + 1) (hnot : ¬2 ^ (g + 1) ∣ n + 1) :
    leafIndex (n + 1) = leafIndex n + 1 + g := by
  have hpos := Nat.two_pow_pos g
  obtain ⟨c, hc⟩ := hdvd
  have hodd : c % 2 = 1 := by
    by_contra heven
    apply hnot
    refine ⟨c / 2, ?_⟩
    rw [hc, pow_succ, mul_assoc]
    congr 1
    omega
  obtain ⟨a, ha, hadvd⟩ : ∃ a, a + 2 ^ g = n + 1 ∧ 2 ^ (g + 1) ∣ a := by
    refine ⟨2 ^ g * (c - 1), ?_, ?_⟩
    · rw [hc, ← Nat.mul_succ]
      congr 1
      omega
    · refine ⟨c / 2, ?_⟩
      rw [pow_succ, mul_assoc]
      congr 1
      omega
  have hcarry := nodeIndex_of_carry ((Nat.pow_dvd_pow 2 (by omega)).trans hadvd : 2 ^ g ∣ a)
  have hsucc := nodeIndex_succ hadvd
  have hn : a + 2 ^ g - 1 = n := by omega
  rw [hn] at hcarry
  rw [ha] at hsucc
  omega

/-! ## Heights -/

/-- The height of the node at the one-based `pos`: in a number that is not all ones the leading
one is dropped and one is added, which moves to the same node of the first tree. -/
def heightFrom : ℕ → ℕ → ℕ
  | 0, _ => 0
  | fuel + 1, pos =>
      if pos + 1 = 2 ^ (Nat.log2 pos + 1) then Nat.log2 pos
      else heightFrom fuel (pos - (2 ^ Nat.log2 pos - 1))

/-- `height_at`: the height of the node with this number. -/
def heightAt (i : ℕ) : ℕ := heightFrom (i + 1) (i + 1)

theorem log2_of_bounds {h pos : ℕ} (hle : 2 ^ h ≤ pos) (hlt : pos < 2 ^ (h + 1)) :
    Nat.log2 pos = h := by
  have hpos := Nat.two_pow_pos h
  exact (Nat.log2_eq_iff (by omega)).mpr ⟨hle, hlt⟩

theorem two_pow_log2_le {pos : ℕ} (hpos : 0 < pos) : 2 ^ Nat.log2 pos ≤ pos :=
  Nat.log2_self_le (by omega)

/-- More fuel than the position does not matter. -/
theorem heightFrom_fuel {fuel fuel' pos : ℕ} (hpos : 0 < pos) (hfuel : pos ≤ fuel)
    (hfuel' : pos ≤ fuel') : heightFrom fuel pos = heightFrom fuel' pos := by
  induction fuel generalizing fuel' pos with
  | zero => omega
  | succ fuel ih =>
      obtain ⟨fuel', rfl⟩ : ∃ n, fuel' = n + 1 := ⟨fuel' - 1, by omega⟩
      have hle := two_pow_log2_le hpos
      rw [heightFrom, heightFrom]
      split_ifs with hones
      · rfl
      · have hlog : 2 ≤ 2 ^ Nat.log2 pos := by
          rcases Nat.eq_zero_or_pos (Nat.log2 pos) with hzero | hlog
          · have hlt : pos < 2 ^ (Nat.log2 pos + 1) := Nat.lt_log2_self
            rw [hzero] at hlt hones
            omega
          · exact Nat.pow_le_pow_right (n := 2) (by omega) hlog
        exact ih (by omega) (by omega) (by omega)

theorem heightAt_root (h : ℕ) : heightAt (2 ^ (h + 1) - 2) = h := by
  have hpos := Nat.two_pow_pos h
  have hsub : 2 ^ (h + 1) - 2 + 1 = 2 ^ (h + 1) - 1 := by omega
  have hlog : Nat.log2 (2 ^ (h + 1) - 1) = h := log2_of_bounds (by omega) (by omega)
  rw [heightAt, hsub, heightFrom.eq_def]
  have hne : 2 ^ (h + 1) - 1 = (2 ^ (h + 1) - 2) + 1 := by omega
  rw [hne]
  simp only
  rw [← hne, hlog, if_pos (by omega)]

/-- Behind a tree the heights begin again. -/
theorem heightAt_shift {h j : ℕ} (hj : j < 2 ^ h - 1) : heightAt (2 ^ h - 1 + j) = heightAt j := by
  have hpos := Nat.two_pow_pos h
  have hsub : 2 ^ h - 1 + j + 1 = 2 ^ h + j := by omega
  have hlog : Nat.log2 (2 ^ h + j) = h := log2_of_bounds (by omega) (by omega)
  have hones : ¬ 2 ^ h + j + 1 = 2 ^ (h + 1) := by omega
  have hdrop : 2 ^ h + j - (2 ^ h - 1) = j + 1 := by omega
  rw [heightAt, hsub]
  obtain ⟨fuel, hfuel⟩ : ∃ n, 2 ^ h + j = n + 1 := ⟨2 ^ h + j - 1, by omega⟩
  conv_lhs => rw [hfuel, heightFrom, ← hfuel, hlog, if_neg hones, hdrop]
  exact heightFrom_fuel (by omega) (by omega) le_rfl

/-- The root over aligned leaves has the height of its tree. -/
theorem heightAt_nodeIndex {h a : ℕ} (ha : 2 ^ h ∣ a) : heightAt (nodeIndex h a) = h := by
  induction a using Nat.strong_induction_on with
  | _ a ih =>
      have hpos := Nat.two_pow_pos h
      rcases Nat.eq_zero_or_pos a with rfl | hzero
      · rw [nodeIndex, leafIndex_zero, Nat.zero_add, heightAt_root]
      · -- the leading one of `a` is the tree that is left behind
        obtain ⟨k, m, hlt, hdvd, rfl⟩ : ∃ k m, m + 2 ^ h ≤ 2 ^ k ∧ 2 ^ h ∣ m ∧ a = 2 ^ k + m := by
          have hle := two_pow_log2_le hzero
          have hlt : a < 2 ^ (Nat.log2 a + 1) := Nat.lt_log2_self
          have hha : 2 ^ h ≤ a := Nat.le_of_dvd hzero ha
          have hk : 2 ^ h ∣ 2 ^ Nat.log2 a :=
            Nat.pow_dvd_pow 2 ((Nat.le_log2 (by omega)).mpr hha)
          have hm : 2 ^ h ∣ a - 2 ^ Nat.log2 a := Nat.dvd_sub ha hk
          refine ⟨Nat.log2 a, a - 2 ^ Nat.log2 a, ?_, hm, by omega⟩
          obtain ⟨c, hc⟩ := hk
          obtain ⟨d, hd⟩ := hm
          have hdc : d < c := by
            have : 2 ^ h * d < 2 ^ h * c := by omega
            exact Nat.lt_of_mul_lt_mul_left this
          calc a - 2 ^ Nat.log2 a + 2 ^ h = 2 ^ h * (d + 1) := by rw [hd]; ring
            _ ≤ 2 ^ h * c := Nat.mul_le_mul_left _ hdc
            _ = 2 ^ Nat.log2 a := hc.symm
        have hk := Nat.two_pow_pos k
        have hbehind : nodeIndex h (2 ^ k + m) = 2 ^ (k + 1) - 1 + nodeIndex h m := by
          have hroot : leafIndex (2 ^ k) = 2 ^ (k + 1) - 1 := by
            rw [leafIndex, popcount_two_pow]
            omega
          rw [nodeIndex, nodeIndex, leafIndex_add (dvd_refl _) (by omega), hroot]
          omega
        have hinside : nodeIndex h m < 2 ^ (k + 1) - 1 := by
          have hpm := popcount_le m
          rw [nodeIndex, leafIndex]
          omega
        rw [hbehind, heightAt_shift hinside]
        exact ih m (by omega) hdvd

@[simp] theorem heightAt_leafIndex (n : ℕ) : heightAt (leafIndex n) = 0 := by
  rw [← nodeIndex_leaf]
  exact heightAt_nodeIndex (one_dvd n)

end CapsuleMesh.Library.MountainRange
