import CapsuleMesh.Library.MountainNodes

/-!
# Paths in a Merkle mountain range

A path lists the siblings on the way from a leaf to its peak.  Which side a sibling stands on is
read off the heights alone, so a path climbs from the number of its leaf to the peak above it
whatever hashes it lists; where hashes bind, only the path of the range itself gives the peak's.
-/

namespace CapsuleMesh.Library.MountainRange

variable {E D : Type*}

/-! ## The blocks of a leaf -/

/-- Where the aligned block of `2 ^ g` leaves that has the leaf `m` begins. -/
def block (g m : ℕ) : ℕ := m / 2 ^ g * 2 ^ g

theorem dvd_block (g m : ℕ) : 2 ^ g ∣ block g m := dvd_mul_left _ _

@[simp] theorem block_zero (m : ℕ) : block 0 m = m := by
  rw [block, pow_zero, Nat.div_one, Nat.mul_one]

/-- A block is the left half or the right half of the next. -/
theorem block_cases (g m : ℕ) :
    block g m = block (g + 1) m ∨ block g m = block (g + 1) m + 2 ^ g := by
  have hhalf : m / 2 ^ (g + 1) = m / 2 ^ g / 2 := by rw [pow_succ, Nat.div_div_eq_div_mul]
  rcases Nat.mod_two_eq_zero_or_one (m / 2 ^ g) with heven | hodd
  · left
    have hsplit : m / 2 ^ g = 2 * (m / 2 ^ g / 2) := by omega
    rw [block, block, hhalf, pow_succ, mul_comm (2 ^ g) 2, ← mul_assoc, mul_comm _ 2, ← hsplit]
  · right
    have hsplit : m / 2 ^ g = 2 * (m / 2 ^ g / 2) + 1 := by omega
    rw [block, block, hhalf, pow_succ, mul_comm (2 ^ g) 2, ← mul_assoc, mul_comm _ 2]
    conv_lhs => rw [hsplit, Nat.add_mul, Nat.one_mul]

theorem block_eq {h a m : ℕ} (ha : 2 ^ h ∣ a) (hle : a ≤ m) (hlt : m < a + 2 ^ h) :
    block h m = a := by
  obtain ⟨c, rfl⟩ := ha
  have hdiv : m / 2 ^ h = c := by
    apply Nat.div_eq_of_lt_le
    · rw [mul_comm]
      exact hle
    · rw [Nat.succ_mul, mul_comm]
      exact hlt
  rw [block, hdiv, mul_comm]

theorem block_end_le {g h : ℕ} (hgh : g ≤ h) (m : ℕ) : block g m + 2 ^ g ≤ block h m + 2 ^ h := by
  induction h, hgh using Nat.le_induction with
  | base => exact le_rfl
  | succ h _ ih =>
      have hcases := block_cases h m
      rw [pow_succ]
      omega

/-- The block that shares its parent with that of the leaf. -/
def siblingBlock (g m : ℕ) : ℕ :=
  if block g m = block (g + 1) m then block g m + 2 ^ g else block (g + 1) m

/-! ## Climbing -/

/-- The node that a path leads to, and the hash it gives there. -/
def climb (node : ℕ → D → D → D) : List D → ℕ → ℕ → D → ℕ × D
  | [], i, _, root => (i, root)
  | sibling :: path, i, g, root =>
      if g < heightAt (i + 1) then
        climb node path (i + 1) (g + 1) (node (i + 1 + 1) sibling root)
      else climb node path (i + 2 ^ (g + 1)) (g + 1) (node (i + 2 ^ (g + 1) + 1) root sibling)

section Climb

variable {leaf : E → D} {node : ℕ → D → D → D} {entry : ℕ → E} {g m : ℕ}

theorem climb_left (h : block g m = block (g + 1) m) (sibling : D) (path : List D) (root : D) :
    climb node (sibling :: path) (nodeIndex g (block g m)) g root =
      climb node path (nodeIndex (g + 1) (block (g + 1) m)) (g + 1)
        (node (nodeIndex (g + 1) (block (g + 1) m) + 1) root sibling) := by
  have hheight : heightAt (nodeIndex g (block (g + 1) m) + 1) = 0 := by
    rw [nodeIndex_succ (dvd_block (g + 1) m), heightAt_leafIndex]
  rw [h, climb, hheight, if_neg (Nat.not_lt_zero g), nodeIndex_left]

theorem climb_right (h : block g m = block (g + 1) m + 2 ^ g) (sibling : D) (path : List D)
    (root : D) :
    climb node (sibling :: path) (nodeIndex g (block g m)) g root =
      climb node path (nodeIndex (g + 1) (block (g + 1) m)) (g + 1)
        (node (nodeIndex (g + 1) (block (g + 1) m) + 1) sibling root) := by
  have hdvd := dvd_block (g + 1) m
  rw [h, climb, nodeIndex_right hdvd, heightAt_nodeIndex hdvd, if_pos (Nat.lt_succ_self g)]

/-- A path of any hashes leads to the root over the block of its length. -/
theorem climb_fst (path : List D) (root : D) :
    (climb node path (nodeIndex g (block g m)) g root).1 =
      nodeIndex (g + path.length) (block (g + path.length) m) := by
  induction path generalizing g root with
  | nil => rfl
  | cons sibling path ih =>
      have hlength : g + (sibling :: path).length = g + 1 + path.length := by
        rw [List.length_cons]
        omega
      rw [hlength]
      rcases block_cases g m with hleft | hright
      · rw [climb_left hleft, ih]
      · rw [climb_right hright, ih]

theorem le_climb_fst (path : List D) (i g : ℕ) (root : D) : i ≤ (climb node path i g root).1 := by
  induction path generalizing i g root with
  | nil => exact le_rfl
  | cons sibling path ih =>
      rw [climb]
      split_ifs
      · exact (Nat.le_succ i).trans (ih _ _ _)
      · exact (Nat.le_add_right i _).trans (ih _ _ _)

/-- The siblings above the height `g`, so many of them. -/
def pathFrom (leaf : E → D) (node : ℕ → D → D → D) (entry : ℕ → E) (m g count : ℕ) : List D :=
  (List.range' g count).map fun height => subtree leaf node entry height (siblingBlock height m)

theorem pathFrom_succ (m g count : ℕ) :
    pathFrom leaf node entry m g (count + 1) =
      subtree leaf node entry g (siblingBlock g m) :: pathFrom leaf node entry m (g + 1) count := by
  rw [pathFrom, List.range'_succ, List.map_cons, pathFrom]

theorem siblingBlock_left (h : block g m = block (g + 1) m) :
    siblingBlock g m = block (g + 1) m + 2 ^ g := by
  rw [siblingBlock, if_pos h, h]

theorem siblingBlock_right (h : block g m = block (g + 1) m + 2 ^ g) :
    siblingBlock g m = block (g + 1) m := by
  have hpos := Nat.two_pow_pos g
  rw [siblingBlock, if_neg (by omega)]

/-- The path of the range gives the root of the block. -/
theorem climb_pathFrom (m g count : ℕ) :
    climb node (pathFrom leaf node entry m g count) (nodeIndex g (block g m)) g
        (subtree leaf node entry g (block g m)) =
      (nodeIndex (g + count) (block (g + count) m),
        subtree leaf node entry (g + count) (block (g + count) m)) := by
  induction count generalizing g with
  | zero => rfl
  | succ count ih =>
      have hcount : g + (count + 1) = g + 1 + count := by omega
      rw [pathFrom_succ, hcount]
      rcases block_cases g m with hleft | hright
      · rw [climb_left hleft, siblingBlock_left hleft, hleft, ← subtree_succ leaf node entry, ih]
      · rw [climb_right hright, siblingBlock_right hright, hright, ← subtree_succ leaf node entry, ih]

/-! ## Binding hashes -/

/-- The hashes of the range are made of nothing else: where one of two children has the size
of a hash. -/
structure Binding (leaf : E → D) (node : ℕ → D → D → D) (entry : ℕ → E) (sized : D → Prop)
    (n : ℕ) : Prop where
  leaf_sized : ∀ e, sized (leaf e)
  node_sized : ∀ position left right, sized (node position left right)
  leaf_binds : ∀ m < n, ∀ e, leaf e = leaf (entry m) → e = entry m
  node_binds : ∀ h a, 2 ^ (h + 1) ∣ a → a + 2 ^ (h + 1) ≤ n → ∀ left right,
    sized left ∨ sized right →
    node (nodeIndex (h + 1) a + 1) left right = subtree leaf node entry (h + 1) a →
      left = subtree leaf node entry h a ∧ right = subtree leaf node entry h (a + 2 ^ h)

variable {sized : D → Prop} {n : ℕ}

/-- From the top down, each hash on the way is the one in the range. -/
theorem Binding.path_unique (hbinding : Binding leaf node entry sized n) {path : List D} {root : D}
    (hroot : sized root) (hle : block (g + path.length) m + 2 ^ (g + path.length) ≤ n)
    (hclimb : (climb node path (nodeIndex g (block g m)) g root).2 =
      subtree leaf node entry (g + path.length) (block (g + path.length) m)) :
    root = subtree leaf node entry g (block g m) ∧
      path = pathFrom leaf node entry m g path.length := by
  induction path generalizing g root with
  | nil => exact ⟨hclimb, rfl⟩
  | cons sibling path ih =>
      have hlength : g + (sibling :: path).length = g + 1 + path.length := by
        rw [List.length_cons]
        omega
      have hdvd := dvd_block (g + 1) m
      have hparent : block (g + 1) m + 2 ^ (g + 1) ≤ n :=
        (block_end_le (by omega) m).trans (hlength ▸ hle)
      rw [hlength] at hle hclimb
      rw [List.length_cons, pathFrom_succ]
      rcases block_cases g m with hleft | hright
      · rw [climb_left hleft] at hclimb
        obtain ⟨hnode, hpath⟩ := ih (hbinding.node_sized _ _ _) hle hclimb
        obtain ⟨hself, hother⟩ :=
          hbinding.node_binds g _ hdvd hparent root sibling (.inl hroot) hnode
        rw [siblingBlock_left hleft, hleft]
        exact ⟨hself, by rw [← hother, ← hpath]⟩
      · rw [climb_right hright] at hclimb
        obtain ⟨hnode, hpath⟩ := ih (hbinding.node_sized _ _ _) hle hclimb
        obtain ⟨hother, hself⟩ :=
          hbinding.node_binds g _ hdvd hparent sibling root (.inr hroot) hnode
        rw [siblingBlock_right hright, hright]
        exact ⟨hself, by rw [← hother, ← hpath]⟩

end Climb

/-! ## Reading a path off the nodes -/

def inclusionFrom (nodes : List D) : ℕ → ℕ → ℕ → List D
  | 0, _, _ => []
  | fuel + 1, i, g =>
      if g < heightAt (i + 1) then
        match nodes[i + 1 - 2 ^ (g + 1)]? with
        | none => []
        | some sibling => sibling :: inclusionFrom nodes fuel (i + 1) (g + 1)
      else
        match nodes[i + 2 ^ (g + 1) - 1]? with
        | none => []
        | some sibling => sibling :: inclusionFrom nodes fuel (i + 2 ^ (g + 1)) (g + 1)

/-- `inclusion_proof`: the siblings of the leaf `m`, up to the end of the range. -/
def inclusionPath (nodes : List D) (m : ℕ) : List D :=
  inclusionFrom nodes nodes.length (leafIndex m) 0

section Inclusion

variable {leaf : E → D} {node : ℕ → D → D → D} {entry : ℕ → E} {nodes : List D} {n m : ℕ}

theorem Stores.inclusionFrom_eq (hstores : Stores leaf node entry nodes n) {h g fuel count : ℕ}
    (hh : h = g + count) (hdvd : 2 ^ (h + 1) ∣ block h m) (hle : block h m + 2 ^ h ≤ n)
    (hlt : n < block h m + 2 ^ (h + 1)) (hfuel : count < fuel) :
    inclusionFrom nodes fuel (nodeIndex g (block g m)) g = pathFrom leaf node entry m g count := by
  induction count generalizing g fuel with
  | zero =>
      obtain rfl : h = g := by omega
      obtain ⟨fuel, rfl⟩ : ∃ f, fuel = f + 1 := ⟨fuel - 1, by omega⟩
      -- the peak would be a left half, and the right half is not there
      have hheight : heightAt (nodeIndex h (block h m) + 1) = 0 := by
        rw [nodeIndex_succ hdvd, heightAt_leafIndex]
      have hend : nodes[nodeIndex h (block h m) + 2 ^ (h + 1) - 1]? = none := by
        rw [List.getElem?_eq_none_iff, hstores.length]
        have hpos := Nat.two_pow_pos h
        have hsucc := nodeIndex_succ hdvd
        obtain ⟨r, rfl⟩ : ∃ r, n = block h m + 2 ^ h + r := ⟨n - (block h m + 2 ^ h), by omega⟩
        have hr : r < 2 ^ h := by omega
        have hbase : 2 ^ h ∣ block h m + 2 ^ h := Nat.dvd_add (dvd_block h m) (dvd_refl _)
        have hrest := leafIndex_le hr
        rw [leafIndex_add hbase hr, ← hsucc]
        omega
      rw [inclusionFrom, hheight, if_neg (Nat.not_lt_zero h), hend]
      rfl
  | succ count ih =>
      obtain ⟨fuel, rfl⟩ : ∃ f, fuel = f + 1 := ⟨fuel - 1, by omega⟩
      have hnext := dvd_block (g + 1) m
      have hparent : block (g + 1) m + 2 ^ (g + 1) ≤ n := (block_end_le (by omega) m).trans hle
      have hhalf : 2 ^ g ∣ block (g + 1) m := (Nat.pow_dvd_pow 2 (by omega)).trans hnext
      have hpos := Nat.two_pow_pos g
      rw [pathFrom_succ]
      rcases block_cases g m with hleft | hright
      · have hheight : heightAt (nodeIndex g (block (g + 1) m) + 1) = 0 := by
          rw [nodeIndex_succ hnext, heightAt_leafIndex]
        have hsibling : nodes[nodeIndex g (block (g + 1) m) + 2 ^ (g + 1) - 1]? =
            some (subtree leaf node entry g (block (g + 1) m + 2 ^ g)) := by
          have hindex := nodeIndex_right hnext
          have hparentIndex := nodeIndex_left g (block (g + 1) m)
          have hsub : nodeIndex g (block (g + 1) m) + 2 ^ (g + 1) - 1 =
              nodeIndex g (block (g + 1) m + 2 ^ g) := by omega
          rw [hsub]
          exact hstores.holds g _ (Nat.dvd_add hhalf (dvd_refl _)) (by omega)
        rw [hleft, inclusionFrom, hheight, if_neg (Nat.not_lt_zero g), hsibling,
          siblingBlock_left hleft]
        dsimp only
        rw [nodeIndex_left, ih (by omega) (by omega)]
      · have hheight : heightAt (nodeIndex g (block (g + 1) m + 2 ^ g) + 1) = g + 1 := by
          rw [nodeIndex_right hnext, heightAt_nodeIndex hnext]
        have hsibling : nodes[nodeIndex g (block (g + 1) m + 2 ^ g) + 1 - 2 ^ (g + 1)]? =
            some (subtree leaf node entry g (block (g + 1) m)) := by
          have hindex := nodeIndex_right hnext
          have hparentIndex := nodeIndex_left g (block (g + 1) m)
          have hsub : nodeIndex g (block (g + 1) m + 2 ^ g) + 1 - 2 ^ (g + 1) =
              nodeIndex g (block (g + 1) m) := by omega
          rw [hsub]
          exact hstores.holds g _ hhalf (by omega)
        rw [hright, inclusionFrom, hheight, if_pos (Nat.lt_succ_self g), hsibling,
          siblingBlock_right hright]
        dsimp only
        rw [nodeIndex_right hnext, ih (by omega) (by omega)]

/-- What is read off the nodes is the path to the peak. -/
theorem Stores.inclusionPath_eq (hstores : Stores leaf node entry nodes n) {k h a : ℕ}
    {positions : List ℕ} (hpeak : PeakOver positions n m k h a) :
    inclusionPath nodes m = pathFrom leaf node entry m 0 h := by
  have hblock : block h m = a :=
    block_eq ((Nat.pow_dvd_pow 2 (Nat.le_succ h)).trans hpeak.dvd) hpeak.le_leaf hpeak.leaf_lt
  have hfuel : h < nodes.length := by
    have hlt : h < 2 ^ h := Nat.lt_two_pow_self
    have hpop := popcount_le n
    have hle := hpeak.le
    rw [hstores.length, leafIndex]
    omega
  have hpath := hstores.inclusionFrom_eq (m := m) (g := 0) (Nat.zero_add h).symm
    (hblock ▸ hpeak.dvd) (hblock ▸ hpeak.le) (hblock ▸ hpeak.lt) hfuel
  rwa [block_zero, nodeIndex_leaf] at hpath

end Inclusion

end CapsuleMesh.Library.MountainRange
