import Mathlib.Data.Finset.Card
import Mathlib.Data.List.Induction

/-!
# Stores that keep the first item of each key

Such a store compares every later item of a key with the first one and reports it where the
two differ.  What it reports along a run is a function of the items alone.  It reports one
item for each further value only where no further value comes twice.
-/

namespace CapsuleMesh.Library

variable {α κ ρ : Type*} [DecidableEq κ] [DecidableEq ρ] {key : α → κ} {value : α → ρ}

def firstSeen (key : α → κ) (items : List α) (k : κ) : Option α :=
  items.find? fun a => key a = k

/-- The first item of its key, where this one differs from it. -/
def divergesFrom (key : α → κ) (value : α → ρ) (items : List α) (a : α) : Option α :=
  (firstSeen key items (key a)).filter fun first => value first ≠ value a

/-- The items that differ from the first item of their key, each with that one. -/
def divergences (key : α → κ) (value : α → ρ) (items : List α) : List (α × α) :=
  items.filterMap fun a => (divergesFrom key value items a).map fun first => (first, a)

theorem firstSeen_concat (items : List α) (a : α) (k : κ) :
    firstSeen key (items ++ [a]) k =
      (firstSeen key items k).or (if key a = k then some a else none) := by
  by_cases hk : key a = k <;> simp [firstSeen, List.find?_append, hk]

theorem firstSeen_eq_some {items : List α} {k : κ} {first : α}
    (h : firstSeen key items k = some first) : first ∈ items ∧ key first = k :=
  ⟨List.mem_of_find?_eq_some h, by simpa using List.find?_some h⟩

theorem exists_firstSeen (key : α → κ) {items : List α} {a : α} (ha : a ∈ items) :
    ∃ first, firstSeen key items (key a) = some first := by
  refine Option.isSome_iff_exists.mp ?_
  simp only [firstSeen, List.find?_isSome, decide_eq_true_eq]
  exact ⟨a, ha, rfl⟩

/-- The first item of each key, in order. -/
def firsts (key : α → κ) (items : List α) : List α :=
  items.foldl (fun seen a => if key a ∈ seen.map key then seen else seen ++ [a]) []

theorem firsts_concat (items : List α) (a : α) :
    firsts key (items ++ [a]) =
      if key a ∈ (firsts key items).map key then firsts key items else firsts key items ++ [a] := by
  rw [firsts, List.foldl_append]
  rfl

theorem mem_of_mem_firsts {items : List α} {a : α} (h : a ∈ firsts key items) : a ∈ items := by
  induction items using List.reverseRecOn with
  | nil => exact h
  | append_singleton items b ih =>
      rw [firsts_concat] at h
      split_ifs at h with hmem
      · exact List.mem_append_left _ (ih h)
      · obtain h | h := List.mem_append.mp h
        · exact List.mem_append_left _ (ih h)
        · exact List.mem_append_right _ h

theorem mem_keys_firsts {items : List α} {k : κ} :
    k ∈ (firsts key items).map key ↔ ∃ a ∈ items, key a = k := by
  induction items using List.reverseRecOn with
  | nil => simp [firsts]
  | append_singleton items a ih =>
      have hconcat : (∃ b ∈ items ++ [a], key b = k) ↔ (∃ b ∈ items, key b = k) ∨ key a = k := by
        simp [or_and_right, exists_or]
      rw [firsts_concat, hconcat, ← ih]
      split_ifs with hmem
      · constructor
        · exact .inl
        · rintro (h | rfl)
          · exact h
          · exact hmem
      · rw [List.map_append, List.mem_append, List.map_singleton, List.mem_singleton, eq_comm]

theorem nodup_keys_firsts (items : List α) : ((firsts key items).map key).Nodup := by
  induction items using List.reverseRecOn with
  | nil => simp [firsts]
  | append_singleton items a ih =>
      rw [firsts_concat]
      split_ifs with hmem
      · exact ih
      · rw [List.map_append, List.nodup_append]
        refine ⟨ih, by simp, ?_⟩
        rintro k hk _ ha rfl
        rw [List.map_singleton, List.mem_singleton] at ha
        exact hmem (ha ▸ hk)

/-- Items under other keys that agree where the keys do. -/
theorem firsts_map {β κ' : Type*} [DecidableEq κ'] {f : β → α} {key' : β → κ'} {items : List β}
    (h : ∀ b ∈ items, ∀ c ∈ items, key' b = key' c ↔ key (f b) = key (f c)) :
    firsts key (items.map f) = (firsts key' items).map f := by
  induction items using List.reverseRecOn with
  | nil => rfl
  | append_singleton items b ih =>
      have hinit := ih fun c hc d hd => h c (by simp [hc]) d (by simp [hd])
      rw [List.map_append, List.map_singleton, firsts_concat, firsts_concat]
      have hiff : key (f b) ∈ (firsts key (items.map f)).map key ↔
          key' b ∈ (firsts key' items).map key' := by
        rw [mem_keys_firsts, mem_keys_firsts]
        constructor
        · rintro ⟨a, ha, heq⟩
          obtain ⟨c, hc, rfl⟩ := List.mem_map.mp ha
          exact ⟨c, hc, (h c (by simp [hc]) b (by simp)).mpr heq⟩
        · rintro ⟨c, hc, heq⟩
          exact ⟨f c, List.mem_map_of_mem hc, (h c (by simp [hc]) b (by simp)).mp heq⟩
      by_cases hmem : key' b ∈ (firsts key' items).map key'
      · rw [if_pos hmem, if_pos (hiff.mpr hmem), hinit]
      · rw [if_neg hmem, if_neg (mt hiff.mp hmem), hinit, List.map_append, List.map_singleton]

theorem divergesFrom_eq_some {items : List α} {a first : α} :
    divergesFrom key value items a = some first ↔
      firstSeen key items (key a) = some first ∧ value first ≠ value a := by
  simp [divergesFrom, Option.filter_eq_some_iff]

/-- Later items do not change what an item is compared with. -/
theorem divergesFrom_concat_of_mem {items : List α} {a : α} (ha : a ∈ items) (b : α) :
    divergesFrom key value (items ++ [b]) a = divergesFrom key value items a := by
  obtain ⟨first, hfirst⟩ := exists_firstSeen key ha
  simp [divergesFrom, firstSeen_concat, hfirst]

theorem divergesFrom_concat_self (items : List α) (a : α) :
    divergesFrom key value (items ++ [a]) a = divergesFrom key value items a := by
  cases hfirst : firstSeen key items (key a) <;>
    simp [divergesFrom, firstSeen_concat, hfirst, Option.filter]

theorem divergences_concat (items : List α) (a : α) :
    divergences key value (items ++ [a]) = divergences key value items ++
      ((divergesFrom key value items a).map fun first => (first, a)).toList := by
  have hitems : ∀ b ∈ items, ((divergesFrom key value (items ++ [a]) b).map fun first ↦ (first, b)) =
      (divergesFrom key value items b).map fun first => (first, b) :=
    fun b hb => by rw [divergesFrom_concat_of_mem hb]
  rw [divergences, List.filterMap_append, List.filterMap_congr hitems]
  cases hself : divergesFrom key value items a <;>
    simp [divergences, divergesFrom_concat_self, hself]

theorem mem_divergences {items : List α} {first a : α} :
    (first, a) ∈ divergences key value items ↔
      a ∈ items ∧ firstSeen key items (key a) = some first ∧ value first ≠ value a := by
  simp only [divergences, List.mem_filterMap, Option.map_eq_some_iff, Prod.mk.injEq,
    divergesFrom_eq_some]
  constructor
  · rintro ⟨b, hb, c, hc, rfl, rfl⟩
    exact ⟨hb, hc⟩
  · rintro ⟨ha, h⟩
    exact ⟨a, ha, first, h, rfl, rfl⟩

/-! ## Counting values -/

/-- The entries other than `r` are one for each further value, exactly when none comes
twice. -/
theorem length_filter_ne_eq_iff (values : List ρ) (r : ρ) :
    (values.filter (· ≠ r)).length = values.toFinset.card - 1 ↔
      values = [] ∨ r ∈ values ∧ ∀ v ∈ values, v ≠ r → values.count v = 1 := by
  set others := values.filter (· ≠ r) with hothers
  have hle : others.toFinset.card ≤ others.length := List.toFinset_card_le others
  have hfinset : others.toFinset = values.toFinset.erase r := by
    ext v
    simp [hothers, and_comm]
  by_cases hempty : values = []
  · simp [hothers, hempty]
  by_cases hr : r ∈ values
  · have hcard : values.toFinset.card - 1 = others.toFinset.card := by
      rw [hfinset, Finset.card_erase_of_mem (List.mem_toFinset.mpr hr)]
    have hnodup : others.length = others.toFinset.card ↔ others.Nodup := by
      constructor
      · intro h
        rw [List.card_toFinset] at h
        rw [← List.dedup_eq_self]
        exact (List.dedup_sublist others).eq_of_length h.symm
      · intro h
        exact (List.toFinset_card_of_nodup h).symm
    rw [hcard, hnodup, List.nodup_iff_count_eq_one]
    simp only [hempty, hr, true_and, false_or]
    constructor
    · intro h v hv hne
      rw [← h v (by simp [hothers, hv, hne]), hothers, List.count_filter (by simpa using hne)]
    · intro h v hv
      obtain ⟨hv, hne⟩ := List.mem_filter.mp hv
      have hne' : v ≠ r := by simpa using hne
      rw [hothers, List.count_filter (by simpa using hne')]
      exact h v hv hne'
  · -- No entry is `r`: every entry counts, and there is one value too many.
    have hsame : others = values := by
      refine List.filter_eq_self.mpr fun v hv => ?_
      have hne : v ≠ r := fun h => hr (h ▸ hv)
      simpa using hne
    have hpos : 0 < values.toFinset.card :=
      Finset.card_pos.mpr ((List.toFinset_nonempty_iff values).mpr hempty)
    rw [hsame] at hle ⊢
    simp only [hempty, hr, false_and, or_false, iff_false]
    omega

end CapsuleMesh.Library
