import Mathlib.Data.List.Sort

/-!
# Association lists sorted by key

Sorting by key moves no entry past another one of its key: look-ups do not notice it, and it
commutes with what keeps the keys and with dropping entries.
-/

namespace CapsuleMesh.Library

variable {κ α β : Type*} [LinearOrder κ]

def sortByKey (entries : List (κ × α)) : List (κ × α) :=
  entries.insertionSort fun a b => a.1 ≤ b.1

instance byKey_total : Std.Total fun a b : κ × α => a.1 ≤ b.1 := ⟨fun a b => le_total a.1 b.1⟩

instance byKey_trans : IsTrans (κ × α) fun a b => a.1 ≤ b.1 := ⟨fun _ _ _ => le_trans⟩

theorem pairwise_sortByKey (entries : List (κ × α)) :
    (sortByKey entries).Pairwise fun a b => a.1 ≤ b.1 :=
  List.pairwise_insertionSort _ entries

theorem lookup_orderedInsert (a : κ × α) (entries : List (κ × α)) (k : κ) :
    (entries.orderedInsert (fun a b => a.1 ≤ b.1) a).lookup k = (a :: entries).lookup k := by
  induction entries with
  | nil => rfl
  | cons b entries ih =>
      rw [List.orderedInsert_cons]
      split_ifs with hle
      · rfl
      · have hne : a.1 ≠ b.1 := fun h => hle h.le
        rw [List.lookup_cons, ih, List.lookup_cons, List.lookup_cons, List.lookup_cons]
        by_cases hb : k = b.1
        · have hka : (b.1 == a.1) = false := by simpa using Ne.symm hne
          simp [hb, hka]
        · have hkb : (k == b.1) = false := by simpa using hb
          simp [hkb]

theorem lookup_sortByKey (entries : List (κ × α)) (k : κ) :
    (sortByKey entries).lookup k = entries.lookup k := by
  induction entries with
  | nil => rfl
  | cons a entries ih =>
      rw [sortByKey, List.insertionSort_cons, lookup_orderedInsert, List.lookup_cons,
        List.lookup_cons, ← ih]
      rfl

theorem filter_orderedInsert (keep : κ × α → Bool) (a : κ × α) {entries : List (κ × α)}
    (h : entries.Pairwise fun a b => a.1 ≤ b.1) :
    (entries.orderedInsert (fun a b => a.1 ≤ b.1) a).filter keep =
      if keep a then (entries.filter keep).orderedInsert (fun a b => a.1 ≤ b.1) a
      else entries.filter keep := by
  induction entries with
  | nil =>
      cases hkeep : keep a with
      | false => simp [hkeep]
      | true => simp [hkeep]
  | cons b entries ih =>
      obtain ⟨hb, hrest⟩ := List.pairwise_cons.mp h
      rw [List.orderedInsert_cons]
      split_ifs with hle hkeep hkeep
      · -- What is kept of the rest is not below `b`, so `a` stays in front of it.
        have hfront : ∀ c ∈ (b :: entries).filter keep, a.1 ≤ c.1 := by
          intro c hc
          obtain hcb | hc := List.mem_cons.mp (List.mem_of_mem_filter hc)
          · rwa [hcb]
          · exact hle.trans (hb c hc)
        rw [List.filter_cons_of_pos hkeep]
        cases hkept : (b :: entries).filter keep with
        | nil => rfl
        | cons c kept => rw [List.orderedInsert_cons, if_pos (hfront c (by simp [hkept]))]
      · rw [List.filter_cons_of_neg hkeep]
      · by_cases hkeepb : keep b = true
        · rw [List.filter_cons_of_pos hkeepb, List.filter_cons_of_pos hkeepb, ih hrest,
            if_pos hkeep, List.orderedInsert_cons, if_neg hle]
        · rw [List.filter_cons_of_neg hkeepb, List.filter_cons_of_neg hkeepb, ih hrest,
            if_pos hkeep]
      · by_cases hkeepb : keep b = true
        · rw [List.filter_cons_of_pos hkeepb, List.filter_cons_of_pos hkeepb, ih hrest,
            if_neg hkeep]
        · rw [List.filter_cons_of_neg hkeepb, List.filter_cons_of_neg hkeepb, ih hrest,
            if_neg hkeep]

theorem filter_sortByKey (keep : κ × α → Bool) (entries : List (κ × α)) :
    (sortByKey entries).filter keep = sortByKey (entries.filter keep) := by
  induction entries with
  | nil => rfl
  | cons a entries ih =>
      change ((sortByKey entries).orderedInsert _ a).filter keep = _
      rw [filter_orderedInsert keep a (pairwise_sortByKey entries)]
      split_ifs with hkeep
      · rw [List.filter_cons_of_pos hkeep, ih]
        rfl
      · rw [List.filter_cons_of_neg hkeep]
        exact ih

theorem map_sortByKey (f : α → β) (entries : List (κ × α)) :
    (sortByKey entries).map (fun m => (m.1, f m.2)) =
      sortByKey (entries.map fun m => (m.1, f m.2)) :=
  List.map_insertionSort _ _ _ _ fun _ _ _ _ => Iff.rfl

theorem sortByKey_sortByKey (entries : List (κ × α)) :
    sortByKey (sortByKey entries) = sortByKey entries :=
  (pairwise_sortByKey entries).insertionSort_eq

theorem sortByKey_perm (entries : List (κ × α)) : (sortByKey entries).Perm entries :=
  List.perm_insertionSort _ entries

/-- Of distinct keys, the order they came in is forgotten. -/
theorem sortByKey_eq_of_perm {entries entries' : List (κ × α)} (h : entries.Perm entries')
    (hkeys : (entries.map Prod.fst).Nodup) : sortByKey entries = sortByKey entries' := by
  have hperm : (sortByKey entries).Perm (sortByKey entries') :=
    (sortByKey_perm entries).trans (h.trans (sortByKey_perm entries').symm)
  have hinj : ∀ m ∈ entries, ∀ n ∈ entries, m.1 = n.1 → m = n := fun m hm n hn =>
    List.inj_on_of_nodup_map hkeys hm hn
  apply List.Perm.eq_of_pairwise _ (pairwise_sortByKey entries) (pairwise_sortByKey entries') hperm
  intro m n hm hn hle hge
  apply hinj
  · exact (sortByKey_perm entries).mem_iff.mp hm
  · exact (sortByKey_perm entries).mem_iff.mp (hperm.mem_iff.mpr hn)
  · exact le_antisymm hle hge

end CapsuleMesh.Library
