import Mathlib.Data.List.AList
import Mathlib.Data.List.MinMax
import CapsuleMesh.Library.KeyedFold

/-!
# Stores that keep the newest item of each key

An item is offered to the cell of its key.  It takes the place of what the cell holds when it is of
higher rank, so the first of equals stays.  What a cell holds in the end depends on the set of items
that were offered, up to their rank, and not on their order.
-/

namespace CapsuleMesh.Library.Replaceable

variable {α κ ρ : Type*} [LinearOrder ρ] [DecidableEq κ]

/-- The content of a cell to which an item is offered. -/
def newer (rank : α → ρ) (held : Option α) (a : α) : Option α :=
  match held with
  | none => some a
  | some b => if rank a ≤ rank b then some b else some a

/-- The store after an offer. -/
def offer (key : α → κ) (rank : α → ρ) (store : AList fun _ : κ => α) (a : α) :
    AList fun _ : κ => α :=
  match store.lookup (key a) with
  | none => store.insert (key a) a
  | some b => if rank a ≤ rank b then store else store.insert (key a) a

variable {key : α → κ} {rank : α → ρ}

theorem foldl_newer (items : List α) : items.foldl (newer rank) none = items.argmax rank := by
  rw [List.argmax]
  congr 1
  funext held a
  cases held with
  | none => rfl
  | some b =>
      change (if rank a ≤ rank b then some b else some a) = if rank b < rank a then some a else some b
      by_cases hle : rank a ≤ rank b
      · rw [if_pos hle, if_neg (not_lt.mpr hle)]
      · rw [if_neg hle, if_pos (not_le.mp hle)]

theorem lookup_offer_same (store : AList fun _ : κ => α) (a : α) :
    (offer key rank store a).lookup (key a) = newer rank (store.lookup (key a)) a := by
  rw [offer]
  cases hheld : store.lookup (key a) with
  | none => rw [newer, AList.lookup_insert]
  | some b =>
      dsimp only [newer]
      split_ifs with hle
      · exact hheld
      · exact AList.lookup_insert store

theorem lookup_offer_ne (store : AList fun _ : κ => α) {a : α} {k : κ} (hk : key a ≠ k) :
    (offer key rank store a).lookup k = store.lookup k := by
  rw [offer]
  cases store.lookup (key a) with
  | none => exact AList.lookup_insert_ne hk.symm
  | some b =>
      dsimp only
      split_ifs
      · rfl
      · exact AList.lookup_insert_ne hk.symm

/-- A cell holds the first of the newest items that were offered to it. -/
theorem lookup_foldl_offer (items : List α) (k : κ) :
    (items.foldl (offer key rank) ∅).lookup k = (ofKey key k items).argmax rank := by
  have hsame := @lookup_offer_same α κ ρ _ _ key rank
  have hview := foldl_view (fun (store : AList fun _ : κ => α) k => store.lookup k) (newer rank)
    hsame (fun store _ _ hk => lookup_offer_ne store hk) ∅ items k
  rwa [AList.lookup_empty, foldl_newer] at hview

/-- The newest of two lists with the same items are of one rank. -/
theorem argmax_rel {as bs : List α} (hsame : ∀ a, a ∈ as ↔ a ∈ bs) :
    Option.Rel (fun a b ↦ a ∈ as ∧ b ∈ bs ∧ rank a = rank b) (as.argmax rank) (bs.argmax rank) := by
  cases ha : as.argmax rank with
  | none =>
      rw [List.argmax_eq_none] at ha
      have hb : bs = [] := by
        apply List.eq_nil_iff_forall_not_mem.mpr
        intro b hb
        rw [← hsame, ha] at hb
        exact absurd hb List.not_mem_nil
      rw [hb, List.argmax_nil]
      exact .none
  | some a =>
      have hamem := List.argmax_mem ha
      cases hb : bs.argmax rank with
      | none =>
        rw [List.argmax_eq_none] at hb
        rw [hsame, hb] at hamem
        exact absurd hamem List.not_mem_nil
      | some b =>
        have hbmem := List.argmax_mem hb
        refine .some ⟨hamem, hbmem, le_antisymm ?_ ?_⟩
        · exact List.le_of_mem_argmax ((hsame a).mp hamem) hb
        · exact List.le_of_mem_argmax ((hsame b).mpr hbmem) ha

/-- What is at least as new as everything else is as new as what is held. -/
theorem exists_argmax_of_top {items : List α} {top : α} (hmem : top ∈ items)
    (htop : ∀ a ∈ items, rank a ≤ rank top) :
    ∃ a ∈ items, items.argmax rank = some a ∧ rank a = rank top := by
  cases ha : items.argmax rank with
  | none =>
      rw [List.argmax_eq_none] at ha
      rw [ha] at hmem
      exact absurd hmem List.not_mem_nil
  | some a =>
      have hamem := List.argmax_mem ha
      refine ⟨a, hamem, rfl, le_antisymm (htop a hamem) ?_⟩
      exact List.le_of_mem_argmax hmem ha

end CapsuleMesh.Library.Replaceable
