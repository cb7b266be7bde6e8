import Mathlib.Data.List.Chain
import Mathlib.Order.Lattice

/-!
# Logs whose writers remember the end

A log only grows, and each writer links its next item to the end as it remembers it, from the time
when the log had so many items.  The item continues the chain when nothing has been added since.
-/

namespace CapsuleMesh.Library

variable {α κ : Type*} {key : α → κ} {log : List α} {asOf : ℕ} {tail : Option κ}

/-- The log ended with an item of key `tail` when it had `asOf` items. -/
structure Remembers (key : α → κ) (log : List α) (asOf : ℕ) (tail : Option κ) : Prop where
  le_length : asOf ≤ log.length
  tail_eq : (log.take asOf).getLast?.map key = tail

theorem remembers_end (key : α → κ) (log : List α) :
    Remembers key log log.length (log.getLast?.map key) :=
  ⟨le_rfl, by rw [List.take_length]⟩

theorem Remembers.append (h : Remembers key log asOf tail) (more : List α) :
    Remembers key (log ++ more) asOf tail := by
  constructor
  · rw [List.length_append]
    exact h.le_length.trans (Nat.le_add_right _ _)
  · rw [List.take_append_of_le_length h.le_length]
    exact h.tail_eq

theorem Remembers.mem {k : κ} (h : Remembers key log asOf (some k)) : ∃ a ∈ log, key a = k := by
  obtain ⟨a, ha, hkey⟩ := Option.map_eq_some_iff.mp h.tail_eq
  exact ⟨a, List.mem_of_mem_take (List.mem_of_getLast? ha), hkey⟩

/-- Where the memory is up to date, the next item has its key before it. -/
theorem Remembers.isChain_concat {R : α → α → Prop} {a : α} (hlog : log.IsChain R)
    (h : Remembers key log log.length tail) (hlink : ∀ last, tail = some (key last) → R last a) :
    (log ++ [a]).IsChain R := by
  apply hlog.append (List.isChain_singleton a)
  rintro last hlast a' ⟨⟩
  apply hlink
  rw [← h.tail_eq, List.take_length, Option.mem_def.mp hlast, Option.map_some]

end CapsuleMesh.Library
