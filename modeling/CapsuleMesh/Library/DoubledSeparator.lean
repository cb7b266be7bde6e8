import Mathlib.Data.List.Basic

/-!
# Two lists joined by a doubled separator

A list that is read as two parts around a doubled separator `x x` can be read so in several ways
when the parts hold the separator too, or when `x` stands next to it.
-/

namespace CapsuleMesh.Library

variable {α : Type*} {x : α} {a b a' b' : List α}

/-- The second reading has its separator further to the right: by one place, or beyond the whole
of the first separator. -/
def ShiftedRight (x : α) (a b a' b' : List α) : Prop :=
  (a' = a ++ [x] ∧ b = x :: b') ∨ ∃ t, a' = a ++ x :: x :: t ∧ b = t ++ x :: x :: b'

theorem ShiftedRight.append_eq (h : ShiftedRight x a b a' b') :
    a ++ x :: x :: b = a' ++ x :: x :: b' := by
  obtain ⟨rfl, rfl⟩ | ⟨t, rfl, rfl⟩ := h
  · simp
  · simp

theorem ShiftedRight.left_ne (h : ShiftedRight x a b a' b') : a ≠ a' := by
  intro heq
  have hlength := congrArg List.length heq
  obtain ⟨rfl, -⟩ | ⟨t, rfl, -⟩ := h
  · simp at hlength
  · simp at hlength

/-- What stands before the second separator and not before the first. -/
theorem shiftedRight_of_append {t : List α} (h : x :: x :: b = t ++ x :: x :: b') :
    t = [] ∧ b = b' ∨ ShiftedRight x a b (a ++ t) b' := by
  cases t with
  | nil =>
      left
      simpa using h
  | cons y t =>
      right
      rw [List.cons_append, List.cons.injEq] at h
      obtain ⟨rfl, h⟩ := h
      cases t with
      | nil =>
        left
        simpa using h
      | cons z t =>
        right
        rw [List.cons_append, List.cons.injEq] at h
        obtain ⟨rfl, h⟩ := h
        exact ⟨t, rfl, h⟩

/-- Two readings are one list exactly when they are the same or one is shifted. -/
theorem append_doubled_eq_iff : a ++ x :: x :: b = a' ++ x :: x :: b' ↔
    (a = a' ∧ b = b') ∨ ShiftedRight x a b a' b' ∨ ShiftedRight x a' b' a b := by
  constructor
  · intro h
    obtain ⟨t, rfl, ht⟩ | ⟨t, rfl, ht⟩ := List.append_eq_append_iff.mp h
    · obtain ⟨rfl, rfl⟩ | hshift := shiftedRight_of_append ht
      · left
        simp
      · exact .inr (.inl hshift)
    · obtain ⟨rfl, rfl⟩ | hshift := shiftedRight_of_append ht
      · left
        simp
      · exact .inr (.inr hshift)
  · rintro (⟨rfl, rfl⟩ | h | h)
    · rfl
    · exact h.append_eq
    · exact h.append_eq.symm

end CapsuleMesh.Library
