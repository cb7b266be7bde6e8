import Mathlib.Algebra.Group.Nat.Defs
import Mathlib.Data.List.Lex
import Mathlib.Data.String.Basic

/-!
# Numerals of a fixed width

Decimal numerals of one width, compared as texts, are in the order of their numbers; so are texts
that are made of such numerals, field by field.
-/

namespace CapsuleMesh.Library

section

variable {α : Type*} [LinearOrder α]

theorem append_lt_append_iff_of_length_eq {u v r s : List α} (h : u.length = v.length) :
    u ++ r < v ++ s ↔ u < v ∨ u = v ∧ r < s := by
  induction u generalizing v with
  | nil =>
      obtain rfl := List.length_eq_zero_iff.mp h.symm
      simp
  | cons a u ih =>
      cases v with
      | nil => cases h
      | cons b v =>
        have hlength : u.length = v.length := Nat.succ.inj h
        rw [List.cons_append, List.cons_append, List.cons_lt_cons_iff, List.cons_lt_cons_iff,
          ih hlength, List.cons.injEq]
        tauto

end

/-- There is a digit zero. -/
instance neZero_ten : @NeZero ℕ Zero.ofOfNat0 10 := ⟨Nat.succ_ne_zero 9⟩

def digitChar (n : ℕ) : Char := Char.ofNat (48 + n)

/-- The last `width` decimal digits of a number. -/
def padded : (width n : ℕ) → List Char
  | 0, _ => []
  | width + 1, n => padded width (n / 10) ++ [digitChar (n % 10)]

@[simp] theorem length_padded (width n : ℕ) : (padded width n).length = width := by
  induction width generalizing n with
  | zero => rfl
  | succ width ih => rw [padded, List.length_append, ih, List.length_singleton]

theorem digitChar_lt_iff {m n : ℕ} (hm : m < 10) (hn : n < 10) :
    digitChar m < digitChar n ↔ m < n := by
  have hall : ∀ m < 10, ∀ n < 10, (digitChar m < digitChar n ↔ m < n) := by decide
  exact hall m hm n hn

theorem digitChar_inj {m n : ℕ} (hm : m < 10) (hn : n < 10) :
    digitChar m = digitChar n ↔ m = n := by
  have hall : ∀ m < 10, ∀ n < 10, (digitChar m = digitChar n ↔ m = n) := by decide
  exact hall m hm n hn

theorem padded_inj {width m n : ℕ} (hm : m < 10 ^ width) (hn : n < 10 ^ width) :
    padded width m = padded width n ↔ m = n := by
  induction width generalizing m n with
  | zero =>
      rw [Nat.pow_zero] at hm hn
      simp only [padded, true_iff]
      omega
  | succ width ih =>
      rw [Nat.pow_succ] at hm hn
      have hlength : (padded width (m / 10)).length = (padded width (n / 10)).length := by simp
      constructor
      · intro h
        obtain ⟨hfront, hlast⟩ := List.append_inj h hlength
        have htens := (ih (by omega) (by omega)).mp hfront
        have hones := (digitChar_inj (by omega) (by omega)).mp (List.singleton_inj.mp hlast)
        omega
      · rintro rfl
        rfl

theorem padded_lt_iff {width m n : ℕ} (hm : m < 10 ^ width) (hn : n < 10 ^ width) :
    padded width m < padded width n ↔ m < n := by
  induction width generalizing m n with
  | zero =>
      rw [Nat.pow_zero] at hm hn
      simp only [padded, List.not_lt_nil, false_iff]
      omega
  | succ width ih =>
      rw [Nat.pow_succ] at hm hn
      have hdigit : [digitChar (m % 10)] < [digitChar (n % 10)] ↔ m % 10 < n % 10 := by
        rw [List.cons_lt_cons_iff, digitChar_lt_iff (by omega) (by omega)]
        simp
      rw [padded, padded, append_lt_append_iff_of_length_eq (by simp), hdigit,
        ih (by omega) (by omega), padded_inj (by omega) (by omega)]
      omega

/-- A field of a text and what follows it. -/
theorem padded_append_lt_iff {width m n : ℕ} (hm : m < 10 ^ width) (hn : n < 10 ^ width)
    (r s : List Char) :
    padded width m ++ r < padded width n ++ s ↔ m < n ∨ m = n ∧ r < s := by
  rw [append_lt_append_iff_of_length_eq (by simp), padded_lt_iff hm hn, padded_inj hm hn]

theorem cons_lt_cons_self_iff (c : Char) (r s : List Char) : c :: r < c :: s ↔ r < s := by
  rw [List.cons_lt_cons_iff]
  simp

end CapsuleMesh.Library
