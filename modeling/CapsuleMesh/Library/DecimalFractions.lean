import Mathlib.Algebra.Order.Field.Rat
import Mathlib.Tactic.Linarith
import CapsuleMesh.Library.FixedWidth

/-!
# Decimal fractions as digits

The value of the digits behind a decimal point, and the order of two of them by their first
difference.  Digits of a fraction that go on are more exactly where one of them is not zero.
-/

namespace CapsuleMesh.Library

/-- `0.d₁d₂…` -/
def fractionValue : List (Fin 10) → ℚ
  | [] => 0
  | d :: ds => (d.val + fractionValue ds) / 10

theorem fractionValue_nonneg (ds : List (Fin 10)) : 0 ≤ fractionValue ds := by
  induction ds with
  | nil => exact le_refl 0
  | cons d ds ih =>
      have hdigit : (0 : ℚ) ≤ d.val := Nat.cast_nonneg _
      rw [fractionValue]
      linarith

theorem fractionValue_lt_one (ds : List (Fin 10)) : fractionValue ds < 1 := by
  induction ds with
  | nil => exact zero_lt_one
  | cons d ds ih =>
      have hdigit : (d.val : ℚ) ≤ 9 := by exact_mod_cast Nat.le_of_lt_succ d.isLt
      rw [fractionValue]
      linarith

theorem fractionValue_pos_iff (ds : List (Fin 10)) : 0 < fractionValue ds ↔ ∃ d ∈ ds, d ≠ 0 := by
  induction ds with
  | nil => simp [fractionValue]
  | cons d ds ih =>
      have hrest := fractionValue_nonneg ds
      rw [fractionValue, List.exists_mem_cons_iff, ← ih]
      by_cases hd : d = 0
      · subst hd
        simp only [Fin.val_zero, Nat.cast_zero, zero_add, ne_eq, not_true_eq_false, false_or]
        constructor
        · intro h
          linarith
        · intro h
          linarith
      · have hdigit : (0 : ℚ) < d.val := by
          exact_mod_cast Nat.pos_of_ne_zero fun hzero => hd (Fin.ext hzero)
        refine iff_of_true ?_ (Or.inl hd)
        linarith

theorem fractionValue_cons_lt_of_lt {d e : Fin 10} (h : d < e) (ds es : List (Fin 10)) :
    fractionValue (d :: ds) < fractionValue (e :: es) := by
  have hdigits : (d.val : ℚ) + 1 ≤ e.val := by exact_mod_cast h
  have hlow := fractionValue_lt_one ds
  have hhigh := fractionValue_nonneg es
  rw [fractionValue, fractionValue]
  linarith

theorem fractionValue_cons_lt_iff (d : Fin 10) (ds es : List (Fin 10)) :
    fractionValue (d :: ds) < fractionValue (d :: es) ↔ fractionValue ds < fractionValue es := by
  rw [fractionValue, fractionValue]
  constructor
  · intro h
    linarith
  · intro h
    linarith

/-- The digits as they are written. -/
def digitChars (ds : List (Fin 10)) : List Char := ds.map fun d => digitChar d.val

theorem digitChar_fin_lt_iff (d e : Fin 10) : digitChar d.val < digitChar e.val ↔ d < e :=
  digitChar_lt_iff d.isLt e.isLt

theorem digitChar_fin_inj {d e : Fin 10} : digitChar d.val = digitChar e.val ↔ d = e := by
  rw [digitChar_inj d.isLt e.isLt, Fin.ext_iff]

end CapsuleMesh.Library
