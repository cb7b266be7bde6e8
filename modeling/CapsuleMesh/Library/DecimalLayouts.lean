import CapsuleMesh.Library.DecimalText
import Mathlib.Algebra.Field.Rat
import Mathlib.Data.List.TakeWhile
import Mathlib.Tactic.Ring

/-!
# Layouts of a decimal number

The digits of a number are laid out before and after a point, with zeros around them and an exponent
behind.  Every layout of a number has its value, and the digits can be taken out of it again.
-/

namespace CapsuleMesh.Library

/-- `text.partition(sep)`, without the separator. -/
def cutAt (sep : Char) (cs : List Char) : List Char × List Char :=
  (cs.takeWhile fun c => decide (c ≠ sep), (cs.dropWhile fun c => decide (c ≠ sep)).drop 1)

theorem cutAt_of_not_mem {sep : Char} {cs : List Char} (h : sep ∉ cs) : cutAt sep cs = (cs, []) := by
  have hall : ∀ c ∈ cs, decide (c ≠ sep) = true := by
    intro c hc
    apply decide_eq_true
    rintro rfl
    exact h hc
  rw [cutAt, List.takeWhile_eq_self_iff.mpr hall, List.dropWhile_eq_nil_iff.mpr hall]
  rfl

theorem cutAt_append {sep : Char} {cs : List Char} (h : sep ∉ cs) (ds : List Char) :
    cutAt sep (cs ++ sep :: ds) = (cs, ds) := by
  have hall : ∀ c ∈ cs, decide (c ≠ sep) = true := by
    intro c hc
    apply decide_eq_true
    rintro rfl
    exact h hc
  rw [cutAt, List.takeWhile_append_of_pos hall, List.dropWhile_append_of_pos hall]
  simp

def AllDigits (cs : List Char) : Prop := ∀ c ∈ cs, c.isDigit = true

theorem AllDigits.append {cs ds : List Char} (hcs : AllDigits cs) (hds : AllDigits ds) :
    AllDigits (cs ++ ds) := by
  intro c hc
  obtain hc | hc := List.mem_append.mp hc
  · exact hcs c hc
  · exact hds c hc

theorem allDigits_replicate (n : ℕ) : AllDigits (List.replicate n '0') := by
  intro c hc
  rw [List.eq_of_mem_replicate hc]
  decide

theorem AllDigits.not_mem {cs : List Char} (h : AllDigits cs) {c : Char} (hc : c.isDigit = false) :
    c ∉ cs := by
  intro hmem
  rw [h c hmem] at hc
  cases hc

/-- The text of an exponent, with its sign. -/
def SignedDigits (cs : List Char) : Prop :=
  ∃ ds, (cs = '+' :: ds ∨ cs = '-' :: ds) ∧ ds ≠ [] ∧ AllDigits ds

/-- The number that such a text is read as; no text is zero. -/
def exponentOf (cs : List Char) : Int :=
  if cs.head? = some '-' then -(Nat.ofDigitChars 10 (cs.drop 1) 0 : Int)
  else Nat.ofDigitChars 10 (cs.drop 1) 0

/-- The number that a decimal text without a sign denotes. -/
def unsignedValue (cs : List Char) : ℚ :=
  let (mantissa, exponent) := cutAt 'e' cs
  let (whole, fraction) := cutAt '.' mantissa
  Nat.ofDigitChars 10 (whole ++ fraction) 0 * 10 ^ (exponentOf exponent - fraction.length)

/-- The number that a decimal text denotes. -/
def textValue (cs : List Char) : ℚ :=
  if cs.head? = some '-' then -unsignedValue (cs.drop 1) else unsignedValue cs

def mantissaText (whole fraction : List Char) : List Char :=
  whole ++ if fraction = [] then [] else '.' :: fraction

def layoutText (whole fraction exponent : List Char) : List Char :=
  mantissaText whole fraction ++ if exponent = [] then [] else 'e' :: exponent

namespace Shortest

/-- The text of ryu for numbers with a large exponent. -/
def ryuExponential (x : Shortest) : List Char :=
  layoutText (x.digitChars.take 1) (x.digitChars.drop 1)
    ((if 0 ≤ x.point - 1 then '+' else '-') :: Nat.toDigits 10 (x.point - 1).natAbs)

/-- The text of ryu, which writes small exponents out. -/
def ryuText (x : Shortest) : List Char :=
  if -5 ≤ x.point - 1 ∧ x.point - 1 ≤ 15 then x.pythonDecimal else x.ryuExponential

/-- The digits of the number, with zeros around them, where the point and the exponent say. -/
structure Layout (x : Shortest) (whole fraction exponent : List Char) : Prop where
  whole_ne_nil : whole ≠ []
  whole_digits : AllDigits whole
  whole_head : whole = ['0'] ∨ whole.head? ≠ some '0'
  fraction_digits : AllDigits fraction
  exponent_digits : exponent = [] ∨ SignedDigits exponent
  marked : fraction ≠ [] ∨ exponent ≠ []
  spelled : ∃ a b : ℕ,
    whole ++ fraction = List.replicate a '0' ++ (x.digitChars ++ List.replicate b '0') ∧
      whole.length + exponentOf exponent - a = x.point

variable (x : Shortest)

theorem digits_ne_nil : x.digits ≠ [] := by
  obtain ⟨hdigits, -⟩ | ⟨hne, -⟩ := x.normal
  · rw [hdigits]
    exact List.cons_ne_nil _ _
  · exact hne

theorem digitChars_ne_nil : x.digitChars ≠ [] := by
  rw [digitChars, ne_eq, List.map_eq_nil_iff]
  exact x.digits_ne_nil

theorem length_digitChars : x.digitChars.length = x.digits.length := List.length_map _

theorem isDigit_digitChar (d : Fin 10) : (digitChar d.val).isDigit = true := by
  revert d
  decide

theorem allDigits_digitChars : AllDigits x.digitChars := by
  intro c hc
  obtain ⟨d, -, rfl⟩ := List.mem_map.mp hc
  exact isDigit_digitChar d

theorem digitChar_eq_zero_iff (d : Fin 10) : digitChar d.val = '0' ↔ d = 0 := by
  revert d
  decide

/-- Of a number that is not zero, neither end is a zero. -/
theorem ends_of_ne_zero (hzero : x.digits ≠ [0]) :
    x.digitChars.head? ≠ some '0' ∧ x.digitChars.getLast? ≠ some '0' := by
  obtain ⟨hdigits, -⟩ | ⟨-, hhead, hlast⟩ := x.normal
  · exact absurd hdigits hzero
  constructor
  · rw [digitChars, List.head?_map]
    intro h
    obtain ⟨d, hd, hchar⟩ := Option.map_eq_some_iff.mp h
    rw [(digitChar_eq_zero_iff d).mp hchar] at hd
    exact hhead hd
  · rw [digitChars, List.getLast?_map]
    intro h
    obtain ⟨d, hd, hchar⟩ := Option.map_eq_some_iff.mp h
    rw [(digitChar_eq_zero_iff d).mp hchar] at hd
    exact hlast hd

theorem point_pos_of_zero (hzero : x.digits = [0]) : x.point = 1 := by
  obtain ⟨-, hpoint⟩ | ⟨-, hhead, -⟩ := x.normal
  · exact hpoint
  · rw [hzero] at hhead
    exact absurd rfl hhead

theorem pythonDecimal_layout : ∃ whole fraction,
    x.pythonDecimal = layoutText whole fraction [] ∧ x.Layout whole fraction [] := by
  have hexponent : exponentOf [] = 0 := rfl
  have hlength := x.length_digitChars
  have hne := x.digitChars_ne_nil
  rw [pythonDecimal]
  split_ifs with hsmall hlong
  · -- The point stands before all digits.
    refine ⟨['0'], List.replicate (-x.point).toNat '0' ++ x.digitChars, ?_, ?_⟩
    · rw [layoutText, mantissaText, if_neg (List.append_ne_nil_of_right_ne_nil _ hne), if_pos rfl]
      simp
    · exact {
        whole_ne_nil := List.cons_ne_nil _ _
        whole_digits := by
          intro c hc
          rw [List.mem_singleton.mp hc]
          decide
        whole_head := .inl rfl
        fraction_digits := (allDigits_replicate _).append x.allDigits_digitChars
        exponent_digits := .inl rfl
        marked := .inl (List.append_ne_nil_of_right_ne_nil _ hne)
        spelled := by
          refine ⟨(-x.point).toNat + 1, 0, ?_, ?_⟩
          · rw [List.replicate_succ, List.replicate_zero, List.append_nil]
            rfl
          · rw [hexponent, List.length_singleton]
            omega }
  · -- It stands behind them, and behind zeros that fill the places up to it.
    refine ⟨x.digitChars ++ List.replicate (x.point.toNat - x.digits.length) '0', ['0'], ?_, ?_⟩
    · rw [layoutText, mantissaText, if_neg (List.cons_ne_nil _ _), if_pos rfl, List.append_nil]
    · exact {
        whole_ne_nil := List.append_ne_nil_of_left_ne_nil hne _
        whole_digits := x.allDigits_digitChars.append (allDigits_replicate _)
        whole_head := by
          by_cases hzero : x.digits = [0]
          · left
            rw [digitChars, hzero, x.point_pos_of_zero hzero]
            rfl
          · right
            rw [List.head?_append_of_ne_nil _ hne]
            exact (x.ends_of_ne_zero hzero).1
        fraction_digits := by
          intro c hc
          rw [List.mem_singleton.mp hc]
          decide
        exponent_digits := .inl rfl
        marked := .inl (List.cons_ne_nil _ _)
        spelled := by
          refine ⟨0, x.point.toNat - x.digits.length + 1, ?_, ?_⟩
          · rw [List.replicate_succ', List.replicate_zero, List.nil_append, List.append_assoc]
          · rw [hexponent, List.length_append, List.length_replicate, hlength]
            omega }
  · -- It stands between them.
    have hcut : x.point.toNat < x.digitChars.length := by omega
    refine ⟨x.digitChars.take x.point.toNat, x.digitChars.drop x.point.toNat, ?_, ?_⟩
    · have hrest : x.digitChars.drop x.point.toNat ≠ [] := by
        rw [ne_eq, List.drop_eq_nil_iff]
        omega
      rw [layoutText, mantissaText, if_neg hrest, if_pos rfl]
      simp
    · exact {
        whole_ne_nil := by
          rw [ne_eq, List.take_eq_nil_iff]
          rintro (hpoint | hnil)
          · omega
          · exact hne hnil
        whole_digits := fun c hc => x.allDigits_digitChars c (List.mem_of_mem_take hc)
        whole_head := by
          right
          have hzero : x.digits ≠ [0] := by
            intro hzero
            rw [hlength, hzero, x.point_pos_of_zero hzero] at hcut
            cases hcut with
            | step h => cases h
          rw [List.head?_take, if_neg (by omega)]
          exact (x.ends_of_ne_zero hzero).1
        fraction_digits := fun c hc => x.allDigits_digitChars c (List.mem_of_mem_drop hc)
        exponent_digits := .inl rfl
        marked := by
          left
          rw [ne_eq, List.drop_eq_nil_iff]
          omega
        spelled := by
          refine ⟨0, 0, ?_, ?_⟩
          · rw [List.take_append_drop, List.replicate_zero, List.nil_append, List.append_nil]
          · rw [hexponent, List.length_take]
            omega }

theorem exponential_layout {exponent : List Char} (hdigits : SignedDigits exponent)
    (hvalue : exponentOf exponent = x.point - 1) :
    x.Layout (x.digitChars.take 1) (x.digitChars.drop 1) exponent := by
  obtain ⟨c, cs, hchars⟩ := List.exists_cons_of_ne_nil x.digitChars_ne_nil
  have hall := x.allDigits_digitChars
  rw [hchars] at hall
  rw [hchars]
  exact {
    whole_ne_nil := List.cons_ne_nil _ _
    whole_digits := fun d hd => hall d (List.mem_of_mem_take hd)
    whole_head := by
      by_cases hc : c = '0'
      · left
        rw [hc]
        rfl
      · right
        intro h
        exact hc (Option.some.inj h)
    fraction_digits := fun d hd => hall d (List.mem_of_mem_drop hd)
    exponent_digits := .inr hdigits
    marked := by
      right
      obtain ⟨ds, rfl | rfl, -⟩ := hdigits
      · exact List.cons_ne_nil _ _
      · exact List.cons_ne_nil _ _
    spelled := by
      refine ⟨0, 0, ?_, ?_⟩
      · rw [List.take_append_drop, hchars, List.replicate_zero, List.nil_append, List.append_nil]
      · rw [hvalue]
        simp }

theorem allDigits_toDigits (n : ℕ) : AllDigits (Nat.toDigits 10 n) := fun _ hc =>
  Nat.isDigit_of_mem_toDigits (by decide) (by decide) hc

theorem exponentOf_sign {e : Int} (zeros : ℕ) :
    exponentOf ((if 0 ≤ e then '+' else '-') :: (List.replicate zeros '0' ++
      Nat.toDigits 10 e.natAbs)) = e := by
  have hread : Nat.ofDigitChars 10 (List.replicate zeros '0' ++ Nat.toDigits 10 e.natAbs) 0 =
      e.natAbs := by
    rw [Nat.ofDigitChars_append, Nat.ofDigitChars_replicate_zero, Nat.mul_zero,
      Nat.ofDigitChars_ten_toDigits]
  rw [exponentOf, List.drop_one, List.tail_cons, hread]
  by_cases hsign : 0 ≤ e
  · rw [if_pos hsign, if_neg (by simp)]
    omega
  · rw [if_neg hsign, if_pos List.head?_cons]
    omega

theorem signedDigits_sign (e : Int) (zeros : ℕ) :
    SignedDigits ((if 0 ≤ e then '+' else '-') :: (List.replicate zeros '0' ++
      Nat.toDigits 10 e.natAbs)) := by
  refine ⟨List.replicate zeros '0' ++ Nat.toDigits 10 e.natAbs, ?_, ?_, ?_⟩
  · split_ifs with hsign
    · exact .inl rfl
    · exact .inr rfl
  · exact List.append_ne_nil_of_right_ne_nil _ Nat.toDigits_ne_nil
  · exact (allDigits_replicate zeros).append (allDigits_toDigits _)

theorem exponentChars_eq (e : Int) : exponentChars e =
    (if 0 ≤ e then '+' else '-') :: (List.replicate (if e.natAbs < 10 then 1 else 0) '0' ++
      Nat.toDigits 10 e.natAbs) := by
  have hrepr : (toString e.natAbs).toList = Nat.toDigits 10 e.natAbs := Nat.toList_repr
  rw [exponentChars, hrepr]
  by_cases hneg : e < 0
  · rw [if_pos hneg, if_neg (not_le.mpr hneg)]
    split_ifs <;> rfl
  · rw [if_neg hneg, if_pos (not_lt.mp hneg)]
    split_ifs <;> rfl

/-- The text of Python without the sign is a layout. -/
theorem python_layout : ∃ whole fraction exponent,
    x.pythonRepr = String.ofList (x.sign ++ layoutText whole fraction exponent) ∧
      x.Layout whole fraction exponent := by
  rw [pythonRepr]
  split_ifs with hlarge
  · refine ⟨_, _, exponentChars (x.point - 1), ?_, x.exponential_layout ?_ ?_⟩
    · have hdrop : x.digitChars.drop 1 = [] ↔ x.digits.length = 1 := by
        have hlength := List.length_pos_of_ne_nil x.digits_ne_nil
        rw [List.drop_eq_nil_iff, x.length_digitChars]
        omega
      have hne : exponentChars (x.point - 1) ≠ [] := by
        rw [exponentChars_eq]
        exact List.cons_ne_nil _ _
      rw [pythonExponential, layoutText, mantissaText, if_neg hne]
      by_cases hone : x.digits.length = 1
      · rw [if_pos hone, if_pos (hdrop.mpr hone), hdrop.mpr hone]
        simp
      · rw [if_neg hone, if_neg (mt hdrop.mp hone)]
        simp
    · rw [exponentChars_eq]
      exact signedDigits_sign _ _
    · rw [exponentChars_eq]
      exact exponentOf_sign _
  · obtain ⟨whole, fraction, htext, hlayout⟩ := x.pythonDecimal_layout
    exact ⟨whole, fraction, [], by rw [htext], hlayout⟩

/-- So is the text of ryu. -/
theorem ryu_layout : ∃ whole fraction exponent,
    x.ryuText = layoutText whole fraction exponent ∧ x.Layout whole fraction exponent := by
  rw [ryuText]
  split_ifs with hsmall
  · obtain ⟨whole, fraction, htext, hlayout⟩ := x.pythonDecimal_layout
    exact ⟨whole, fraction, [], htext, hlayout⟩
  · exact ⟨_, _, _, rfl, x.exponential_layout (signedDigits_sign _ 0) (exponentOf_sign 0)⟩

/-! ## What a layout says -/

namespace Layout

variable {x} {whole fraction exponent : List Char} (h : x.Layout whole fraction exponent)

include h

theorem cut_point : cutAt '.' (mantissaText whole fraction) = (whole, fraction) := by
  have hpoint : '.' ∉ whole := h.whole_digits.not_mem (by decide)
  rw [mantissaText]
  split_ifs with hnil
  · rw [List.append_nil, hnil]
    exact cutAt_of_not_mem hpoint
  · exact cutAt_append hpoint fraction

theorem cut_exponent : cutAt 'e' (layoutText whole fraction exponent) =
    (mantissaText whole fraction, exponent) := by
  have hletter : 'e' ∉ mantissaText whole fraction := by
    have hwhole : 'e' ∉ whole := h.whole_digits.not_mem (by decide)
    have hfraction : 'e' ∉ fraction := h.fraction_digits.not_mem (by decide)
    rw [mantissaText]
    split_ifs with hnil
    · rwa [List.append_nil]
    · simp [hwhole, hfraction]
  rw [layoutText]
  split_ifs with hnil
  · rw [List.append_nil, hnil]
    exact cutAt_of_not_mem hletter
  · exact cutAt_append hletter exponent

/-- The value of a text depends on the number only. -/
theorem unsignedValue_eq : unsignedValue (layoutText whole fraction exponent) =
    Nat.ofDigitChars 10 x.digitChars 0 * 10 ^ (x.point - x.digits.length) := by
  obtain ⟨a, b, hspelled, hpoint⟩ := h.spelled
  have hdigits : Nat.ofDigitChars 10 (whole ++ fraction) 0 =
      10 ^ b * Nat.ofDigitChars 10 x.digitChars 0 := by
    rw [hspelled, Nat.ofDigitChars_append, Nat.ofDigitChars_replicate_zero, Nat.mul_zero,
      Nat.ofDigitChars_append, Nat.ofDigitChars_replicate_zero]
  have hlengths := congrArg List.length hspelled
  simp only [List.length_append, List.length_replicate, x.length_digitChars] at hlengths
  have hplaces : exponentOf exponent - fraction.length = -(b : Int) + (x.point - x.digits.length) := by
    omega
  have hten : (10 : ℚ) ≠ 0 := by norm_num
  rw [unsignedValue, h.cut_exponent]
  simp only [h.cut_point]
  rw [hdigits, hplaces, zpow_add₀ hten, zpow_neg, zpow_natCast, Nat.cast_mul, Nat.cast_pow,
    Nat.cast_ofNat, mul_comm ((10 : ℚ) ^ b), mul_assoc, mul_inv_cancel_left₀ (pow_ne_zero b hten)]

theorem head_layoutText : ∃ c ∈ (layoutText whole fraction exponent).head?, c.isDigit = true := by
  obtain ⟨c, cs, hwhole⟩ := List.exists_cons_of_ne_nil h.whole_ne_nil
  refine ⟨c, ?_, h.whole_digits c (by rw [hwhole]; exact List.mem_cons_self)⟩
  rw [layoutText, mantissaText, hwhole]
  rfl

end Layout

end Shortest

end CapsuleMesh.Library
