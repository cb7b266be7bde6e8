import CapsuleMesh.Library.FixedWidth

/-!
# Texts of floating-point numbers

A double is printed from its shortest digits that read back as the same number.  Python's `repr`
and Rust's `Display` place the decimal point and the zeros around those digits.
-/

namespace CapsuleMesh.Library

/-- The shortest digits of a finite double, with the decimal point in front of them moved by
`point` places: `0.d₁d₂… · 10 ^ point`.  Zero has one digit. -/
structure Shortest where
  negative : Bool
  digits : List (Fin 10)
  point : Int
  normal : digits = [0] ∧ point = 1 ∨ digits ≠ [] ∧ digits.head? ≠ some 0 ∧ digits.getLast? ≠ some 0

namespace Shortest

variable (x : Shortest)

/-- The exponent of the first digit is from -4 to 15. -/
def Ordinary : Prop := -4 ≤ x.point - 1 ∧ x.point - 1 ≤ 15

instance : Decidable x.Ordinary := inferInstanceAs (Decidable (_ ∧ _))

def digitChars : List Char := x.digits.map fun d => digitChar d.val

def sign : List Char := if x.negative then ['-'] else []

/-- The exponent that Python writes, with two digits at least. -/
def exponentChars (e : Int) : List Char :=
  (if e < 0 then ['-'] else ['+']) ++ (if e.natAbs < 10 then ['0'] else []) ++
    (toString e.natAbs).toList

def pythonDecimal : List Char :=
  if x.point ≤ 0 then
    ['0', '.'] ++ List.replicate (-x.point).toNat '0' ++ x.digitChars
  else if x.digits.length ≤ x.point.toNat then
    x.digitChars ++ List.replicate (x.point.toNat - x.digits.length) '0' ++ ['.', '0']
  else
    x.digitChars.take x.point.toNat ++ ['.'] ++ x.digitChars.drop x.point.toNat

def pythonExponential : List Char :=
  x.digitChars.take 1 ++ (if x.digits.length = 1 then [] else ['.']) ++ x.digitChars.drop 1 ++
    ['e'] ++ exponentChars (x.point - 1)

/-- `repr` of the number in Python. -/
def pythonRepr : String :=
  String.ofList (x.sign ++
    if x.point ≤ -4 ∨ 16 < x.point then x.pythonExponential else x.pythonDecimal)

/-- `digits_to_dec_str` of Rust's formatting, with no least number of places. -/
def digitsToDecStr : List Char :=
  if x.point ≤ 0 then
    ['0', '.'] ++ List.replicate (-x.point).toNat '0' ++ x.digitChars
  else if x.point.toNat < x.digits.length then
    x.digitChars.take x.point.toNat ++ ['.'] ++ x.digitChars.drop x.point.toNat
  else
    x.digitChars ++ List.replicate (x.point.toNat - x.digits.length) '0'

def rustDecimal : List Char := if x.digits = [0] then ['0'] else x.digitsToDecStr

/-- `Display` of the number in Rust. -/
def rustDisplay : String := String.ofList (x.sign ++ x.rustDecimal)

/-- The characters by which a text is seen to be that of a float. -/
def isFloatMark (c : Char) : Bool := c = '.' || c = 'e' || c = 'E'

@[simp] theorem isFloatMark_digitChar (d : Fin 10) : isFloatMark (digitChar d.val) = false := by
  revert d
  decide

theorem any_sign : x.sign.any isFloatMark = false := by
  cases h : x.negative <;> simp [sign, h, isFloatMark]

theorem any_digitChars : x.digitChars.any isFloatMark = false := by
  simp [digitChars]

/-- Rust prints the text of Python where that has a fraction, and leaves out the `.0` of an
integral number. -/
theorem pythonDecimal_eq :
    x.pythonDecimal =
      if x.rustDecimal.any isFloatMark then x.rustDecimal else x.rustDecimal ++ ['.', '0'] := by
  by_cases hzero : x.digits = [0]
  · have hpoint : x.point = 1 := by
      rcases x.normal with ⟨-, hpoint⟩ | ⟨-, hhead, -⟩
      · exact hpoint
      · rw [hzero] at hhead
        exact absurd rfl hhead
    rw [rustDecimal, if_pos hzero, pythonDecimal, digitChars, hzero, hpoint]
    decide
  rw [rustDecimal, if_neg hzero, pythonDecimal, digitsToDecStr]
  by_cases hsmall : x.point ≤ 0
  · have hmark : (['0', '.'] ++ List.replicate (-x.point).toNat '0' ++ x.digitChars).any
        isFloatMark = true := by simp [isFloatMark]
    rw [if_pos hsmall, if_pos hsmall, if_pos hmark]
  rw [if_neg hsmall, if_neg hsmall]
  by_cases hsplit : x.point.toNat < x.digits.length
  · have hmark : (x.digitChars.take x.point.toNat ++ ['.'] ++
        x.digitChars.drop x.point.toNat).any isFloatMark = true := by simp [isFloatMark]
    rw [if_neg (Nat.not_le_of_lt hsplit), if_pos hsplit, if_pos hmark]
  · have hmark : (x.digitChars ++ List.replicate (x.point.toNat - x.digits.length) '0').any
        isFloatMark = false := by
      rw [List.any_append, any_digitChars, Bool.false_or, List.any_eq_false]
      intro c hc
      rw [List.eq_of_mem_replicate hc]
      decide
    rw [if_pos (not_lt.mp hsplit), if_neg hsplit, hmark]
    rfl

end Shortest

end CapsuleMesh.Library
