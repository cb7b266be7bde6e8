import CapsuleMesh.Python.Json
import Mathlib.Data.Rat.Floor
import Mathlib.Data.List.Sort

/-!
# Double-precision numbers

The arithmetic that the source does on floats, taken as given: which texts `float`
reads, how numbers compare and combine, and what `f"{v:.3f}"` prints.
-/

namespace CapsuleMesh.Python

structure Doubles where
  F : Type
  ofText : String → Option F
  ofInt : Int → Option F
  ofRepr : String → F
  lt : F → F → Bool
  add : F → F → F
  sub : F → F → F
  mul : F → F → F
  cast : Int → F
  floor : F → Int
  ceil : F → Int
  p50 : F
  p95 : F
  fixed3 : F → String

namespace Doubles

/-- `float(x)` under `except (TypeError, ValueError): None`.  An integer that is too
large raises an `OverflowError`, which is not caught. -/
def floatOrNone (D : Doubles) : Json → Py (Option D.F)
  | .null => .ok none
  | .bool b => .ok (some (D.cast (if b then 1 else 0)))
  | .int n =>
      match D.ofInt n with
      | some x => .ok (some x)
      | none => .error .overflowError
  | .float repr => .ok (some (D.ofRepr repr))
  | .str s => .ok (D.ofText s)
  | .arr _ => .ok none
  | .obj _ => .ok none

/-- `sorted(values)`. -/
def sorted (D : Doubles) (values : List D.F) : List D.F :=
  values.insertionSort fun a b => D.lt b a = false

/-- `values[i]`. -/
def at? (D : Doubles) (values : List D.F) (i : Int) : Py D.F :=
  match values[i.toNat]? with
  | some x => .ok x
  | none => .error .indexError

/-- `_percentile`, over an already sorted list. -/
def percentile (D : Doubles) (values : List D.F) (pct : D.F) : Py D.F :=
  match values with
  | [x] => .ok x
  | _ =>
      let k := D.mul (D.cast (values.length - 1)) pct
      let lo := D.floor k
      let hi := D.ceil k
      if lo = hi then D.at? values lo
      else do
        let below ← D.at? values lo
        let above ← D.at? values hi
        return D.add (D.mul below (D.sub (D.cast hi) k)) (D.mul above (D.sub k (D.cast lo)))

end Doubles

/-- Three digits after the point, the last one rounded half to even. -/
def fixed3OfRat (q : ℚ) : String :=
  let scaled := |q| * 1000
  let down := scaled.floor.toNat
  let rest := scaled - down
  let n := if rest < 1 / 2 ∨ (rest = 1 / 2 ∧ down % 2 = 0) then down else down + 1
  let digits := toString (n % 1000)
  (if q < 0 then "-" else "") ++ toString (n / 1000) ++ "." ++
    "".pushn '0' (3 - digits.length) ++ digits

end CapsuleMesh.Python
