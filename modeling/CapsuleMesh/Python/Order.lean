import CapsuleMesh.Python.Equality
import Mathlib.Algebra.Order.Field.Rat
import Mathlib.Algebra.Order.Ring.Cast
import Mathlib.Data.List.Perm.Basic

/-!
# Order of values

`<` compares numbers with numbers, texts with texts and lists with lists, and raises on everything
else.  `sorted(xs, key=f)` is the stable sort by it.
-/

namespace CapsuleMesh.Python

/-- The rational that the `repr` of a finite float shows. -/
def decimalOfRepr (repr : String) : ℚ :=
  let (sign, digits) : ℚ × List Char :=
    match repr.toList with
    | '-' :: cs => (-1, cs)
    | cs => (1, cs)
  let (whole, rest) := takeDigits digits
  let fraction := match rest with
    | '.' :: cs => cs.takeWhile Char.isDigit
    | _ => []
  let mantissa := fraction.foldl (fun n c => 10 * n + (c.toNat - '0'.toNat)) whole
  let scale : ℚ := match rest.dropWhile (· ≠ 'e') with
    | 'e' :: '-' :: cs => 1 / 10 ^ (takeDigits cs).1
    | 'e' :: '+' :: cs => 10 ^ (takeDigits cs).1
    | _ => 1
  sign * mantissa / 10 ^ fraction.length * scale

namespace Json

def isNan : Json → Bool
  | float repr => repr = "nan"
  | _ => false

/-- The sign of an infinite number, zero for a finite one. -/
def infinity : Json → Int
  | float repr => if repr = "inf" then 1 else if repr = "-inf" then -1 else 0
  | _ => 0

/-- The decimal of a fraction lies between the same floats as the fraction, so that comparing by
it compares the floats. -/
def finiteValue (j : Json) : ℚ :=
  match j.asInt, j with
  | some n, _ => n
  | none, float repr => decimalOfRepr repr
  | none, _ => 0

def numLt (a b : Json) : Bool :=
  !a.isNan && !b.isNan && (decide (a.infinity < b.infinity) ||
    decide (a.infinity = b.infinity) && decide (a.finiteValue < b.finiteValue))

mutual

/-- `a < b`. -/
def lt : Json → Json → Py Bool
  | str s, str t => .ok (decide (s < t))
  | arr as, arr bs => ltElems as bs
  | a, b => if a.isNumber && b.isNumber then .ok (numLt a b) else .error .typeError

/-- Lists compare at their first difference. -/
def ltElems : List Json → List Json → Py Bool
  | _, [] => .ok false
  | [], _ :: _ => .ok true
  | a :: as, b :: bs => if pyEq a b then ltElems as bs else lt a b

end

theorem lt_int (m n : Int) : (int m).lt (int n) = .ok (decide (m < n)) := by
  simp [lt, isNumber, numLt, isNan, infinity, finiteValue, asInt, Int.cast_lt]

end Json

/-! ## Sorting -/

variable {α : Type}

/-- The new item goes before the first one that is not smaller. -/
def insertByKey (a : Json × α) : List (Json × α) → Py (List (Json × α))
  | [] => .ok [a]
  | b :: bs => do
      if ← b.1.lt a.1 then return b :: (← insertByKey a bs)
      else return a :: b :: bs

/-- `sorted(xs, key=f)` on the items with their keys. -/
def sortedByKey : List (Json × α) → Py (List (Json × α))
  | [] => .ok []
  | a :: as => do insertByKey a (← sortedByKey as)

theorem insertByKey_perm {a : Json × α} {bs sorted : List (Json × α)}
    (h : insertByKey a bs = .ok sorted) : sorted.Perm (a :: bs) := by
  induction bs generalizing sorted with
  | nil =>
      obtain rfl := Except.ok.inj h
      exact .refl _
  | cons b bs ih =>
      obtain ⟨less, -, h⟩ := Py.bind_eq_ok.mp h
      cases less with
      | false =>
        obtain rfl := Except.ok.inj h
        exact .refl _
      | true =>
        obtain ⟨rest, hrest, h⟩ := Py.bind_eq_ok.mp h
        obtain rfl := Except.ok.inj h
        apply ((ih hrest).cons b).trans
        exact .swap a b bs

theorem sortedByKey_perm {as sorted : List (Json × α)} (h : sortedByKey as = .ok sorted) :
    sorted.Perm as := by
  induction as generalizing sorted with
  | nil =>
      obtain rfl := Except.ok.inj h
      exact .refl _
  | cons a as ih =>
      obtain ⟨rest, hrest, h⟩ := Py.bind_eq_ok.mp h
      exact (insertByKey_perm h).trans ((ih hrest).cons a)

/-- The items do not matter to a sort by their keys. -/
theorem insertByKey_map {β : Type} (f : α → β) (a : Json × α) (bs : List (Json × α)) :
    insertByKey (a.1, f a.2) (bs.map fun b => (b.1, f b.2)) =
      (insertByKey a bs).map fun sorted => sorted.map fun b => (b.1, f b.2) := by
  induction bs with
  | nil => rfl
  | cons b bs ih =>
      rw [List.map_cons, insertByKey, insertByKey, ih]
      cases b.1.lt a.1 with
      | error e => rfl
      | ok less =>
        cases less with
        | false => rfl
        | true => cases insertByKey a bs <;> rfl

theorem sortedByKey_map {β : Type} (f : α → β) (as : List (Json × α)) :
    sortedByKey (as.map fun a => (a.1, f a.2)) =
      (sortedByKey as).map fun sorted => sorted.map fun a => (a.1, f a.2) := by
  induction as with
  | nil => rfl
  | cons a as ih =>
      rw [List.map_cons, sortedByKey, sortedByKey, ih]
      cases sortedByKey as with
      | error e => rfl
      | ok sorted => exact insertByKey_map f a sorted

/-- A sort raises or returns by the keys alone. -/
theorem sortedByKey_returns_congr {β : Type} {as : List (Json × α)} {bs : List (Json × β)}
    (h : as.map Prod.fst = bs.map Prod.fst) :
    (∃ sorted, sortedByKey as = .ok sorted) ↔ ∃ sorted, sortedByKey bs = .ok sorted := by
  have hunit : ∀ {γ : Type} (cs : List (Json × γ)), (∃ sorted, sortedByKey cs = .ok sorted) ↔
      ∃ sorted, sortedByKey ((cs.map Prod.fst).map fun k => (k, ())) = .ok sorted := by
    intro γ cs
    rw [List.map_map]
    have hmap := sortedByKey_map (fun _ => ()) cs
    rw [show (fun k => (k, ())) ∘ Prod.fst = fun c : Json × γ => (c.1, ()) from rfl, hmap]
    cases sortedByKey cs <;> simp [Except.map]
  rw [hunit as, hunit bs, h]

example : (do return (← sortedByKey [(.int 2, 'a'), (.bool true, 'b'), (.float "0.5", 'c'),
    (.int 1, 'd')]).map Prod.snd : Py (List Char)) = .ok ['c', 'b', 'd', 'a'] := by decide +kernel

end CapsuleMesh.Python
