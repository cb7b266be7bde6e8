import CapsuleMesh.Library.JcsTexts
import CapsuleMesh.Library.KeySort
import CapsuleMesh.Python.Canonical

/-!
# Values of the browser

Values as `JSON.parse` returns them.  Strings are lists of UTF-16 code units, paired or not, and
`TextEncoder` puts U+FFFD in the place of each unit that has no partner.
-/

namespace CapsuleMesh.Browser

open Library

abbrev CodeUnit := Fin 65536

abbrev JsString := List CodeUnit

instance lawfulBEq_jsString : LawfulBEq JsString := inferInstance

inductive JsValue where
  | null
  | bool (b : Bool)
  | int (n : Int)
  /-- A number that is no integer. -/
  | fraction (text : String)
  | str (s : JsString)
  | arr (elems : List JsValue)
  | obj (members : List (JsString × JsValue))

/-! ## Strings -/

def isHigh (u : CodeUnit) : Bool := 0xd800 ≤ u.val && u.val < 0xdc00

def isLow (u : CodeUnit) : Bool := 0xdc00 ≤ u.val && u.val < 0xe000

/-- The character of a unit that has no partner. -/
def unitChar (u : CodeUnit) : Char :=
  if isHigh u || isLow u then Char.ofNat 0xfffd else Char.ofNat u.val

def pairChar (u v : CodeUnit) : Char :=
  Char.ofNat (0x10000 + 0x400 * (u.val - 0xd800) + (v.val - 0xdc00))

/-- The characters that `TextEncoder` sees. -/
def scalarsOf : JsString → List Char
  | [] => []
  | [u] => [unitChar u]
  | u :: v :: rest =>
      if isHigh u && isLow v then pairChar u v :: scalarsOf rest
      else unitChar u :: scalarsOf (v :: rest)

/-- `new TextEncoder().encode(s)`. -/
def utf8Bytes (s : JsString) : Python.Bytes := Python.utf8 (String.ofList (scalarsOf s))

/-- The unit of a character below 65536. -/
def charUnit (c : Char) : CodeUnit := Fin.ofNat 65536 c.toNat

/-- A string of the source. -/
def units (s : String) : JsString := s.toList.map charUnit

theorem scalarsOf_cons {u : CodeUnit} {rest : JsString}
    (h : isHigh u = false ∨ ∀ v ∈ rest.head?, isLow v = false) :
    scalarsOf (u :: rest) = unitChar u :: scalarsOf rest := by
  cases rest with
  | nil => rfl
  | cons v rest =>
      have hpair : ¬ (isHigh u && isLow v) = true := by
        obtain hu | hv := h
        · rw [hu]
          exact Bool.false_ne_true
        · rw [hv v rfl, Bool.and_false]
          exact Bool.false_ne_true
      rw [scalarsOf, if_neg hpair]

theorem scalarsOf_pair {u v : CodeUnit} (hu : isHigh u = true) (hv : isLow v = true)
    (rest : JsString) : scalarsOf (u :: v :: rest) = pairChar u v :: scalarsOf rest := by
  rw [scalarsOf, hu, hv]
  rfl

theorem scalarsOf_append {s : JsString} (hs : ∀ u ∈ s, isHigh u = false) (rest : JsString) :
    scalarsOf (s ++ rest) = s.map unitChar ++ scalarsOf rest := by
  induction s with
  | nil => rfl
  | cons u s ih =>
      obtain ⟨hu, hs⟩ := List.forall_mem_cons.mp hs
      rw [List.cons_append, scalarsOf_cons (.inl hu), ih hs, List.map_cons, List.cons_append]

/-- A string is read unit by unit, or by the pair. -/
theorem scalarsOf_induction {motive : JsString → Prop} (nil : motive [])
    (pair : ∀ u v rest, isHigh u = true → isLow v = true → motive rest → motive (u :: v :: rest))
    (single : ∀ u rest, (isHigh u = false ∨ ∀ v ∈ rest.head?, isLow v = false) → motive rest →
      motive (u :: rest)) : ∀ s, motive s
  | [] => nil
  | [u] => single u [] (.inr (by intro v hv; cases hv)) nil
  | u :: v :: rest => by
      by_cases hpair : (isHigh u && isLow v) = true
      · obtain ⟨hu, hv⟩ := Bool.and_eq_true_iff.mp hpair
        exact pair u v rest hu hv (scalarsOf_induction nil pair single rest)
      · apply single u (v :: rest) _ (scalarsOf_induction nil pair single (v :: rest))
        cases hu : isHigh u with
        | false => exact .inl rfl
        | true =>
          right
          rintro _ ⟨⟩
          cases hv : isLow v with
          | false => rfl
          | true =>
            rw [hu, hv] at hpair
            exact absurd rfl hpair

theorem toNat_ofNat {n : ℕ} (h : n.isValidChar) : (Char.ofNat n).toNat = n := by
  rw [Char.ofNat, dif_pos h]
  rfl

theorem toNat_charUnit {c : Char} (h : c.toNat < 65536) : (charUnit c).val = c.toNat :=
  Nat.mod_eq_of_lt h

theorem unitChar_charUnit {c : Char} (h : c.toNat < 0xd800) : unitChar (charUnit c) = c := by
  have hval := toNat_charUnit (c := c) (by omega)
  have hplain : (isHigh (charUnit c) || isLow (charUnit c)) = false := by
    simp only [isHigh, isLow, hval]
    simp
    omega
  rw [unitChar, hplain, if_neg Bool.false_ne_true, hval, Char.ofNat_toNat]

/-- The characters of RFC 8785's words and marks are below the surrogates. -/
theorem scalarsOf_chars {cs : List Char} (h : ∀ c ∈ cs, c.toNat < 0xd800) (rest : JsString) :
    scalarsOf (cs.map charUnit ++ rest) = cs ++ scalarsOf rest := by
  have hhigh : ∀ u ∈ cs.map charUnit, isHigh u = false := by
    intro u hu
    obtain ⟨c, hc, rfl⟩ := List.mem_map.mp hu
    have hval := toNat_charUnit (c := c) (by have := h c hc; omega)
    have hc := h c hc
    simp only [isHigh, hval]
    simp
    omega
  rw [scalarsOf_append hhigh, List.map_map]
  congr 1
  have hid : ∀ c ∈ cs, (unitChar ∘ charUnit) c = id c := fun c hc => unitChar_charUnit (h c hc)
  rw [List.map_congr_left hid, List.map_id]

theorem toNat_unitChar {u : CodeUnit} (h : (isHigh u || isLow u) = false) :
    (unitChar u).toNat = u.val := by
  have hvalid : Nat.isValidChar u.val := by
    have hlt := u.isLt
    simp only [isHigh, isLow, Bool.or_eq_false_iff, Bool.and_eq_false_iff, decide_eq_false_iff_not]
      at h
    unfold Nat.isValidChar
    omega
  rw [unitChar, h, if_neg Bool.false_ne_true]
  exact toNat_ofNat hvalid

theorem toNat_pairChar {u v : CodeUnit} (hu : isHigh u = true) (hv : isLow v = true) :
    (pairChar u v).toNat = 0x10000 + 0x400 * (u.val - 0xd800) + (v.val - 0xdc00) := by
  simp only [isHigh, isLow, Bool.and_eq_true, decide_eq_true_eq] at hu hv
  have hvalid : Nat.isValidChar (0x10000 + 0x400 * (u.val - 0xd800) + (v.val - 0xdc00)) := by
    unfold Nat.isValidChar
    omega
  rw [pairChar, toNat_ofNat hvalid]

/-! ## Objects -/

/-- Members by the code units of their names, as `Object.keys(v).sort()` puts them. -/
abbrev sortedMembers {α : Type} (members : List (JsString × α)) : List (JsString × α) :=
  sortByKey members

/-- A value of the records: the names of an object are distinct, and its numbers are integers that
a double holds exactly. -/
inductive JsValue.Safe (limit : Int) : JsValue → Prop
  | null : Safe limit .null
  | bool (b : Bool) : Safe limit (.bool b)
  | int {n : Int} (h : -limit ≤ n ∧ n ≤ limit) : Safe limit (.int n)
  | str (s : JsString) : Safe limit (.str s)
  | arr {elems : List JsValue} (h : ∀ e ∈ elems, Safe limit e) : Safe limit (.arr elems)
  | obj {members : List (JsString × JsValue)} (hnames : (members.map Prod.fst).Nodup)
      (h : ∀ m ∈ members, Safe limit m.2) : Safe limit (.obj members)

namespace JsValue

mutual

/-- The value with the members of every object in order. -/
def arrange : JsValue → JsValue
  | .arr elems => .arr (arrangeElems elems)
  | .obj members => .obj (sortedMembers (arrangeMembers members))
  | v => v

def arrangeElems : List JsValue → List JsValue
  | [] => []
  | e :: es => e.arrange :: arrangeElems es

def arrangeMembers : List (JsString × JsValue) → List (JsString × JsValue)
  | [] => []
  | (k, v) :: ms => (k, v.arrange) :: arrangeMembers ms

end

/-- Equal but for the order of members. -/
def Same (v w : JsValue) : Prop := v.arrange = w.arrange

mutual

/-- The value as it is encoded: its strings as `TextEncoder` sees them. -/
def tree : JsValue → TextTree JsonWord Char
  | .null => .word .null
  | .bool b => .word (.bool b)
  | .int n => .word (.int n)
  | .fraction text => .word (.float text.toList)
  | .str s => .str (scalarsOf s)
  | .arr elems => .list (treeElems elems)
  | .obj members => .dict (treeMembers members)

def treeElems : List JsValue → List (TextTree JsonWord Char)
  | [] => []
  | e :: es => tree e :: treeElems es

def treeMembers : List (JsString × JsValue) → List (List Char × TextTree JsonWord Char)
  | [] => []
  | (k, v) :: ms => (scalarsOf k, tree v) :: treeMembers ms

end

theorem arrangeElems_eq_map (elems : List JsValue) : arrangeElems elems = elems.map arrange := by
  induction elems with
  | nil => rfl
  | cons e es ih => rw [arrangeElems, ih, List.map_cons]

theorem arrangeMembers_eq_map (members : List (JsString × JsValue)) :
    arrangeMembers members = members.map fun m => (m.1, m.2.arrange) := by
  induction members with
  | nil => rfl
  | cons m ms ih => rw [arrangeMembers, ih, List.map_cons]

theorem treeElems_eq_map (elems : List JsValue) : treeElems elems = elems.map tree := by
  induction elems with
  | nil => rfl
  | cons e es ih => rw [treeElems, ih, List.map_cons]

theorem treeMembers_eq_map (members : List (JsString × JsValue)) :
    treeMembers members = members.map fun m => (scalarsOf m.1, m.2.tree) := by
  induction members with
  | nil => rfl
  | cons m ms ih => rw [treeMembers, ih, List.map_cons]

end JsValue

end CapsuleMesh.Browser
