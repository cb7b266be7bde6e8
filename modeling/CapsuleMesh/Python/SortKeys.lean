import Mathlib.Data.String.Basic
import CapsuleMesh.Library.KeySort
import CapsuleMesh.Python.Canonical

/-!
# A document and its canonical text

`json.loads` of a text that `json.dumps(x, sort_keys=True)` wrote is `x` with the members of
every dictionary in order.  Look-ups and canonical texts do not tell the two apart.
-/

namespace CapsuleMesh.Python

open Library

namespace Json

mutual

/-- The value with the members of every dictionary sorted. -/
def sortKeys : Json → Json
  | .arr elems => .arr (sortElems elems)
  | .obj members => .obj (sortByKey (sortMembers members))
  | j => j

def sortElems : List Json → List Json
  | [] => []
  | e :: es => e.sortKeys :: sortElems es

/-- The members with their values sorted. -/
def sortMembers : List (String × Json) → List (String × Json)
  | [] => []
  | (k, v) :: ms => (k, v.sortKeys) :: sortMembers ms

end

theorem sortElems_eq_map (elems : List Json) : sortElems elems = elems.map sortKeys := by
  induction elems with
  | nil => rfl
  | cons e es ih => rw [sortElems, ih, List.map_cons]

theorem sortMembers_eq_map (members : List (String × Json)) :
    sortMembers members = members.map fun m => (m.1, m.2.sortKeys) := by
  induction members with
  | nil => rfl
  | cons m ms ih => rw [sortMembers, ih, List.map_cons]

theorem canonicalMembers_eq_map (members : List (String × Json)) :
    canonicalMembers members = members.map fun m => (m.1, m.2.canonical) := by
  induction members with
  | nil => rfl
  | cons m ms ih => rw [canonicalMembers, ih, List.map_cons]

/-- The members of a sorted dictionary. -/
def sorted (members : List (String × Json)) : List (String × Json) := sortByKey (sortMembers members)

theorem sortKeys_obj (members : List (String × Json)) :
    (obj members).sortKeys = obj (sorted members) := by rw [sortKeys, sorted]

@[simp] theorem lookup_sorted (members : List (String × Json)) (key : String) :
    (sorted members).lookup key = (members.lookup key).map sortKeys := by
  rw [sorted, lookup_sortByKey, sortMembers_eq_map]
  induction members with
  | nil => rfl
  | cons m ms ih =>
      rw [List.map_cons, List.lookup_cons, List.lookup_cons, ih]
      cases key == m.1 <;> rfl

theorem filter_sorted (keep : String → Bool) (members : List (String × Json)) :
    (sorted members).filter (fun m => keep m.1) = sorted (members.filter fun m => keep m.1) := by
  rw [sorted, filter_sortByKey, sorted, sortMembers_eq_map, sortMembers_eq_map, List.filter_map]
  rfl

mutual

theorem canonical_sortKeys : ∀ j : Json, j.sortKeys.canonical = j.canonical
  | .null | .bool _ | .int _ | .float _ | .str _ => by simp only [sortKeys]
  | .arr elems => by rw [sortKeys, canonical, canonical, canonicalElems_sortElems elems]
  | .obj members => by
      have hsorted : sortByKey (canonicalMembers (sortByKey (sortMembers members))) =
          sortByKey (canonicalMembers members) := by
        rw [canonicalMembers_eq_map, map_sortByKey, sortByKey_sortByKey, ← canonicalMembers_eq_map,
          canonicalMembers_sortMembers members]
      rw [sortKeys, canonical, canonical]
      exact congrArg (fun sorted : List (String × String) =>
        "\x7b" ++ commaJoin (sorted.map fun m => dumpsStr m.1 ++ ":" ++ m.2) ++ "\x7d") hsorted

theorem canonicalElems_sortElems : ∀ elems : List Json,
    canonicalElems (sortElems elems) = canonicalElems elems
  | [] => by rw [sortElems]
  | e :: es => by
      rw [sortElems, canonicalElems, canonicalElems, canonical_sortKeys e,
        canonicalElems_sortElems es]

theorem canonicalMembers_sortMembers : ∀ members : List (String × Json),
    canonicalMembers (sortMembers members) = canonicalMembers members
  | [] => by rw [sortMembers]
  | (k, v) :: ms => by
      rw [sortMembers, canonicalMembers, canonicalMembers, canonical_sortKeys v,
        canonicalMembers_sortMembers ms]

end

/-! ## Values that sorting leaves alone -/

@[simp] theorem sortKeys_null : null.sortKeys = null := by rw [sortKeys]; all_goals simp

@[simp] theorem sortKeys_str (s : String) : (str s).sortKeys = str s := by rw [sortKeys]; all_goals simp

@[simp] theorem sortKeys_int (n : Int) : (int n).sortKeys = int n := by rw [sortKeys]; all_goals simp

@[simp] theorem sortKeys_bool (b : Bool) : (bool b).sortKeys = bool b := by rw [sortKeys]; all_goals simp

@[simp] theorem sortKeys_ofStr? (s : Option String) : (ofStr? s).sortKeys = ofStr? s := by
  cases s <;> simp [ofStr?]

@[simp] theorem sortKeys_ofInt? (n : Option Int) : (ofInt? n).sortKeys = ofInt? n := by
  cases n <;> simp [ofInt?]

/-- Lists and dictionaries stay what they are, and nothing else changes. -/
theorem sortKeys_cases (j : Json) :
    j.sortKeys = j ∨ (∃ es es', j = arr es ∧ j.sortKeys = arr es') ∨
      ∃ ms ms', j = obj ms ∧ j.sortKeys = obj ms' := by
  cases j with
  | arr es => exact .inr (.inl ⟨es, _, rfl, by rw [sortKeys]⟩)
  | obj ms => exact .inr (.inr ⟨ms, _, rfl, sortKeys_obj ms⟩)
  | _ => exact .inl (by rw [sortKeys] <;> simp)

@[simp] theorem sortKeys_eq_str {j : Json} {s : String} : j.sortKeys = str s ↔ j = str s := by
  obtain h | ⟨es, es', rfl, h⟩ | ⟨ms, ms', rfl, h⟩ := sortKeys_cases j
  · rw [h]
  · simp [h]
  · simp [h]

@[simp] theorem sortKeys_eq_null {j : Json} : j.sortKeys = null ↔ j = null := by
  obtain h | ⟨es, es', rfl, h⟩ | ⟨ms, ms', rfl, h⟩ := sortKeys_cases j
  · rw [h]
  · simp [h]
  · simp [h]

@[simp] theorem pyEq_str_sortKeys (j : Json) (s : String) :
    j.sortKeys.pyEq (str s) = j.pyEq (str s) := by
  obtain h | ⟨es, es', rfl, h⟩ | ⟨ms, ms', rfl, h⟩ := sortKeys_cases j
  · rw [h]
  · rw [h]
    rfl
  · rw [h]
    rfl

@[simp] theorem pyEq_int_sortKeys (j : Json) (n : Int) :
    j.sortKeys.pyEq (int n) = j.pyEq (int n) := by
  obtain h | ⟨es, es', rfl, h⟩ | ⟨ms, ms', rfl, h⟩ := sortKeys_cases j
  · rw [h]
  · rw [h]
    rfl
  · rw [h]
    rfl

@[simp] theorem key_sortKeys (j : Json) : j.sortKeys.key = j.key := by
  obtain h | ⟨es, es', rfl, h⟩ | ⟨ms, ms', rfl, h⟩ := sortKeys_cases j
  · rw [h]
  · rw [h]
    rfl
  · rw [h]
    rfl

end Json

end CapsuleMesh.Python
