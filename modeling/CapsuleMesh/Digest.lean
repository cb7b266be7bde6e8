import CapsuleMesh.Python.Json
import Mathlib.Data.Nat.Pairing
import Mathlib.Logic.Equiv.List

/-!
# The digest of a JSON value

`agent_action_capsule.canonical.json_digest` is SHA-256 over the JCS form of a
value: it exists unless the value holds a float or an integer outside
`±(2^53 - 1)`, and it determines what stands at every path.  `codeDigest` is a
function with these two properties.
-/

namespace CapsuleMesh

open Python

inductive Step where
  | key (k : String)
  | index (i : ℕ)

/-- The scalar at a path. -/
def leafAt : List Step → Json → Option Json
  | [], .arr _ => none
  | [], .obj _ => none
  | [], j => some j
  | .key k :: path, .obj members => (members.lookup k).bind (leafAt path)
  | .index i :: path, .arr elems => elems[i]?.bind (leafAt path)
  | _ :: _, _ => none

mutual

/-- No float and no unsafe integer. -/
def digestible : Json → Bool
  | .int n => -(2 ^ 53 - 1) ≤ n ∧ n ≤ 2 ^ 53 - 1
  | .float _ => false
  | .arr elems => digestibleElems elems
  | .obj members => digestibleMembers members
  | _ => true

def digestibleElems : List Json → Bool
  | [] => true
  | e :: es => digestible e && digestibleElems es

def digestibleMembers : List (String × Json) → Bool
  | [] => true
  | (_, v) :: ms => digestible v && digestibleMembers ms

end

/-- What the callers of `json_digest` rely on. -/
structure DigestContract (jsonDigest : Json → Option String) : Prop where
  isSome : ∀ j, (jsonDigest j).isSome = digestible j
  leaf : ∀ {a b digest}, jsonDigest a = some digest → jsonDigest b = some digest →
    ∀ path, leafAt path a = leafAt path b

/-! ## A digest without collisions -/

def codeStr (s : String) : ℕ := Encodable.encode (s.toList.map Char.toNat)

mutual

def code : Json → ℕ
  | .null => Nat.pair 0 0
  | .bool b => Nat.pair 1 b.toNat
  | .int n => Nat.pair 2 (Encodable.encode n)
  | .float repr => Nat.pair 3 (codeStr repr)
  | .str s => Nat.pair 4 (codeStr s)
  | .arr elems => Nat.pair 5 (codeElems elems)
  | .obj members => Nat.pair 6 (codeMembers members)

def codeElems : List Json → ℕ
  | [] => 0
  | e :: es => Nat.pair (code e) (codeElems es) + 1

def codeMembers : List (String × Json) → ℕ
  | [] => 0
  | (k, v) :: ms => Nat.pair (codeStr k) (Nat.pair (code v) (codeMembers ms)) + 1

end

theorem codeStr_injective : Function.Injective codeStr := by
  intro s t h
  have hlist : s.toList.map Char.toNat = t.toList.map Char.toNat := Encodable.encode_injective h
  have hchar : Function.Injective Char.toNat := by
    intro a b hab
    exact Char.ext (UInt32.toNat_inj.mp hab)
  exact String.toList_inj.mp (List.map_injective_iff.mpr hchar hlist)

mutual

theorem code_injective : ∀ a b : Json, code a = code b → a = b
  | .arr es, b, h => by
      cases b <;> simp only [code, Nat.pair_eq_pair] at h
      case arr es' => rw [codeElems_injective es es' h.2]
      all_goals exact absurd h.1 (by decide)
  | .obj ms, b, h => by
      cases b <;> simp only [code, Nat.pair_eq_pair] at h
      case obj ms' => rw [codeMembers_injective ms ms' h.2]
      all_goals exact absurd h.1 (by decide)
  | .null, b, h => by
      cases b <;> simp only [code, Nat.pair_eq_pair] at h
      case null => rfl
      all_goals exact absurd h.1 (by decide)
  | .bool x, b, h => by
      cases b <;> simp only [code, Nat.pair_eq_pair] at h
      case bool y => cases x <;> cases y <;> first | rfl | exact absurd h.2 (by decide)
      all_goals exact absurd h.1 (by decide)
  | .int x, b, h => by
      cases b <;> simp only [code, Nat.pair_eq_pair] at h
      case int y => rw [Encodable.encode_injective h.2]
      all_goals exact absurd h.1 (by decide)
  | .float x, b, h => by
      cases b <;> simp only [code, Nat.pair_eq_pair] at h
      case float y => rw [codeStr_injective h.2]
      all_goals exact absurd h.1 (by decide)
  | .str x, b, h => by
      cases b <;> simp only [code, Nat.pair_eq_pair] at h
      case str y => rw [codeStr_injective h.2]
      all_goals exact absurd h.1 (by decide)

theorem codeElems_injective : ∀ as bs : List Json, codeElems as = codeElems bs → as = bs
  | [], [], _ => rfl
  | [], _ :: _, h => absurd h (by simp [codeElems])
  | _ :: _, [], h => absurd h (by simp [codeElems])
  | a :: as, b :: bs, h => by
      simp only [codeElems, Nat.add_right_cancel_iff, Nat.pair_eq_pair] at h
      rw [code_injective a b h.1, codeElems_injective as bs h.2]

theorem codeMembers_injective :
    ∀ ms ns : List (String × Json), codeMembers ms = codeMembers ns → ms = ns
  | [], [], _ => rfl
  | [], _ :: _, h => absurd h (by simp [codeMembers])
  | _ :: _, [], h => absurd h (by simp [codeMembers])
  | (k, a) :: ms, (l, b) :: ns, h => by
      simp only [codeMembers, Nat.add_right_cancel_iff, Nat.pair_eq_pair] at h
      rw [codeStr_injective h.1, code_injective a b h.2.1, codeMembers_injective ms ns h.2.2]

end

def codeDigest (j : Json) : Option String :=
  if digestible j then some (String.ofList (List.replicate (code j) '0')) else none

theorem codeDigest_contract : DigestContract codeDigest where
  isSome j := by
    unfold codeDigest
    split_ifs with h <;> simp [h]
  leaf {a b digest} ha hb path := by
    unfold codeDigest at ha hb
    split_ifs at ha hb
    have hlist := congrArg String.toList (Option.some.inj (ha.trans hb.symm))
    have hcode : code a = code b := by
      simpa using congrArg List.length hlist
    rw [code_injective a b hcode]

end CapsuleMesh
