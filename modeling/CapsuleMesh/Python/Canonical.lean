import CapsuleMesh.Python.Bytes
import Mathlib.Data.List.Sort

/-!
# Canonical texts

`json.dumps(x, sort_keys=True, separators=(",", ":"), ensure_ascii=True).encode()` and
`bytes.hex()`, with what reads them back.
-/

namespace CapsuleMesh.Python

/-- `",".join(texts)`. -/
def commaJoin : List String → String
  | [] => ""
  | [text] => text
  | text :: texts => text ++ "," ++ commaJoin texts

mutual

/-- `json.dumps(x, sort_keys=True, separators=(",", ":"))`. -/
def Json.canonical : Json → String
  | .null => "null"
  | .bool b => if b then "true" else "false"
  | .int n => toString n
  | .float repr => dumpsFloat repr
  | .str s => dumpsStr s
  | .arr elems => "[" ++ commaJoin (Json.canonicalElems elems) ++ "]"
  | .obj members =>
      let sorted := (Json.canonicalMembers members).insertionSort fun a b => a.1 ≤ b.1
      "\x7b" ++ commaJoin (sorted.map fun m => dumpsStr m.1 ++ ":" ++ m.2) ++ "\x7d"

def Json.canonicalElems : List Json → List String
  | [] => []
  | e :: es => e.canonical :: Json.canonicalElems es

/-- The keys with the texts of their values. -/
def Json.canonicalMembers : List (String × Json) → List (String × String)
  | [] => []
  | (k, v) :: ms => (k, v.canonical) :: Json.canonicalMembers ms

end

/-- `_jcs`. -/
def jcs (j : Json) : Bytes := utf8 j.canonical

theorem toList_loop_eq (bs : ByteArray) (i : ℕ) (r : List UInt8) :
    ByteArray.toList.loop bs i r = r.reverse ++ bs.data.toList.drop i := by
  induction h : bs.size - i generalizing i r with
  | zero =>
      have hsize : bs.data.toList.length ≤ i := by
        rw [Array.length_toList]
        change bs.size ≤ i
        omega
      unfold ByteArray.toList.loop
      rw [if_neg (by omega), List.drop_eq_nil_of_le hsize, List.append_nil]
  | succ n ih =>
      have hi : i < bs.size := by omega
      have hlength : i < bs.data.toList.length := by simpa using hi
      unfold ByteArray.toList.loop
      rw [if_pos hi, ih (i + 1) _ (by omega), List.drop_eq_getElem_cons hlength]
      simp [ByteArray.get!, hi]

theorem utf8_injective : Function.Injective utf8 := by
  intro s t h
  have hdata : s.toUTF8.data.toList = t.toUTF8.data.toList := by
    simpa [utf8, ByteArray.toList, toList_loop_eq] using h
  have hbytes : s.toUTF8 = t.toUTF8 := by
    ext1
    exact Array.toList_inj.mp hdata
  exact String.toByteArray_inj.mp hbytes

/-! ## Hexadecimal texts -/

def hexOfByte (b : UInt8) : List Char := [hexChar (b.toNat / 16), hexChar (b.toNat % 16)]

/-- `bytes.hex()`. -/
def hexText (bytes : Bytes) : String := String.ofList (bytes.flatMap hexOfByte)

theorem hexChar_reads (n : Fin 16) :
    isHexSpace (hexChar n) = false ∧ hexDigit? (hexChar n) = some n.1 := by
  revert n
  decide

theorem fromHexFrom_hexOfByte (position : ℕ) (b : UInt8) (cs : List Char) :
    fromHexFrom position (hexOfByte b ++ cs) = (do
      let rest ← fromHexFrom (position + 2) cs
      return b :: rest) := by
  have hlt : b.toNat < 256 := b.toNat_lt
  obtain ⟨hspace, hhi⟩ := hexChar_reads ⟨b.toNat / 16, by omega⟩
  obtain ⟨-, hlo⟩ := hexChar_reads ⟨b.toNat % 16, by omega⟩
  have hbyte : UInt8.ofNat (16 * (b.toNat / 16) + b.toNat % 16) = b := by
    rw [Nat.div_add_mod]
    exact UInt8.ofNat_toNat
  rw [hexOfByte, List.cons_append, List.cons_append, List.nil_append]
  conv_lhs => unfold fromHexFrom
  rw [if_neg (by simpa using hspace)]
  split
  · simp_all
  · simp_all
  · rename_i hi d ds hfound hcons
    obtain ⟨rfl, rfl⟩ := List.cons.inj hcons
    obtain rfl := Option.some.inj (hfound.symm.trans hhi)
    rw [hlo]
    simp only [hbyte]

@[simp] theorem bytesFromHex_hexText (bytes : Bytes) : bytesFromHex (hexText bytes) = .ok bytes := by
  rw [bytesFromHex, hexText, String.toList_ofList]
  generalize 0 = position
  induction bytes generalizing position with
  | nil => rfl
  | cons b bytes ih =>
      rw [List.flatMap_cons, fromHexFrom_hexOfByte, ih]
      rfl

theorem hexText_injective : Function.Injective hexText := by
  intro as bs h
  have hread := congrArg bytesFromHex h
  rw [bytesFromHex_hexText, bytesFromHex_hexText] at hread
  exact Except.ok.inj hread

end CapsuleMesh.Python
