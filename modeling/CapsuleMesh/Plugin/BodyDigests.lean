import CapsuleMesh.Library.DecimalText
import CapsuleMesh.Plugin.PairKeys
import CapsuleMesh.Sidecar.BuildCapsule

/-!
# Digests of the same body

The plugin and the sidecar replace the floats of a body before they digest it.  On floats whose
texts need no exponent both write the same text, at any depth of the body.
-/

namespace CapsuleMesh.Plugin

open Library Python

mutual

/-- Each float of the value is an ordinary number. -/
def OrdinaryFloats : Json → Prop
  | .float repr => ∃ x : Shortest, x.Ordinary ∧ repr = x.pythonRepr
  | .obj members => OrdinaryMembers members
  | .arr elems => OrdinaryElems elems
  | _ => True

def OrdinaryElems : List Json → Prop
  | [] => True
  | e :: es => OrdinaryFloats e ∧ OrdinaryElems es

def OrdinaryMembers : List (String × Json) → Prop
  | [] => True
  | (_, value) :: ms => OrdinaryFloats value ∧ OrdinaryMembers ms

end

theorem pythonRepr_of_ordinary {x : Shortest} (hx : x.Ordinary) :
    x.pythonRepr = String.ofList (x.sign ++ x.pythonDecimal) := by
  have hpoint : ¬ (x.point ≤ -4 ∨ 16 < x.point) := by
    obtain ⟨hlow, hhigh⟩ := hx
    omega
  rw [Shortest.pythonRepr, if_neg hpoint]

theorem pythonReprF64_eq {crate : Crate} {x : Shortest} (hx : x.Ordinary)
    (hdisplay : crate.displayF64 x.pythonRepr = x.rustDisplay) :
    pythonReprF64 crate x.pythonRepr = x.pythonRepr := by
  have hmarks : x.rustDisplay.toList.any (fun c => c = '.' || c = 'e' || c = 'E') =
      x.rustDecimal.any Shortest.isFloatMark := by
    have hsign := x.any_sign
    rw [Shortest.rustDisplay, String.toList_ofList, List.any_append]
    exact (congrArg (· || _) hsign).trans (Bool.false_or _)
  rw [pythonReprF64, hdisplay, hmarks, pythonRepr_of_ordinary hx, x.pythonDecimal_eq]
  split_ifs with hmark
  · rfl
  · rw [Shortest.rustDisplay, ← List.append_assoc]
    exact String.ofList_append.symm

mutual

theorem stringifyFloats_eq {crate : Crate}
    (hdisplay : ∀ x : Shortest, x.Ordinary → crate.displayF64 x.pythonRepr = x.rustDisplay)
    (j : Json) (hj : OrdinaryFloats j) :
    stringifyFloats crate j = Sidecar.stringifyFloats j := by
  cases j with
  | float repr =>
      obtain ⟨x, hx, rfl⟩ := hj
      exact congrArg Json.str (pythonReprF64_eq hx (hdisplay x hx))
  | obj members => exact congrArg Json.obj (stringifyMembers_eq hdisplay members hj)
  | arr elems => exact congrArg Json.arr (stringifyElems_eq hdisplay elems hj)
  | null => rfl
  | bool b => rfl
  | int n => rfl
  | str s => rfl

theorem stringifyElems_eq {crate : Crate}
    (hdisplay : ∀ x : Shortest, x.Ordinary → crate.displayF64 x.pythonRepr = x.rustDisplay)
    (elems : List Json) (h : OrdinaryElems elems) :
    stringifyElems crate elems = Sidecar.stringifyElems elems := by
  cases elems with
  | nil => rfl
  | cons e es =>
      rw [stringifyElems, Sidecar.stringifyElems, stringifyFloats_eq hdisplay e h.1,
        stringifyElems_eq hdisplay es h.2]

theorem stringifyMembers_eq {crate : Crate}
    (hdisplay : ∀ x : Shortest, x.Ordinary → crate.displayF64 x.pythonRepr = x.rustDisplay)
    (members : List (String × Json)) (h : OrdinaryMembers members) :
    stringifyMembers crate members = Sidecar.stringifyMembers members := by
  cases members with
  | nil => rfl
  | cons m ms =>
      rw [stringifyMembers, Sidecar.stringifyMembers, stringifyFloats_eq hdisplay m.2 h.1,
        stringifyMembers_eq hdisplay ms h.2]

end

/-- On a body of ordinary numbers the two sides produce one value, and so one digest wherever
their libraries give one digest to a value. -/
theorem same_body_digest (crate : Crate) (digests : Sidecar.Digests) (j : Json)
    (hdisplay : ∀ x : Shortest, x.Ordinary → crate.displayF64 x.pythonRepr = x.rustDisplay)
    (hj : OrdinaryFloats j) :
    stringifyFloats crate j = Sidecar.stringifyFloats j ∧
      ∀ bytes, crate.decodeRecord bytes = some j →
        crate.jsonDigest (Sidecar.stringifyFloats j) =
            digests.jsonDigest (Sidecar.stringifyFloats j) →
          canonicalBodyDigest crate bytes = Sidecar.safeDigestJson digests j := by
  have hvalue := stringifyFloats_eq hdisplay j hj
  refine ⟨hvalue, fun bytes hdecode hdigest => ?_⟩
  rw [canonicalBodyDigest, hdecode, Sidecar.safeDigestJson, ← hdigest, ← hvalue]
  rfl

/-- The text of an integral number without its `.0`. -/
def withoutPointZero (repr : String) : String :=
  if repr.toList.drop (repr.toList.length - 2) = ['.', '0'] then
    String.ofList (repr.toList.take (repr.toList.length - 2))
  else repr

/-- A body with a fraction, a negative zero and the largest power of ten. -/
def sampleBody : Json :=
  .obj [("temperature", .float "0.7"),
    ("bias", .arr [.float "-0.0", .float "1000000000000000.0", .int 3])]

def displayingCrate : Crate :=
  { plainCrate with displayF64 := withoutPointZero, decodeRecord := fun _ => some sampleBody }

theorem digitChar_ne_zero {d : Fin 10} (hd : d ≠ 0) : digitChar d.val ≠ '0' := by
  revert hd
  revert d
  decide

/-- A fraction does not end in a zero. -/
theorem getLast?_rustDecimal {x : Shortest} (hmark : x.rustDecimal.any Shortest.isFloatMark) :
    x.rustDecimal.getLast? ≠ some '0' := by
  rcases x.normal with ⟨hzero, -⟩ | ⟨hne, hhead, hlast⟩
  · rw [Shortest.rustDecimal, if_pos hzero] at hmark
    exact absurd hmark (by decide)
  have hdigits : x.digits ≠ [0] := by
    intro hzero
    rw [hzero] at hhead
    exact hhead rfl
  have hchars : x.digitChars.getLast? ≠ some '0' := by
    rw [Shortest.digitChars, List.getLast?_map]
    intro h
    obtain ⟨d, hd, hchar⟩ := Option.map_eq_some_iff.mp h
    exact digitChar_ne_zero (fun hzero => hlast (hzero ▸ hd)) hchar
  have hsome : x.digitChars ≠ [] := by
    rw [Shortest.digitChars]
    exact fun h => hne (List.map_eq_nil_iff.mp h)
  rw [Shortest.rustDecimal, if_neg hdigits, Shortest.digitsToDecStr] at hmark ⊢
  split_ifs at hmark ⊢ with hsmall hsplit
  · rw [List.getLast?_append_of_ne_nil _ hsome]
    exact hchars
  · have hlength : x.digitChars.length = x.digits.length := List.length_map _
    rw [List.getLast?_append_of_ne_nil _ (by simp; omega), List.getLast?_drop,
      if_neg (by omega)]
    exact hchars
  · rw [List.any_append, x.any_digitChars, Bool.false_or, List.any_eq_true] at hmark
    obtain ⟨c, hc, hcmark⟩ := hmark
    rw [List.eq_of_mem_replicate hc] at hcmark
    exact absurd hcmark (by decide)

theorem displayingCrate_display (x : Shortest) (hx : x.Ordinary) :
    displayingCrate.displayF64 x.pythonRepr = x.rustDisplay := by
  rw [pythonRepr_of_ordinary hx, x.pythonDecimal_eq]
  change withoutPointZero _ = _
  rw [withoutPointZero, String.toList_ofList, Shortest.rustDisplay]
  by_cases hmark : x.rustDecimal.any Shortest.isFloatMark = true
  · rw [if_pos hmark]
    apply if_neg
    intro hend
    have hsplit := List.take_append_drop ((x.sign ++ x.rustDecimal).length - 2)
      (x.sign ++ x.rustDecimal)
    rw [hend] at hsplit
    have hlast : (x.sign ++ x.rustDecimal).getLast? = some '0' := by
      rw [← hsplit, List.getLast?_append_of_ne_nil _ (List.cons_ne_nil _ _)]
      rfl
    have hsome : x.rustDecimal ≠ [] := by
      rintro hnil
      rw [hnil] at hmark
      cases hmark
    rw [List.getLast?_append_of_ne_nil _ hsome] at hlast
    exact getLast?_rustDecimal hmark hlast
  · have hlength : (x.sign ++ (x.rustDecimal ++ ['.', '0'])).length - 2 =
        (x.sign ++ x.rustDecimal).length := by
      rw [← List.append_assoc, List.length_append]
      rfl
    rw [if_neg hmark, hlength, ← List.append_assoc, List.drop_left, if_pos rfl, List.take_left]

theorem sampleBody_ordinary : OrdinaryFloats sampleBody := by
  refine ⟨⟨⟨false, [7], 0, by decide⟩, by decide, by decide⟩, ⟨?_, ?_, trivial, trivial⟩, trivial⟩
  · exact ⟨⟨true, [0], 1, by decide⟩, by decide, by decide⟩
  · exact ⟨⟨false, [1], 16, by decide⟩, by decide, by decide⟩

theorem sampleBody_digest :
    stringifyFloats displayingCrate sampleBody = Sidecar.stringifyFloats sampleBody ∧
      ∀ bytes, displayingCrate.decodeRecord bytes = some sampleBody →
        displayingCrate.jsonDigest (Sidecar.stringifyFloats sampleBody) =
            Sidecar.plainDigests.jsonDigest (Sidecar.stringifyFloats sampleBody) →
          canonicalBodyDigest displayingCrate bytes =
            Sidecar.safeDigestJson Sidecar.plainDigests sampleBody :=
  same_body_digest displayingCrate Sidecar.plainDigests sampleBody displayingCrate_display
    sampleBody_ordinary

end CapsuleMesh.Plugin
