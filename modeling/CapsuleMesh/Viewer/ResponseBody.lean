import CapsuleMesh.Ownership.LoadedCertificate
import CapsuleMesh.Python.PlainJcs
import CapsuleMesh.Sidecar.BuildCapsule
import CapsuleMesh.Viewer.RustFloats

/-!
# A disclosed body against its sealed digest

The viewer recomputes the digest of a disclosed response in two constructions: the sidecar's, over
floats replaced by their texts, and the host's, over floats as Rust writes them.
-/

namespace CapsuleMesh.Viewer

open Library Python
open Sidecar (stringifyFloats stringifyElems_eq_map stringifyMembers_eq_map)

/-- `str(n)`. -/
def strOfInt (n : Int) : Py String :=
  if INT_MAX_STR_DIGITS < ((toString n).toList.filter Char.isDigit).length then
    .error (.valueError "Exceeds the limit (4300 digits) for integer string conversion")
  else .ok (toString n)

def rustPlainJcsString (s : String) : String := String.ofList (jcsScript.quoted s.toList)

/-- A member as `_rust_plain_jcs_value` joins it, once its value is written. -/
def rustPlainJcsMember (m : String × Py String) : Py String := do
  let value ← m.2
  return rustPlainJcsString m.1 ++ ":" ++ value

mutual

def rustPlainJcsValue : Json → Py String
  | .null => .ok "null"
  | .bool b => .ok (if b then "true" else "false")
  | .str s => .ok (rustPlainJcsString s)
  | .int n => strOfInt n
  | .float repr => formatRustFloat repr
  | .arr elems => do
      let texts ← (rustPlainJcsElems elems).mapM id
      return "[" ++ commaJoin texts ++ "]"
  | .obj members => do
      let texts ← (sortedItems (rustPlainJcsMembers members)).mapM rustPlainJcsMember
      return "\x7b" ++ commaJoin texts ++ "\x7d"

def rustPlainJcsElems : List Json → List (Py String)
  | [] => []
  | e :: es => rustPlainJcsValue e :: rustPlainJcsElems es

def rustPlainJcsMembers : List (String × Json) → List (String × Py String)
  | [] => []
  | (k, v) :: ms => (k, rustPlainJcsValue v) :: rustPlainJcsMembers ms

end

/-- `_rust_plain_jcs_digest`: `None` on any error. -/
def rustPlainJcsDigest (sha256Hex : Bytes → String) (value : Json) : Option String :=
  match rustPlainJcsValue value with
  | .ok text => some (sha256Hex (utf8 text))
  | .error _ => none

/-- `_json_body_digest` of a body that is given.  There is no `json_digest` where the package cannot
be imported, and `none` is what it raises. -/
def jsonBodyDigest (jsonDigest : Option (Json → Option String)) (body : Json) : Option String :=
  match jsonDigest with
  | none => none
  | some jsonDigest => jsonDigest (stringifyFloats body)

def RESPONSE_BODY_STRICT_JCS_STRINGIFY_FLOATS_V1 : String :=
  "capsule-sidecar/response-body-digest_json/v1"

def RESPONSE_BODY_PLAIN_JCS_RYU_FLOATS_V1 : String := "mesh-llm/response-body-plain-jcs/v1"

/-- The result of `_response_body_verify`. -/
structure ResponseBodyCheck where
  kind : String := "response_body"
  sealedDigest : Option String
  computedDigest : Option String
  matches_ : Bool
  construction : String
  label : String := "response body vs sealed response_digest"

def responseBodyVerify (sha256Hex : Bytes → String) (jsonDigest : Option (Json → Option String))
    (responseBody : Json) (responseDigest : Option String) : ResponseBodyCheck :=
  let strictDigest := jsonBodyDigest jsonDigest responseBody
  let plainDigest := rustPlainJcsDigest sha256Hex responseBody
  if strictDigest ≠ none ∧ strictDigest = responseDigest then
    { sealedDigest := responseDigest, computedDigest := strictDigest, matches_ := true
      construction := RESPONSE_BODY_STRICT_JCS_STRINGIFY_FLOATS_V1 }
  else if plainDigest ≠ none ∧ plainDigest = responseDigest then
    { sealedDigest := responseDigest, computedDigest := plainDigest, matches_ := true
      construction := RESPONSE_BODY_PLAIN_JCS_RYU_FLOATS_V1 }
  else
    { sealedDigest := responseDigest, computedDigest := strictDigest, matches_ := false
      construction := RESPONSE_BODY_STRICT_JCS_STRINGIFY_FLOATS_V1 }

/-! ## Texts of bodies -/

/-- The text of a finite float. -/
def FiniteRepr (repr : String) : Prop := ∃ x : Shortest, repr = x.pythonRepr

/-- The text of a float. -/
def FloatRepr (repr : String) : Prop := repr ∈ ["nan", "inf", "-inf"] ∨ FiniteRepr repr

/-- The floats as Rust writes them. -/
def rustText (repr : String) : List Char :=
  match formatRustFloat repr with
  | .ok text => text.toList
  | .error _ => []

theorem rustText_pythonRepr (x : Shortest) : rustText x.pythonRepr = x.sign ++ x.ryuText := by
  rw [rustText, formatRustFloat_pythonRepr]
  exact String.toList_ofList

theorem floatText_rustText (repr : String) (h : FiniteRepr repr) : FloatText (rustText repr) := by
  obtain ⟨x, rfl⟩ := h
  rw [rustText_pythonRepr]
  exact floatText_ryu x

theorem rustText_injective (r s : String) (hr : FiniteRepr r) (hs : FiniteRepr s)
    (h : rustText r = rustText s) : r = s := by
  obtain ⟨x, rfl⟩ := hr
  obtain ⟨y, rfl⟩ := hs
  rw [rustText_pythonRepr, rustText_pythonRepr] at h
  exact pythonRepr_eq_of_ryu h

theorem finite_of_formatted {repr text : String} (h : FloatRepr repr)
    (hformat : formatRustFloat repr = .ok text) :
    FiniteRepr repr ∧ text.toList = rustText repr := by
  refine ⟨h.resolve_left ?_, by rw [rustText, hformat]⟩
  intro hnonfinite
  rw [formatRustFloat, if_pos hnonfinite] at hformat
  cases hformat

theorem strOfInt_eq_ok {n : Int} {text : String} (h : strOfInt n = .ok text) : text = toString n := by
  rw [strOfInt] at h
  split_ifs at h
  exact (Except.ok.inj h).symm

theorem rustPlainJcsElems_eq_map (elems : List Json) :
    rustPlainJcsElems elems = elems.map rustPlainJcsValue := by
  induction elems with
  | nil => rfl
  | cons e es ih => rw [rustPlainJcsElems, ih, List.map_cons]

theorem rustPlainJcsMembers_eq_map (members : List (String × Json)) :
    rustPlainJcsMembers members = members.map fun m => (m.1, rustPlainJcsValue m.2) := by
  induction members with
  | nil => rfl
  | cons m ms ih => rw [rustPlainJcsMembers, ih, List.map_cons]

theorem toList_commaJoin (texts : List String) :
    (commaJoin texts).toList = Script.joined ',' (texts.map String.toList) := by
  cases texts with
  | nil => rfl
  | cons text texts =>
      rw [List.map_cons, Script.joined]
      induction texts generalizing text with
      | nil => simp [commaJoin]
      | cons later texts ih =>
        rw [commaJoin, String.toList_append, String.toList_append, ih, List.map_cons,
          List.flatMap_cons]
        · simp
        · exact List.cons_ne_nil later texts

/-- The texts that a loop collects, where each step has one possible text. -/
theorem map_toList_of_map_eq {α : Type} {f : α → Py String} {g : α → List Char} {as : List α}
    {texts : List String} (h : as.map f = texts.map .ok)
    (hg : ∀ a ∈ as, ∀ text, f a = .ok text → text.toList = g a) :
    texts.map String.toList = as.map g := by
  induction as generalizing texts with
  | nil =>
      rw [List.map_eq_nil_iff.mp h.symm]
      rfl
  | cons a as ih =>
      cases texts with
      | nil => cases h
      | cons text texts =>
        obtain ⟨hhead, htail⟩ := List.cons.inj h
        rw [List.map_cons, List.map_cons, hg a List.mem_cons_self text hhead,
          ih htail fun a' ha' => hg a' (List.mem_cons_of_mem a ha')]

theorem rustPlainJcsMember_eq_ok {m : String × Py String} {text : String}
    (h : rustPlainJcsMember m = .ok text) :
    ∃ value, m.2 = .ok value ∧
      text.toList = jcsScript.quoted m.1.toList ++ ':' :: value.toList := by
  rw [rustPlainJcsMember, Py.bind_eq_ok] at h
  obtain ⟨value, hvalue, h⟩ := h
  obtain rfl := Except.ok.inj h
  refine ⟨value, hvalue, ?_⟩
  rw [String.toList_append, String.toList_append, rustPlainJcsString, String.toList_ofList]
  simp

/-- What `_rust_plain_jcs_value` returns is the plain text, over finite floats. -/
theorem plainText_of_ok {j : Json} (h : j.Distinct FloatRepr) : ∀ {text : String},
    rustPlainJcsValue j = .ok text → j.Distinct FiniteRepr ∧ text.toList = j.plainText rustText := by
  induction h with
  | null =>
      intro text hok
      obtain rfl := Except.ok.inj hok
      exact ⟨.null, rfl⟩
  | bool b =>
      intro text hok
      obtain rfl := Except.ok.inj hok
      refine ⟨.bool b, ?_⟩
      cases b with
      | true => rfl
      | false => rfl
  | int n =>
      intro text hok
      obtain rfl := strOfInt_eq_ok hok
      exact ⟨.int n, rfl⟩
  | float h =>
      intro text hok
      obtain ⟨hfinite, htext⟩ := finite_of_formatted h hok
      exact ⟨.float hfinite, htext⟩
  | str s =>
      intro text hok
      obtain rfl := Except.ok.inj hok
      exact ⟨.str s, String.toList_ofList⟩
  | @arr elems _ ih =>
      intro text hok
      rw [rustPlainJcsValue, Py.bind_eq_ok] at hok
      obtain ⟨texts, htexts, hok⟩ := hok
      obtain rfl := Except.ok.inj hok
      rw [Py.mapM_eq_ok, List.map_id, rustPlainJcsElems_eq_map] at htexts
      constructor
      · apply Json.Distinct.arr
        intro e he
        obtain ⟨text, -, htext⟩ := List.mem_map.mp (htexts ▸ List.mem_map_of_mem he)
        exact (ih e he htext.symm).1
      · have hitems := map_toList_of_map_eq htexts fun e he text htext => (ih e he htext).2
        rw [Json.plainText, Json.arrange, Json.tree, Json.arrangeElems_eq_map,
          Json.treeElems_eq_map, List.map_map, Script.text_list, List.map_map, String.toList_append,
          String.toList_append, toList_commaJoin, hitems]
        rfl
  | @obj members hkeys _ ih =>
      intro text hok
      rw [rustPlainJcsValue, Py.bind_eq_ok] at hok
      obtain ⟨texts, htexts, hok⟩ := hok
      obtain rfl := Except.ok.inj hok
      rw [Py.mapM_eq_ok, rustPlainJcsMembers_eq_map, ← map_sortedItems, List.map_map] at htexts
      have hmem : ∀ m ∈ sortedItems members, m ∈ members := fun m ↦ (sortedItems_perm members).mem_iff.mp
      constructor
      · apply Json.Distinct.obj hkeys
        intro m hm
        have hmsorted := (sortedItems_perm members).mem_iff.mpr hm
        obtain ⟨text, -, htext⟩ := List.mem_map.mp (htexts ▸ List.mem_map_of_mem hmsorted)
        obtain ⟨value, hvalue, -⟩ := rustPlainJcsMember_eq_ok htext.symm
        exact (ih m hm hvalue).1
      · have hitems := map_toList_of_map_eq (g := fun m =>
            jcsScript.memberText (m.1.toList, m.2.arrange.tree rustText)) htexts (by
          intro m hm text htext
          obtain ⟨value, hvalue, htext⟩ := rustPlainJcsMember_eq_ok htext
          rw [htext, (ih m (hmem m hm) hvalue).2]
          rfl)
        rw [Json.plainText, Json.arrange, Json.tree, Json.arrangeMembers_eq_map, ← map_sortedItems,
          Json.treeMembers_eq_map, List.map_map, Script.text_dict, List.map_map, String.toList_append,
          String.toList_append, toList_commaJoin, hitems]
        rfl

/-! ## Bodies without floats -/

variable {float : String → Prop}

theorem distinct_stringifyFloats {j : Json} (h : j.Distinct float) :
    (stringifyFloats j).Distinct fun _ => False := by
  induction h with
  | null => exact .null
  | bool b => exact .bool b
  | int n => exact .int n
  | @float repr _ => exact .str repr
  | str s => exact .str s
  | arr _ ih =>
      rw [stringifyFloats, stringifyElems_eq_map]
      apply Json.Distinct.arr
      intro e' he'
      obtain ⟨e, he, rfl⟩ := List.mem_map.mp he'
      exact ih e he
  | obj hkeys _ ih =>
      rw [stringifyFloats, stringifyMembers_eq_map]
      apply Json.Distinct.obj
      · rwa [List.map_map]
      · intro m' hm'
        obtain ⟨m, hm, rfl⟩ := List.mem_map.mp hm'
        exact ih m hm

theorem stringifyFloats_sortKeys {j : Json} (h : j.Distinct float) :
    stringifyFloats j.sortKeys = (stringifyFloats j).sortKeys := by
  induction h with
  | null => rfl
  | bool b => rfl
  | int n => rfl
  | float _ => rfl
  | str s => rfl
  | arr _ ih =>
      rw [Json.sortKeys, stringifyFloats, stringifyFloats, Json.sortKeys, stringifyElems_eq_map,
        stringifyElems_eq_map, Json.sortElems_eq_map, Json.sortElems_eq_map, List.map_map,
        List.map_map]
      exact congrArg Json.arr (List.map_congr_left ih)
  | @obj members _ _ ih =>
      have hvalues : (members.map fun m ↦ (m.1, m.2.sortKeys)).map (fun m ↦ (m.1, stringifyFloats m.2)) =
          (members.map fun m => (m.1, stringifyFloats m.2)).map fun m => (m.1, m.2.sortKeys) := by
        rw [List.map_map, List.map_map]
        apply List.map_congr_left
        intro m hm
        exact congrArg (m.1, ·) (ih m hm)
      rw [Json.sortKeys, stringifyFloats, stringifyFloats, Json.sortKeys, stringifyMembers_eq_map,
        stringifyMembers_eq_map, Json.sortMembers_eq_map, Json.sortMembers_eq_map, map_sortByKey,
        hvalues]

theorem stringifyFloats_stringifyFloats {j : Json} (h : j.Distinct float) :
    stringifyFloats (stringifyFloats j) = stringifyFloats j := by
  induction h with
  | null => rfl
  | bool b => rfl
  | int n => rfl
  | float _ => rfl
  | str s => rfl
  | arr _ ih =>
      rw [stringifyFloats, stringifyFloats, stringifyElems_eq_map, stringifyElems_eq_map,
        List.map_map]
      exact congrArg Json.arr (List.map_congr_left ih)
  | @obj members _ _ ih =>
      rw [stringifyFloats, stringifyFloats, stringifyMembers_eq_map, stringifyMembers_eq_map,
        List.map_map]
      apply congrArg Json.obj
      apply List.map_congr_left
      intro m hm
      exact congrArg (m.1, ·) (ih m hm)

/-! ## Two bodies under one digest -/

section

variable {sha256Hex : Bytes → String} {jsonDigest : Option (Json → Option String)}
  (hjson : ∀ digestOf, jsonDigest = some digestOf → ∀ j digest, (j.Distinct fun _ => False) →
    digestOf j = some digest →
      digest = sha256Hex (utf8 (String.ofList (j.plainText String.toList))))

include hjson

/-- Whichever construction matched, the digest is that of the plain text of a value which is the
body but for its floats. -/
theorem matched_text {body : Json} (hbody : body.Distinct FloatRepr) {responseDigest : Option String}
    (h : (responseBodyVerify sha256Hex jsonDigest body responseDigest).matches_ = true) :
    ∃ value : Json, value.Distinct FiniteRepr ∧ stringifyFloats value = stringifyFloats body ∧
      responseDigest = some (sha256Hex (utf8 (String.ofList (value.plainText rustText)))) := by
  rw [responseBodyVerify] at h
  split_ifs at h with hstrict hplain
  · obtain ⟨hsome, rfl⟩ := hstrict
    obtain ⟨digest, hdigest⟩ := Option.ne_none_iff_exists'.mp hsome
    cases hdigestOf : jsonDigest with
    | none =>
        rw [hdigestOf] at hdigest
        cases hdigest
    | some digestOf =>
        rw [hdigestOf] at hdigest
        have hfree := distinct_stringifyFloats hbody
        have htext := hjson digestOf hdigestOf _ digest hfree hdigest
        rw [Json.plainText, hfree.arrange.tree_eq String.toList rustText] at htext
        refine ⟨stringifyFloats body, hfree.mono fun _ => False.elim,
          stringifyFloats_stringifyFloats hbody, ?_⟩
        rw [hdigest, htext]
        rfl
  · obtain ⟨hsome, rfl⟩ := hplain
    rw [rustPlainJcsDigest] at hsome ⊢
    cases hvalue : rustPlainJcsValue body with
    | error e =>
        rw [hvalue] at hsome
        exact absurd rfl hsome
    | ok text =>
        obtain ⟨hfinite, htext⟩ := plainText_of_ok hbody hvalue
        refine ⟨body, hfinite, rfl, ?_⟩
        rw [← htext, String.ofList_toList]

end

/-- Bodies that match one sealed digest, each by either construction, are equal once their floats
are replaced by their texts; and a float in Rust's text keeps its value, its identity and its
being a float. -/
theorem matched_bodies_agree (sha256Hex : Bytes → String)
    (jsonDigest : Option (Json → Option String)) (hsha : Function.Injective sha256Hex)
    (hjson : ∀ digestOf, jsonDigest = some digestOf → ∀ j digest, (j.Distinct fun _ => False) →
      digestOf j = some digest →
        digest = sha256Hex (utf8 (String.ofList (j.plainText String.toList)))) :
    (∀ (v w : Json) (responseDigest : Option String), v.Distinct FloatRepr → w.Distinct FloatRepr →
      (responseBodyVerify sha256Hex jsonDigest v responseDigest).matches_ = true →
      (responseBodyVerify sha256Hex jsonDigest w responseDigest).matches_ = true →
        (stringifyFloats v).sortKeys = (stringifyFloats w).sortKeys) ∧
      ∀ x : Shortest, ∃ text, formatRustFloat x.pythonRepr = .ok text ∧
        textValue text.toList = textValue x.pythonRepr.toList ∧
        (∀ y : Shortest, formatRustFloat y.pythonRepr = .ok text → y.pythonRepr = x.pythonRepr) ∧
        (∀ floatRepr, scanNumber floatRepr text.toList = some (.float (floatRepr text), [])) ∧
        ∀ n : Int, text ≠ toString n := by
  constructor
  · intro v w responseDigest hv hw hvmatch hwmatch
    obtain ⟨v', hvfinite, hvbody, hvdigest⟩ := matched_text hjson hv hvmatch
    obtain ⟨w', hwfinite, hwbody, hwdigest⟩ := matched_text hjson hw hwmatch
    rw [hvdigest, Option.some_inj] at hwdigest
    have htext := String.ofList_injective (utf8_injective (hsha hwdigest))
    have hsorted := hvfinite.sortKeys_eq_of_plainText floatText_rustText rustText_injective hwfinite
      htext
    rw [← hvbody, ← hwbody, ← stringifyFloats_sortKeys hvfinite, ← stringifyFloats_sortKeys hwfinite,
      hsorted]
  · intro x
    refine ⟨String.ofList (x.sign ++ x.ryuText), formatRustFloat_pythonRepr x, ?_, ?_, ?_, ?_⟩
    · rw [String.toList_ofList]
      exact textValue_ryu x
    · intro y hy
      rw [formatRustFloat_pythonRepr] at hy
      exact pythonRepr_eq_of_ryu (String.ofList_injective (Except.ok.inj hy))
    · intro floatRepr
      rw [String.toList_ofList]
      exact scanNumber_ryu floatRepr x
    · intro n hn
      apply not_floatText_int n
      rw [← hn, String.toList_ofList]
      exact floatText_ryu x

/-- A body as the host sends it, and as it reads with its members sorted. -/
def sentBody : Json := .obj [("timings", .arr [.float "81.0", .float "-0.5"]), ("id", .int 7)]

def sortedBody : Json := .obj [("id", .int 7), ("timings", .arr [.float "81.0", .float "-0.5"])]

/-- RFC 8785 on every value. -/
def plainJsonDigest (j : Json) : Option String :=
  some (hexText (utf8 (String.ofList (j.plainText String.toList))))

theorem responseBodyVerify_of_plain {sha256Hex : Bytes → String}
    {jsonDigest : Option (Json → Option String)} {body : Json} {text : String}
    (h : rustPlainJcsValue body = .ok text) :
    (responseBodyVerify sha256Hex jsonDigest body (some (sha256Hex (utf8 text)))).matches_ = true := by
  have hdigest : rustPlainJcsDigest sha256Hex body = some (sha256Hex (utf8 text)) := by
    rw [rustPlainJcsDigest, h]
  simp only [responseBodyVerify]
  split_ifs with hstrict hplain
  · rfl
  · rfl
  · refine absurd ⟨?_, hdigest⟩ hplain
    rw [hdigest]
    exact Option.some_ne_none _

theorem sorted_body_agrees :
    (stringifyFloats sentBody).sortKeys = (stringifyFloats sortedBody).sortKeys := by
  have hfloats : ∀ repr ∈ ["81.0", "-0.5"], FloatRepr repr := by
    intro repr hrepr
    simp only [List.mem_cons, List.not_mem_nil, or_false] at hrepr
    obtain rfl | rfl := hrepr
    · exact .inr ⟨⟨false, [8, 1], 2, .inr (by decide)⟩, by decide⟩
    · exact .inr ⟨⟨true, [5], 0, .inr (by decide)⟩, by decide⟩
  have harray : (Json.arr [.float "81.0", .float "-0.5"]).Distinct FloatRepr := by
    apply Json.Distinct.arr
    intro e he
    simp only [List.mem_cons, List.not_mem_nil, or_false] at he
    obtain rfl | rfl := he
    · exact .float (hfloats _ (by decide))
    · exact .float (hfloats _ (by decide))
  have hsent : sentBody.Distinct FloatRepr := by
    apply Json.Distinct.obj (by decide)
    intro m hm
    simp only [List.mem_cons, List.not_mem_nil, or_false] at hm
    obtain rfl | rfl := hm
    · exact harray
    · exact .int 7
  have hsorted : sortedBody.Distinct FloatRepr := by
    apply Json.Distinct.obj (by decide)
    intro m hm
    simp only [List.mem_cons, List.not_mem_nil, or_false] at hm
    obtain rfl | rfl := hm
    · exact .int 7
    · exact harray
  have htext : rustPlainJcsValue sentBody =
      .ok "\x7b\"id\":7,\"timings\":[81.0,-0.5]\x7d" := by decide
  have htext' : rustPlainJcsValue sortedBody =
      .ok "\x7b\"id\":7,\"timings\":[81.0,-0.5]\x7d" := by decide
  apply (matched_bodies_agree hexText (some plainJsonDigest) hexText_injective ?_).1 _ _ _ hsent hsorted
    (responseBodyVerify_of_plain htext) (responseBodyVerify_of_plain htext')
  intro digestOf hdigestOf j digest _ hdigest
  obtain rfl := Option.some.inj hdigestOf
  exact (Option.some.inj hdigest).symm

end CapsuleMesh.Viewer
