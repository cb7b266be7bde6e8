import CapsuleMesh.Browser.Values

/-!
# The id that the browser recomputes

`normalize`, `jcsValue` and `recomputeCapsuleId` of `mesh_verify.js`.  The names that are left out are
looked up in plain objects, which have the properties of `Object.prototype` too, and setting
`__proto__` on an object adds no member to it.
-/

namespace CapsuleMesh.Browser

open Library

def LOCAL_ONLY : List JsString := [units "signature", units "key_id"]

def CHAIN_LINKAGE : List JsString := [units "capsule_id", units "chain"]

def MAX_SAFE : Int := 9007199254740991

/-- What every plain object has besides its own properties. -/
def OBJECT_PROTOTYPE : List JsString :=
  ["constructor", "__defineGetter__", "__defineSetter__", "hasOwnProperty", "__lookupGetter__",
    "__lookupSetter__", "isPrototypeOf", "propertyIsEnumerable", "toString", "valueOf", "__proto__",
    "toLocaleString"].map units

/-- `excluded[k]`, for an object whose own properties are set to 1. -/
def present (own : List JsString) (k : JsString) : Bool := k ∈ own || k ∈ OBJECT_PROTOTYPE

/-- What `normalize` leaves out of an object. -/
def isAbsent : JsValue → Bool
  | .null => true
  | .arr elems => elems.isEmpty
  | .obj members => members.isEmpty
  | _ => false

mutual

def normalize : JsValue → JsValue
  | .arr elems => .arr (normalizeElems elems)
  | .obj members => .obj (normalizeMembers members)
  | v => v

def normalizeElems : List JsValue → List JsValue
  | [] => []
  | e :: es => normalize e :: normalizeElems es

/-- The properties that `out[k] = nv` creates. -/
def normalizeMembers : List (JsString × JsValue) → List (JsString × JsValue)
  | [] => []
  | (k, v) :: ms =>
      if isAbsent (normalize v) || k = units "__proto__" then normalizeMembers ms
      else (k, normalize v) :: normalizeMembers ms

end

/-! ## The text -/

inductive JsError where
  | nonInteger (text : String)
  | outsideSafeRange (n : Int)

def jcsUnit (u : CodeUnit) : JsString :=
  match escapeOf u.val with
  | some cs => cs.map charUnit
  | none => [u]

def jcsString (s : JsString) : JsString := units "\"" ++ (s.flatMap jcsUnit ++ units "\"")

def jcsNumber (n : Int) : Except JsError JsString :=
  if MAX_SAFE < n ∨ n < -MAX_SAFE then .error (.outsideSafeRange n) else .ok (units (toString n))

def jcsMember (m : JsString × Except JsError JsString) : Except JsError JsString := do
  let value ← m.2
  return jcsString m.1 ++ (units ":" ++ value)

mutual

def jcsValue : JsValue → Except JsError JsString
  | .null => .ok (units "null")
  | .bool true => .ok (units "true")
  | .bool false => .ok (units "false")
  | .int n => jcsNumber n
  | .fraction text => .error (.nonInteger text)
  | .str s => .ok (jcsString s)
  | .arr elems => do
      let texts ← (jcsElems elems).mapM id
      return units "[" ++ (Script.joined (charUnit ',') texts ++ units "]")
  | .obj members => do
      let texts ← (sortedMembers (jcsMembers members)).mapM jcsMember
      return units "\x7b" ++ (Script.joined (charUnit ',') texts ++ units "\x7d")

def jcsElems : List JsValue → List (Except JsError JsString)
  | [] => []
  | e :: es => jcsValue e :: jcsElems es

def jcsMembers : List (JsString × JsValue) → List (JsString × Except JsError JsString)
  | [] => []
  | (k, v) :: ms => (k, jcsValue v) :: jcsMembers ms

end

/-- `Object.prototype.hasOwnProperty.call(record, name)`. -/
def hasOwn (record : List (JsString × JsValue)) (name : String) : Bool :=
  record.any fun m => decide (m.1 = units name)

/-- The members of a record that are not looked up in `excluded`. -/
def withoutPresent (own : List JsString) (record : List (JsString × JsValue)) :
    List (JsString × JsValue) :=
  record.filter fun m => !present own m.1

/-- `recomputeCapsuleId`, on an object. -/
def recomputeCapsuleId (sha256Hex : Python.Bytes → String) (record : List (JsString × JsValue)) :
    Except JsError String :=
  if hasOwn record "canonicalization_id" then do
    let excl4 := [units "capsule_id", units "signature", units "key_id"]
    let text ← jcsValue (.obj (withoutPresent excl4 record))
    return sha256Hex (utf8Bytes text)
  else do
    let excluded := CHAIN_LINKAGE ++ LOCAL_ONLY
    let text ← jcsValue (normalize (.obj (withoutPresent excluded record)))
    return sha256Hex (utf8Bytes text)

/-! ## Texts and their characters -/

/-- The text does not begin with the second half of a pair. -/
def NotLow (rest : JsString) : Prop := ∀ u ∈ rest.head?, isLow u = false

/-- Wherever the text stands, it is encoded as these characters. -/
structure Encodes (text : JsString) (cs : List Char) : Prop where
  starts : ∀ rest, NotLow rest → NotLow (text ++ rest)
  scalars : ∀ rest, NotLow rest → scalarsOf (text ++ rest) = cs ++ scalarsOf rest

theorem notLow_nil : NotLow [] := by
  intro u hu
  cases hu

theorem low_of_all {cs : List Char} (h : (cs.all fun c => decide (c.toNat < 0xd800)) = true) :
    ∀ c ∈ cs, c.toNat < 0xd800 :=
  List.all_iff_forall_prop.mp h

namespace Encodes

theorem nil : Encodes [] [] where
  starts _ h := h
  scalars _ _ := rfl

theorem append {a b : JsString} {x y : List Char} (ha : Encodes a x) (hb : Encodes b y) :
    Encodes (a ++ b) (x ++ y) where
  starts rest h := by
    rw [List.append_assoc]
    exact ha.starts _ (hb.starts rest h)
  scalars rest h := by
    rw [List.append_assoc, ha.scalars _ (hb.starts rest h), hb.scalars rest h, List.append_assoc]

theorem isLow_charUnit {c : Char} (h : c.toNat < 0xd800) : isLow (charUnit c) = false := by
  have hval := toNat_charUnit (c := c) (by omega)
  simp only [isLow, hval]
  simp
  omega

theorem chars {cs : List Char} (h : ∀ c ∈ cs, c.toNat < 0xd800) : Encodes (cs.map charUnit) cs where
  starts rest hrest := by
    cases cs with
    | nil => exact hrest
    | cons c cs =>
        rintro _ ⟨⟩
        exact isLow_charUnit (h c List.mem_cons_self)
  scalars rest _ := scalarsOf_chars h rest

theorem units {s : String} (h : ∀ c ∈ s.toList, c.toNat < 0xd800) :
    Encodes (Browser.units s) s.toList :=
  chars h

theorem joined {sep : Char} (hsep : sep.toNat < 0xd800) {texts : List JsString}
    {css : List (List Char)} (h : List.Forall₂ Encodes texts css) :
    Encodes (Script.joined (charUnit sep) texts) (Script.joined sep css) := by
  have hlater : ∀ {texts : List JsString} {css : List (List Char)}, List.Forall₂ Encodes texts css →
      Encodes (texts.flatMap fun later => charUnit sep :: later)
        (css.flatMap fun later => sep :: later) := by
    intro texts css h
    induction h with
    | nil => exact nil
    | cons hhead _ ih =>
        rw [List.flatMap_cons, List.flatMap_cons]
        have hmark : Encodes ([sep].map charUnit) [sep] := by
          apply chars
          intro c hc
          rwa [List.mem_singleton.mp hc]
        exact (hmark.append hhead).append ih
  cases h with
  | nil => exact nil
  | cons hhead htail => exact hhead.append (hlater htail)

end Encodes

/-! ## Strings -/

theorem mem_escapedCodes_lt {code : ℕ} (h : code ∈ escapedCodes) : code < 0x5d := by
  simp only [escapedCodes, List.mem_cons, List.mem_range] at h
  omega

theorem escapeOf_chars : ∀ code ∈ escapedCodes, ∀ c ∈ (escapeOf code).getD [], c.toNat < 0xd800 := by
  have hall : (escapedCodes.all fun code => ((escapeOf code).getD []).all fun c =>
      decide (c.toNat < 0xd800)) = true := by
    decide +kernel
  intro code hcode
  exact List.all_iff_forall_prop.mp (List.all_eq_true.mp hall code hcode)

theorem unitChar_of_surrogate {u : CodeUnit} (h : (isHigh u || isLow u) = true) :
    unitChar u = Char.ofNat 0xfffd := by
  rw [unitChar, if_pos h]

theorem jcsEscape_of_not_escaped {c : Char} (h : c.toNat ∉ escapedCodes) : jcsEscape c = [c] := by
  rw [jcsEscape, escapeOf_eq_none h]
  rfl

/-- A unit is escaped as its character is. -/
theorem jcsUnit_cases (u : CodeUnit) :
    (∃ cs, jcsUnit u = cs.map charUnit ∧ jcsEscape (unitChar u) = cs ∧ cs ≠ [] ∧
      ∀ c ∈ cs, c.toNat < 0xd800) ∨
      jcsUnit u = [u] ∧ jcsEscape (unitChar u) = [unitChar u] := by
  by_cases hescaped : u.val ∈ escapedCodes
  · left
    have hlt := mem_escapedCodes_lt hescaped
    have hplain : (isHigh u || isLow u) = false := by
      simp only [isHigh, isLow]
      simp
      omega
    have hchars := escapeOf_chars u.val hescaped
    have hhead := head_escapeOf u.val hescaped
    rw [jcsUnit, jcsEscape, toNat_unitChar hplain]
    cases hescape : escapeOf u.val with
    | none =>
        rw [hescape] at hhead
        cases hhead
    | some cs =>
        rw [hescape] at hhead hchars
        refine ⟨cs, rfl, rfl, ?_, hchars⟩
        rintro rfl
        cases hhead
  · right
    refine ⟨by rw [jcsUnit, escapeOf_eq_none hescaped], jcsEscape_of_not_escaped ?_⟩
    cases hsurrogate : isHigh u || isLow u with
    | true =>
        rw [unitChar_of_surrogate hsurrogate]
        decide
    | false =>
        rw [toNat_unitChar hsurrogate]
        exact hescaped

theorem not_escaped_of_large {code : ℕ} (h : 0x5d ≤ code) : code ∉ escapedCodes := fun hmem =>
  absurd (mem_escapedCodes_lt hmem) (not_lt.mpr h)

theorem jcsUnit_of_large {u : CodeUnit} (h : 0x5d ≤ u.val) : jcsUnit u = [u] := by
  rw [jcsUnit, escapeOf_eq_none (not_escaped_of_large h)]

/-- What stands before an unescaped string stands before the escaped one. -/
theorem notLow_escaped {s rest : JsString} (hs : NotLow s) (hrest : NotLow rest) :
    NotLow (s.flatMap jcsUnit ++ rest) := by
  cases s with
  | nil => exact hrest
  | cons u s =>
      obtain ⟨cs, hunit, -, hne, hchars⟩ | ⟨hunit, -⟩ := jcsUnit_cases u
      · obtain ⟨c, cs', rfl⟩ := List.exists_cons_of_ne_nil hne
        rw [List.flatMap_cons, hunit]
        rintro _ ⟨⟩
        exact Encodes.isLow_charUnit (hchars c List.mem_cons_self)
      · rw [List.flatMap_cons, hunit]
        rintro _ ⟨⟩
        exact hs u rfl

theorem scalarsOf_escaped (s : JsString) : ∀ rest, NotLow rest →
    scalarsOf (s.flatMap jcsUnit ++ rest) = (scalarsOf s).flatMap jcsEscape ++ scalarsOf rest := by
  induction s using scalarsOf_induction with
  | nil => exact fun _ _ => rfl
  | pair u v s hu hv ih =>
      intro rest hrest
      have hularge : 0x5d ≤ u.val := by
        simp only [isHigh, Bool.and_eq_true, decide_eq_true_eq] at hu
        omega
      have hvlarge : 0x5d ≤ v.val := by
        simp only [isLow, Bool.and_eq_true, decide_eq_true_eq] at hv
        omega
      have hpair : jcsEscape (pairChar u v) = [pairChar u v] := by
        apply jcsEscape_of_not_escaped
        apply not_escaped_of_large
        have := toNat_pairChar hu hv
        omega
      rw [List.flatMap_cons, List.flatMap_cons, jcsUnit_of_large hularge, jcsUnit_of_large hvlarge,
        scalarsOf_pair hu hv, List.flatMap_cons, hpair, List.append_assoc, List.append_assoc]
      rw [List.singleton_append, List.singleton_append, scalarsOf_pair hu hv, ih rest hrest]
      rfl
  | single u s hsingle ih =>
      intro rest hrest
      rw [scalarsOf_cons hsingle, List.flatMap_cons, List.flatMap_cons, List.append_assoc]
      obtain ⟨cs, hunit, hescape, -, hchars⟩ | ⟨hunit, hescape⟩ := jcsUnit_cases u
      · rw [hunit, hescape, scalarsOf_chars hchars, ih rest hrest, List.append_assoc]
      · have hbefore : isHigh u = false ∨ NotLow (s.flatMap jcsUnit ++ rest) :=
          hsingle.imp_right fun hs => notLow_escaped hs hrest
        rw [hunit, hescape, List.singleton_append, scalarsOf_cons hbefore, ih rest hrest]
        rfl

theorem encodes_jcsString (s : JsString) :
    Encodes (jcsString s) (jcsScript.quoted (scalarsOf s)) where
  starts rest _ := by
    rintro _ ⟨⟩
    decide
  scalars rest hrest := by
    have hquote : Encodes (['"'].map charUnit) ['"'] := Encodes.chars (low_of_all (by decide))
    have hunits : units "\"" = ['"'].map charUnit := rfl
    rw [jcsString, hunits, List.append_assoc, List.append_assoc, scalarsOf_chars (low_of_all (by decide)),
      scalarsOf_escaped s _ (hquote.starts rest hrest), hquote.scalars rest hrest, Script.quoted]
    simp [jcsScript, TextMark.char]

/-! ## Values -/

theorem normalizeElems_eq_map (elems : List JsValue) : normalizeElems elems = elems.map normalize := by
  induction elems with
  | nil => rfl
  | cons e es ih => rw [normalizeElems, ih, List.map_cons]

theorem jcsElems_eq_map (elems : List JsValue) : jcsElems elems = elems.map jcsValue := by
  induction elems with
  | nil => rfl
  | cons e es ih => rw [jcsElems, ih, List.map_cons]

theorem jcsMembers_eq_map (members : List (JsString × JsValue)) :
    jcsMembers members = members.map fun m => (m.1, jcsValue m.2) := by
  induction members with
  | nil => rfl
  | cons m ms ih => rw [jcsMembers, ih, List.map_cons]

theorem encodes_int {n : Int} (h : -MAX_SAFE ≤ n ∧ n ≤ MAX_SAFE) :
    jcsNumber n = .ok (units (toString n)) ∧ Encodes (units (toString n)) (toString n).toList := by
  constructor
  · rw [jcsNumber, if_neg]
    omega
  · apply Encodes.units
    intro c hc
    obtain hdigit | rfl := beginsNumber_of_mem_int hc
    · have hrange : 48 ≤ c.toNat ∧ c.toNat ≤ 57 := by
        simpa [Char.isDigit, UInt32.le_iff_toNat_le] using hdigit
      omega
    · decide

/-- A loop whose steps all return collects what they return. -/
theorem mapM_encodes {α : Type} {f : α → Except JsError JsString} {g : α → List Char} {as : List α}
    (h : ∀ a ∈ as, ∃ text, f a = .ok text ∧ Encodes text (g a)) :
    ∃ texts, as.mapM f = .ok texts ∧ List.Forall₂ Encodes texts (as.map g) := by
  induction as with
  | nil => exact ⟨[], rfl, .nil⟩
  | cons a as ih =>
      obtain ⟨text, htext, hencodes⟩ := h a List.mem_cons_self
      obtain ⟨texts, htexts, hall⟩ := ih fun a' ha' => h a' (List.mem_cons_of_mem a ha')
      refine ⟨text :: texts, ?_, .cons hencodes hall⟩
      rw [List.mapM_cons, htext, htexts]
      rfl

theorem encodes_group (opening closing : String) {css : List (List Char)} {texts : List JsString}
    (hopening : ∀ c ∈ opening.toList, c.toNat < 0xd800)
    (hclosing : ∀ c ∈ closing.toList, c.toNat < 0xd800) (h : List.Forall₂ Encodes texts css) :
    Encodes (units opening ++ (Script.joined (charUnit ',') texts ++ units closing))
      (opening.toList ++ (Script.joined ',' css ++ closing.toList)) :=
  (Encodes.units hopening).append ((Encodes.joined (by decide) h).append (Encodes.units hclosing))

theorem sortedMembers_map {α β : Type} (f : α → β) (members : List (JsString × α)) :
    sortedMembers (members.map fun m => (m.1, f m.2)) =
      (sortedMembers members).map fun m => (m.1, f m.2) :=
  (map_sortByKey f members).symm

/-- A value of the records has a text, which is encoded as the text of its tree. -/
theorem jcsValue_encodes {v : JsValue} (h : v.Safe MAX_SAFE) :
    ∃ text, jcsValue v = .ok text ∧ Encodes text (jcsScript.text v.arrange.tree) := by
  induction h with
  | null => exact ⟨_, rfl, Encodes.units (low_of_all (by decide))⟩
  | bool b =>
      cases b with
      | true => exact ⟨_, rfl, Encodes.units (low_of_all (by decide))⟩
      | false => exact ⟨_, rfl, Encodes.units (low_of_all (by decide))⟩
  | @int n h => exact ⟨_, encodes_int h⟩
  | str s => exact ⟨_, rfl, encodes_jcsString s⟩
  | @arr elems _ ih =>
      obtain ⟨texts, htexts, hall⟩ := mapM_encodes
        (g := fun e => jcsScript.text e.arrange.tree) (f := jcsValue) ih
      refine ⟨units "[" ++ (Script.joined (charUnit ',') texts ++ units "]"), ?_, ?_⟩
      · rw [jcsValue, jcsElems_eq_map, List.mapM_map]
        change elems.mapM jcsValue >>= _ = _
        rw [htexts]
        rfl
      · rw [JsValue.arrange, JsValue.tree, JsValue.arrangeElems_eq_map, JsValue.treeElems_eq_map,
          List.map_map, Script.text_list, List.map_map]
        exact encodes_group "[" "]" (low_of_all (by decide)) (low_of_all (by decide)) hall
  | @obj members _ _ ih =>
      obtain ⟨texts, htexts, hall⟩ := @mapM_encodes _
        (fun m => jcsMember (m.1, jcsValue m.2))
        (fun m ↦ jcsScript.memberText (scalarsOf m.1, m.2.arrange.tree)) (sortedMembers members) (by
        intro m hm
        obtain ⟨text, htext, hencodes⟩ := ih m ((sortByKey_perm members).mem_iff.mp hm)
        refine ⟨jcsString m.1 ++ (units ":" ++ text), ?_, ?_⟩
        · rw [jcsMember]
          simp only [htext]
          rfl
        · have hcolon : Encodes (units ":") [':'] := Encodes.units (low_of_all (by decide))
          exact (encodes_jcsString m.1).append (hcolon.append hencodes))
      refine ⟨units "\x7b" ++ (Script.joined (charUnit ',') texts ++ units "\x7d"), ?_, ?_⟩
      · rw [jcsValue, jcsMembers_eq_map, sortedMembers_map, List.mapM_map]
        change (sortedMembers members).mapM (fun m => jcsMember (m.1, jcsValue m.2)) >>= _ = _
        rw [htexts]
        rfl
      · rw [JsValue.arrange, JsValue.tree, JsValue.arrangeMembers_eq_map, sortedMembers_map,
          JsValue.treeMembers_eq_map, List.map_map, Script.text_dict, List.map_map]
        exact encodes_group "\x7b" "\x7d" (low_of_all (by decide)) (low_of_all (by decide)) hall

end CapsuleMesh.Browser
