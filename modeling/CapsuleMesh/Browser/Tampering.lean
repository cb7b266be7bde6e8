import Mathlib
import CapsuleMesh.Browser.CapsuleId
import CapsuleMesh.Python.PlainJcs

/-!
# What the browser's check can see

Two records have one id exactly when they look alike: without the members whose names every object
has, without what `__proto__` names below the top, and with U+FFFD for each half of a pair.  The
order of members is never seen.
-/

namespace CapsuleMesh.Browser

open Library

/-! ## Members that are dropped at any depth -/

section

variable (keep : JsString → JsValue → Bool)

mutual

/-- The value with only some of the members of its objects, from the inside out. -/
def JsValue.prune : JsValue → JsValue
  | .arr elems => .arr (JsValue.pruneElems elems)
  | .obj members => .obj (JsValue.pruneMembers members)
  | v => v

def JsValue.pruneElems : List JsValue → List JsValue
  | [] => []
  | e :: es => e.prune :: JsValue.pruneElems es

def JsValue.pruneMembers : List (JsString × JsValue) → List (JsString × JsValue)
  | [] => []
  | (k, v) :: ms =>
      if keep k v.prune then (k, v.prune) :: JsValue.pruneMembers ms else JsValue.pruneMembers ms

end

theorem JsValue.pruneElems_eq_map (elems : List JsValue) :
    JsValue.pruneElems keep elems = elems.map (JsValue.prune keep) := by
  induction elems with
  | nil => rfl
  | cons e es ih => rw [JsValue.pruneElems, ih, List.map_cons]

theorem JsValue.pruneMembers_eq (members : List (JsString × JsValue)) :
    JsValue.pruneMembers keep members =
      (members.map fun m => (m.1, m.2.prune keep)).filter fun m => keep m.1 m.2 := by
  induction members with
  | nil => rfl
  | cons m ms ih => rw [JsValue.pruneMembers, ih, List.map_cons, List.filter_cons]

end

/-- Without the members that are null or empty. -/
def keepsPresent (_ : JsString) (v : JsValue) : Bool := !isAbsent v

def protoName : JsString := units "__proto__"

/-- Without the members named `__proto__`. -/
def keepsNamed (k : JsString) (_ : JsValue) : Bool := k ≠ protoName

/-- The members that the id is to bind. -/
def boundMembers (record : List (JsString × JsValue)) : List (JsString × JsValue) :=
  if hasOwn record "canonicalization_id" then
    record.filter fun m => m.1 ∉ [units "capsule_id", units "signature", units "key_id"]
  else
    JsValue.pruneMembers keepsPresent
      (record.filter fun m => m.1 ∉ CHAIN_LINKAGE ++ LOCAL_ONLY)

/-- The record without the members whose names every object has, and without what `__proto__` names
below the top where the record is normalised. -/
def seenMembers (record : List (JsString × JsValue)) : List (JsString × JsValue) :=
  let shown := record.filter fun m => m.1 ∉ OBJECT_PROTOTYPE
  if hasOwn record "canonicalization_id" then shown
  else shown.map fun m => (m.1, m.2.prune keepsNamed)

/-- The bound members agree, one by one, but for the order of members below them. -/
def Agree (record other : List (JsString × JsValue)) : Prop :=
  ∀ name, Option.Rel JsValue.Same ((boundMembers record).lookup name)
    ((boundMembers other).lookup name)

/-- The bound members that can be seen are the same, with U+FFFD for each half of a pair. -/
def LookAlike (record other : List (JsString × JsValue)) : Prop :=
  (JsValue.obj (boundMembers (seenMembers record))).arrange.tree =
    (JsValue.obj (boundMembers (seenMembers other))).arrange.tree

/-! ## What is kept of a record -/

variable {limit : Int}

/-- `normalize` drops the members named `__proto__` besides the absent ones. -/
theorem prune_prune {v : JsValue} (h : v.Safe limit) :
    (v.prune keepsNamed).prune keepsPresent = normalize v := by
  induction h with
  | null => rfl
  | bool b => rfl
  | int _ => rfl
  | str s => rfl
  | @arr elems _ ih =>
      rw [JsValue.prune, JsValue.prune, normalize, JsValue.pruneElems_eq_map,
        JsValue.pruneElems_eq_map, List.map_map, normalizeElems_eq_map]
      exact congrArg JsValue.arr (List.map_congr_left ih)
  | @obj members _ _ ih =>
      rw [JsValue.prune, JsValue.prune, normalize]
      apply congrArg JsValue.obj
      clear * - ih
      induction members with
      | nil => rfl
      | cons m ms ihms =>
        obtain ⟨hm, hms⟩ := List.forall_mem_cons.mp ih
        rw [JsValue.pruneMembers, normalizeMembers, ← ihms hms, ← hm]
        by_cases hname : m.1 = protoName
        · have hnamed : keepsNamed m.1 (m.2.prune keepsNamed) = false := by
            simp [keepsNamed, hname]
          have hproto : m.1 = units "__proto__" := hname
          rw [if_neg (by simp [hnamed])]
          simp [hproto]
        · have hnamed : keepsNamed m.1 (m.2.prune keepsNamed) = true := by
            simp [keepsNamed, hname]
          rw [if_pos hnamed, JsValue.pruneMembers]
          have hne : ¬ m.1 = units "__proto__" := hname
          cases habsent : isAbsent ((m.2.prune keepsNamed).prune keepsPresent) with
          | true => simp [keepsPresent, habsent]
          | false => simp [keepsPresent, habsent, hne]

theorem hasOwn_filter (keep : JsString → Bool) {record : List (JsString × JsValue)} {name : String}
    (hkeep : keep (units name) = true) :
    hasOwn (record.filter fun m => keep m.1) name = hasOwn record name := by
  rw [hasOwn, hasOwn, List.any_filter]
  apply congrArg (fun p => record.any p)
  funext m
  by_cases hname : m.1 = units name
  · simp [hname, hkeep]
  · simp [hname]

theorem hasOwn_map (record : List (JsString × JsValue)) (name : String) (f : JsValue → JsValue) :
    hasOwn (record.map fun m => (m.1, f m.2)) name = hasOwn record name := by
  rw [hasOwn, hasOwn, List.any_map]
  rfl

theorem hasOwn_seenMembers (record : List (JsString × JsValue)) :
    hasOwn (seenMembers record) "canonicalization_id" = hasOwn record "canonicalization_id" := by
  have hshown : hasOwn (record.filter fun m => m.1 ∉ OBJECT_PROTOTYPE) "canonicalization_id" =
      hasOwn record "canonicalization_id" :=
    hasOwn_filter (fun k => decide (k ∉ OBJECT_PROTOTYPE)) (by decide)
  rw [seenMembers]
  split_ifs
  · exact hshown
  · rw [hasOwn_map, hshown]

theorem withoutPresent_eq (own : List JsString) (record : List (JsString × JsValue)) :
    withoutPresent own record =
      (record.filter fun m => m.1 ∉ OBJECT_PROTOTYPE).filter fun m => m.1 ∉ own := by
  rw [withoutPresent, List.filter_filter]
  apply List.filter_congr
  intro m _
  rw [present]
  simp

theorem safe_filter {members : List (JsString × JsValue)} (h : (JsValue.obj members).Safe limit)
    (keep : JsString × JsValue → Bool) : (JsValue.obj (members.filter keep)).Safe limit := by
  cases h with
  | obj hnames h =>
      apply JsValue.Safe.obj
      · exact hnames.sublist (List.filter_sublist.map Prod.fst)
      · exact fun m hm => h m (List.mem_of_mem_filter hm)

theorem safe_prune (keep : JsString → JsValue → Bool) {v : JsValue} (h : v.Safe limit) :
    (v.prune keep).Safe limit := by
  induction h with
  | null => exact .null
  | bool b => exact .bool b
  | int h => exact .int h
  | str s => exact .str s
  | arr _ ih =>
      rw [JsValue.prune, JsValue.pruneElems_eq_map]
      apply JsValue.Safe.arr
      intro e' he'
      obtain ⟨e, he, rfl⟩ := List.mem_map.mp he'
      exact ih e he
  | obj hnames _ ih =>
      rw [JsValue.prune, JsValue.pruneMembers_eq]
      apply safe_filter
      apply JsValue.Safe.obj
      · rwa [List.map_map]
      · intro m' hm'
        obtain ⟨m, hm, rfl⟩ := List.mem_map.mp hm'
        exact ih m hm

/-- Below names that are not `__proto__`, dropping by name is member by member. -/
theorem pruneMembers_named {members : List (JsString × JsValue)}
    (h : ∀ m ∈ members, m.1 ≠ protoName) :
    JsValue.pruneMembers keepsNamed members = members.map fun m => (m.1, m.2.prune keepsNamed) := by
  rw [JsValue.pruneMembers_eq, List.filter_eq_self]
  intro m' hm'
  obtain ⟨m, hm, rfl⟩ := List.mem_map.mp hm'
  exact decide_eq_true (h m hm)

theorem safe_map_prune {members : List (JsString × JsValue)}
    (h : (JsValue.obj members).Safe limit) (keep : JsString → JsValue → Bool) :
    (JsValue.obj (members.map fun m => (m.1, m.2.prune keep))).Safe limit := by
  cases h with
  | obj hnames h =>
      apply JsValue.Safe.obj
      · rwa [List.map_map]
      · intro m' hm'
        obtain ⟨m, hm, rfl⟩ := List.mem_map.mp hm'
        exact safe_prune keep (h m hm)

theorem safe_seenMembers {record : List (JsString × JsValue)}
    (h : (JsValue.obj record).Safe limit) : (JsValue.obj (seenMembers record)).Safe limit := by
  rw [seenMembers]
  split_ifs
  · exact safe_filter h _
  · exact safe_map_prune (safe_filter h _) _

theorem safe_boundMembers {record : List (JsString × JsValue)}
    (h : (JsValue.obj record).Safe limit) : (JsValue.obj (boundMembers record)).Safe limit := by
  rw [boundMembers]
  split_ifs
  · exact safe_filter h _
  · exact safe_prune keepsPresent (safe_filter h _)

/-- The value that is encoded has the bound members that can be seen. -/
theorem kept_eq {record : List (JsString × JsValue)} (h : (JsValue.obj record).Safe limit) :
    (if hasOwn record "canonicalization_id" then
      JsValue.obj (withoutPresent [units "capsule_id", units "signature", units "key_id"] record)
    else normalize (.obj (withoutPresent (CHAIN_LINKAGE ++ LOCAL_ONLY) record))) =
      .obj (boundMembers (seenMembers record)) := by
  rw [boundMembers, hasOwn_seenMembers, seenMembers]
  by_cases hcanonical : hasOwn record "canonicalization_id" = true
  · rw [if_pos hcanonical, if_pos hcanonical, if_pos hcanonical, withoutPresent_eq]
  · rw [if_neg hcanonical, if_neg hcanonical, if_neg hcanonical, withoutPresent_eq]
    have hsafe := safe_filter (safe_filter h fun m => decide (m.1 ∉ OBJECT_PROTOTYPE))
      fun m => decide (m.1 ∉ CHAIN_LINKAGE ++ LOCAL_ONLY)
    have hnames : ∀ m ∈ (record.filter fun m => m.1 ∉ OBJECT_PROTOTYPE).filter
        (fun m => m.1 ∉ CHAIN_LINKAGE ++ LOCAL_ONLY), m.1 ≠ protoName := by
      intro m hm hname
      have hshown := of_decide_eq_true (List.mem_filter.mp (List.mem_of_mem_filter hm)).2
      apply hshown
      rw [hname]
      decide
    rw [← prune_prune hsafe, JsValue.prune, JsValue.prune, pruneMembers_named hnames, List.filter_map]
    rfl

theorem recomputeCapsuleId_eq (sha256Hex : Python.Bytes → String)
    {record : List (JsString × JsValue)} (h : (JsValue.obj record).Safe MAX_SAFE) :
    recomputeCapsuleId sha256Hex record = .ok (sha256Hex (Python.utf8 (String.ofList
      (jcsScript.text (JsValue.obj (boundMembers (seenMembers record))).arrange.tree)))) := by
  obtain ⟨text, htext, hencodes⟩ := jcsValue_encodes (safe_boundMembers (safe_seenMembers h))
  have hscalars := hencodes.scalars [] notLow_nil
  rw [List.append_nil, scalarsOf, List.append_nil] at hscalars
  rw [← kept_eq h] at htext
  rw [recomputeCapsuleId, ← hscalars]
  split_ifs at htext ⊢ with hcanonical
  · simp only [htext]
    rfl
  · simp only [htext]
    rfl

/-! ## The order of members -/

/-- The members of an object in order, and in order below. -/
def arranged (members : List (JsString × JsValue)) : List (JsString × JsValue) :=
  sortedMembers (JsValue.arrangeMembers members)

theorem isAbsent_arrange (v : JsValue) : isAbsent v.arrange = isAbsent v := by
  cases v with
  | null => rfl
  | bool b => rfl
  | int n => rfl
  | fraction text => rfl
  | str s => rfl
  | arr elems =>
      rw [JsValue.arrange, JsValue.arrangeElems_eq_map, isAbsent, isAbsent, List.isEmpty_map]
  | obj members =>
      rw [JsValue.arrange, isAbsent, isAbsent, (sortByKey_perm _).isEmpty_eq,
        JsValue.arrangeMembers_eq_map, List.isEmpty_map]

theorem arrange_prune {keep : JsString → JsValue → Bool}
    (hkeep : ∀ k v, keep k (JsValue.arrange v) = keep k v) {v : JsValue} (h : v.Safe limit) :
    (v.prune keep).arrange = v.arrange.prune keep := by
  induction h with
  | null => rfl
  | bool b => rfl
  | int _ => rfl
  | str s => rfl
  | arr _ ih =>
      rw [JsValue.prune, JsValue.arrange, JsValue.arrange, JsValue.prune, JsValue.pruneElems_eq_map,
        JsValue.pruneElems_eq_map, JsValue.arrangeElems_eq_map, JsValue.arrangeElems_eq_map,
        List.map_map, List.map_map]
      exact congrArg JsValue.arr (List.map_congr_left ih)
  | @obj members _ _ ih =>
      have hvalues : (members.map fun m => (m.1, (m.2.prune keep).arrange)) =
          members.map fun m => (m.1, m.2.arrange.prune keep) := by
        apply List.map_congr_left
        intro m hm
        exact congrArg (m.1, ·) (ih m hm)
      have hkept : ((members.map fun m => (m.1, m.2.prune keep)).filter fun m => keep m.1 m.2).map
          (fun m => (m.1, m.2.arrange)) =
            (members.map fun m => (m.1, m.2.arrange.prune keep)).filter fun m => keep m.1 m.2 := by
        rw [← hvalues, List.filter_map, List.filter_map, List.map_map]
        congr 1
        apply List.filter_congr
        intro m _
        exact (hkeep m.1 (m.2.prune keep)).symm
      rw [JsValue.prune, JsValue.arrange, JsValue.arrange, JsValue.prune, JsValue.pruneMembers_eq,
        JsValue.pruneMembers_eq, JsValue.arrangeMembers_eq_map, JsValue.arrangeMembers_eq_map, hkept,
        ← sortedMembers_map, filter_sortByKey, List.map_map]
      rfl

theorem arranged_filter (keep : JsString → Bool) (members : List (JsString × JsValue)) :
    arranged (members.filter fun m => keep m.1) = (arranged members).filter fun m => keep m.1 := by
  rw [arranged, arranged, JsValue.arrangeMembers_eq_map, JsValue.arrangeMembers_eq_map,
    filter_sortByKey, List.filter_map]
  rfl

theorem arranged_map_prune {keep : JsString → JsValue → Bool}
    (hkeep : ∀ k v, keep k (JsValue.arrange v) = keep k v) {members : List (JsString × JsValue)}
    (h : (JsValue.obj members).Safe limit) :
    arranged (members.map fun m => (m.1, m.2.prune keep)) =
      (arranged members).map fun m => (m.1, m.2.prune keep) := by
  cases h with
  | obj _ h =>
      rw [arranged, arranged, JsValue.arrangeMembers_eq_map, JsValue.arrangeMembers_eq_map,
        ← sortedMembers_map, List.map_map, List.map_map]
      apply congrArg sortedMembers
      apply List.map_congr_left
      intro m hm
      exact congrArg (m.1, ·) (arrange_prune hkeep (h m hm))

theorem arranged_pruneMembers {keep : JsString → JsValue → Bool}
    (hkeep : ∀ k v, keep k (JsValue.arrange v) = keep k v) {members : List (JsString × JsValue)}
    (h : (JsValue.obj members).Safe limit) :
    arranged (JsValue.pruneMembers keep members) = JsValue.pruneMembers keep (arranged members) := by
  have hvalue := arrange_prune hkeep h
  rw [JsValue.prune, JsValue.arrange, JsValue.arrange, JsValue.prune, JsValue.obj.injEq] at hvalue
  exact hvalue

theorem hasOwn_arranged (members : List (JsString × JsValue)) (name : String) :
    hasOwn (arranged members) name = hasOwn members name := by
  rw [hasOwn, hasOwn, arranged, JsValue.arrangeMembers_eq_map,
    ((sortByKey_perm _).any_eq : (sortedMembers _).any _ = _), List.any_map]
  rfl

theorem keepsPresent_arrange (k : JsString) (v : JsValue) :
    keepsPresent k v.arrange = keepsPresent k v := by
  rw [keepsPresent, keepsPresent, isAbsent_arrange]

theorem arranged_boundMembers {record : List (JsString × JsValue)}
    (h : (JsValue.obj record).Safe limit) :
    arranged (boundMembers record) = boundMembers (arranged record) := by
  rw [boundMembers, boundMembers, hasOwn_arranged]
  split_ifs
  · exact arranged_filter
      (fun k => decide (k ∉ [units "capsule_id", units "signature", units "key_id"])) record
  · rw [arranged_pruneMembers keepsPresent_arrange (safe_filter h _)]
    exact congrArg (JsValue.pruneMembers keepsPresent)
      (arranged_filter (fun k => decide (k ∉ CHAIN_LINKAGE ++ LOCAL_ONLY)) record)

theorem arranged_seenMembers {record : List (JsString × JsValue)}
    (h : (JsValue.obj record).Safe limit) :
    arranged (seenMembers record) = seenMembers (arranged record) := by
  have hshown := arranged_filter (fun k => decide (k ∉ OBJECT_PROTOTYPE)) record
  rw [seenMembers, seenMembers, hasOwn_arranged]
  split_ifs
  · exact hshown
  · rw [arranged_map_prune (fun _ _ => rfl) (safe_filter h _)]
    exact congrArg (List.map fun m => (m.1, m.2.prune keepsNamed)) hshown

/-- Records that are the same but for the order of members look alike. -/
theorem lookAlike_of_same {record other : List (JsString × JsValue)}
    (h : (JsValue.obj record).Safe limit) (h' : (JsValue.obj other).Safe limit)
    (hsame : (JsValue.obj record).Same (.obj other)) : LookAlike record other := by
  have harranged : arranged record = arranged other := by
    rw [JsValue.Same, JsValue.arrange, JsValue.arrange, JsValue.obj.injEq] at hsame
    exact hsame
  have hbound : arranged (boundMembers (seenMembers record)) =
      arranged (boundMembers (seenMembers other)) := by
    rw [arranged_boundMembers (safe_seenMembers h), arranged_boundMembers (safe_seenMembers h'),
      arranged_seenMembers h, arranged_seenMembers h', harranged]
  exact congrArg (fun members => (JsValue.obj members).tree) hbound

/-! ## Reading the encoded text back -/

theorem safe_arrange {v : JsValue} (h : v.Safe limit) : v.arrange.Safe limit := by
  induction h with
  | null => exact .null
  | bool b => exact .bool b
  | int h => exact .int h
  | str s => exact .str s
  | arr _ ih =>
      rw [JsValue.arrange, JsValue.arrangeElems_eq_map]
      apply JsValue.Safe.arr
      intro e' he'
      obtain ⟨e, he, rfl⟩ := List.mem_map.mp he'
      exact ih e he
  | obj hnames _ ih =>
      rw [JsValue.arrange, JsValue.arrangeMembers_eq_map]
      apply JsValue.Safe.obj
      · rw [((sortByKey_perm _).map Prod.fst).nodup_iff, List.map_map]
        exact hnames
      · intro m' hm'
        obtain ⟨m, hm, rfl⟩ := List.mem_map.mp ((sortByKey_perm _).mem_iff.mp hm')
        exact ih m hm

theorem valid_tree {v : JsValue} (h : v.Safe limit) : v.tree.Valid JsonWord.Valid := by
  induction h with
  | null => exact .word trivial
  | bool b => exact .word trivial
  | int h => exact .word trivial
  | str s => exact .str _
  | arr _ ih =>
      rw [JsValue.tree, JsValue.treeElems_eq_map]
      apply TextTree.Valid.list
      intro t ht
      obtain ⟨e, he, rfl⟩ := List.mem_map.mp ht
      exact ih e he
  | obj _ _ ih =>
      rw [JsValue.tree, JsValue.treeMembers_eq_map]
      apply TextTree.Valid.dict
      intro t ht
      obtain ⟨m, hm, rfl⟩ := List.mem_map.mp ht
      exact ih m hm

theorem lookAlike_of_id_eq {sha256Hex : Python.Bytes → String}
    (hsha : Function.Injective sha256Hex) {record other : List (JsString × JsValue)}
    (h : (JsValue.obj record).Safe MAX_SAFE) (h' : (JsValue.obj other).Safe MAX_SAFE) {id : String}
    (hid : recomputeCapsuleId sha256Hex record = .ok id)
    (hid' : recomputeCapsuleId sha256Hex other = .ok id) : LookAlike record other := by
  rw [recomputeCapsuleId_eq sha256Hex h, Except.ok.injEq] at hid
  rw [recomputeCapsuleId_eq sha256Hex h', Except.ok.injEq] at hid'
  have htext := String.ofList_injective (Python.utf8_injective (hsha (hid.trans hid'.symm)))
  exact jcsScript_readable.text_injective
    (valid_tree (safe_arrange (safe_boundMembers (safe_seenMembers h))))
    (valid_tree (safe_arrange (safe_boundMembers (safe_seenMembers h')))) htext

/-- The check catches a difference of bound members exactly when the records do not look alike, and
it never depends on the order of members. -/
theorem tampering_caught_iff (sha256Hex : Python.Bytes → String)
    (hsha : Function.Injective sha256Hex) (record other : List (JsString × JsValue))
    (h : (JsValue.obj record).Safe MAX_SAFE) (h' : (JsValue.obj other).Safe MAX_SAFE) :
    ((∀ id, recomputeCapsuleId sha256Hex record = .ok id →
        recomputeCapsuleId sha256Hex other = .ok id → Agree record other) ∧
      ((JsValue.obj record).Same (.obj other) →
        recomputeCapsuleId sha256Hex record = recomputeCapsuleId sha256Hex other)) ↔
      (LookAlike record other → Agree record other) := by
  have hsameId : LookAlike record other →
      recomputeCapsuleId sha256Hex record = recomputeCapsuleId sha256Hex other := by
    intro halike
    rw [recomputeCapsuleId_eq sha256Hex h, recomputeCapsuleId_eq sha256Hex h',
      (halike : (JsValue.obj (boundMembers (seenMembers record))).arrange.tree = _)]
  constructor
  · rintro ⟨hcaught, -⟩ halike
    have hid := recomputeCapsuleId_eq sha256Hex h
    exact hcaught _ hid ((hsameId halike).symm.trans hid)
  · intro hagree
    refine ⟨?_, fun hsame => hsameId (lookAlike_of_same h h' hsame)⟩
    intro id hid hid'
    exact hagree (lookAlike_of_id_eq hsha h h' hid hid')

/-! ## A member that is not seen -/

def sealedRecord : List (JsString × JsValue) := [(units "action_id", .str (units "a"))]

/-- The record with one more member, of a name that every object has. -/
def tamperedRecord : List (JsString × JsValue) :=
  (units "toString", .str (units "x")) :: sealedRecord

theorem safe_tamperedRecord : (JsValue.obj tamperedRecord).Safe MAX_SAFE := by
  apply JsValue.Safe.obj (by decide)
  intro m hm
  simp only [tamperedRecord, sealedRecord, List.mem_cons, List.not_mem_nil, or_false] at hm
  obtain rfl | rfl := hm
  · exact .str _
  · exact .str _

theorem safe_sealedRecord : (JsValue.obj sealedRecord).Safe MAX_SAFE := by
  apply JsValue.Safe.obj (by decide)
  intro m hm
  obtain rfl := List.mem_singleton.mp hm
  exact .str _

theorem tampered_record_same_id :
    (∃ id, recomputeCapsuleId Python.hexText sealedRecord = .ok id ∧
      recomputeCapsuleId Python.hexText tamperedRecord = .ok id) ∧
      ¬ Agree sealedRecord tamperedRecord := by
  constructor
  · refine ⟨_, recomputeCapsuleId_eq _ safe_sealedRecord, ?_⟩
    rw [recomputeCapsuleId_eq _ safe_tamperedRecord]
    rfl
  · intro hagree
    have hmember := hagree (units "toString")
    have hsealed : (boundMembers sealedRecord).lookup (units "toString") = none := rfl
    have htampered : (boundMembers tamperedRecord).lookup (units "toString") =
        some (.str (units "x")) := rfl
    rw [hsealed, htampered] at hmember
    cases hmember

theorem tampering_caught_at_tamperedRecord :
    ((∀ id, recomputeCapsuleId Python.hexText sealedRecord = .ok id →
        recomputeCapsuleId Python.hexText tamperedRecord = .ok id →
          Agree sealedRecord tamperedRecord) ∧
      ((JsValue.obj sealedRecord).Same (.obj tamperedRecord) →
        recomputeCapsuleId Python.hexText sealedRecord =
          recomputeCapsuleId Python.hexText tamperedRecord)) ↔
      (LookAlike sealedRecord tamperedRecord → Agree sealedRecord tamperedRecord) :=
  tampering_caught_iff Python.hexText Python.hexText_injective sealedRecord tamperedRecord
    safe_sealedRecord safe_tamperedRecord

end CapsuleMesh.Browser
