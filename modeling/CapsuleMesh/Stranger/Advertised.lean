import CapsuleMesh.Stranger.Bundle

/-!
# An advertisement against what was served

`advertisement.py`: the artifact with its dictionary form, and the whole result of
`reconcile_advertised_vs_served`.  The bundle verifier prints two fields of it.
-/

namespace CapsuleMesh.Advertised

open Python Stranger
open JoinCard (valuesEqual)

def ADVERTISEMENT_SCHEMA : String := "capsule-emit-mesh/advertisement/v1"

def ADVERTISEMENT_SELF_SIGNED_NOTE : String :=
  "advertisement-self-signed: the advertisement is signed by the same node " ++
    "that served; a match reconciles two self-attested claims from one party, " ++
    "not one party's claim against an independently-held counterparty note. " ++
    "A mismatch is still attributable and portable; a match is not proof of a " ++
    "second, independent party. TRUST-MODEL.md §9.1 (membership-gated " ++
    "member-signed discovery note) is the deployment that closes this."

/-! ## The artifact -/

/-- The extras are a dictionary: no empty value but `{}` stands for them. -/
structure Advertisement where
  nodeId : Json
  modelId : Json := .null
  modelCanonicalRef : Json := .null
  quantization : Json := .null
  hardwareGpu : Json := .null
  hardwareVramBytes : Json := .null
  hardwareIsSoc : Json := .null
  extra : Json := .obj []
  issuedAt : Json := .null
  extra_or : extra.or (.obj []) = extra := by rfl

theorem or_empty_idem (j : Json) : (j.or (.obj [])).or (.obj []) = j.or (.obj []) := by
  cases h : j.truthy with
  | false => rw [Json.or_of_falsy h, Json.obj_or_empty]
  | true => rw [Json.or_of_truthy h, Json.or_of_truthy h]

namespace Advertisement

def toValue (ad : Advertisement) : Json :=
  .obj
    [("schema", .str ADVERTISEMENT_SCHEMA),
     ("node_id", ad.nodeId),
     ("model_id", ad.modelId),
     ("model_canonical_ref", ad.modelCanonicalRef),
     ("quantization", ad.quantization),
     ("hardware", .obj
       [("gpu", ad.hardwareGpu),
        ("vram_bytes", ad.hardwareVramBytes),
        ("is_soc", ad.hardwareIsSoc)]),
     ("extra", ad.extra),
     ("issued_at", ad.issuedAt)]

def fromValue (value : Json) : Py Advertisement := do
  let hw := (← value.get "hardware").or (.obj [])
  let nodeId ← value.getD "node_id" (.str "")
  let modelId ← value.get "model_id"
  let modelCanonicalRef ← value.get "model_canonical_ref"
  let quantization ← value.get "quantization"
  let hardwareGpu ← hw.get "gpu"
  let hardwareVramBytes ← hw.get "vram_bytes"
  let hardwareIsSoc ← hw.get "is_soc"
  let extra ← value.get "extra"
  let issuedAt ← value.get "issued_at"
  return {
    nodeId, modelId, modelCanonicalRef, quantization, hardwareGpu, hardwareVramBytes,
    hardwareIsSoc, issuedAt
    extra := extra.or (.obj [])
    extra_or := or_empty_idem extra }

/-- `json.dumps(self.to_value(), sort_keys=True, separators=(",", ":"))`, hashed. -/
def digest (T : Tools) (ad : Advertisement) : String := T.text.sha256Hex (jcs ad.toValue)

/-- The advertised facts, in the order of `RECONCILED_FIELDS`. -/
def facts (ad : Advertisement) : List Json :=
  [ad.modelId, ad.modelCanonicalRef, ad.quantization, ad.hardwareGpu, ad.hardwareVramBytes,
   ad.hardwareIsSoc]

/-- Reading a dictionary whose hardware block is one, or is empty. -/
theorem fromValue_obj {members hw : List (String × Json)}
    (hhw : ((members.lookup "hardware").getD .null).or (.obj []) = .obj hw) :
    fromValue (.obj members) = .ok
      { nodeId := (members.lookup "node_id").getD (.str "")
        modelId := (members.lookup "model_id").getD .null
        modelCanonicalRef := (members.lookup "model_canonical_ref").getD .null
        quantization := (members.lookup "quantization").getD .null
        hardwareGpu := (hw.lookup "gpu").getD .null
        hardwareVramBytes := (hw.lookup "vram_bytes").getD .null
        hardwareIsSoc := (hw.lookup "is_soc").getD .null
        extra := ((members.lookup "extra").getD .null).or (.obj [])
        issuedAt := (members.lookup "issued_at").getD .null
        extra_or := or_empty_idem _ } := by
  simp only [fromValue, Json.get_obj, Json.getD_obj, bind, Except.bind, hhw]
  rfl

theorem fromValue_toValue (ad : Advertisement) : fromValue ad.toValue = .ok ad := by
  obtain ⟨nodeId, modelId, modelCanonicalRef, quantization, gpu, vramBytes, isSoc, extra, issuedAt,
    hextra⟩ := ad
  apply (fromValue_obj rfl).trans
  simp [List.lookup_cons, hextra]

end Advertisement

/-! ## The fields -/

/-- One entry of `fields`, under its name. -/
structure Field where
  name : String
  advertised : Json
  served : Json
  verdict : FieldVerdict

/-- The loop of `reconcile_advertised_vs_served`. -/
structure Walk where
  fields : List Field
  mismatches : List String
  anyReconcilable : Bool

def Walk.start : Walk := ⟨[], [], false⟩

def fieldOf (T : Tools) (spec : String × Json × Option Json) : Field :=
  { name := spec.1
    advertised := spec.2.1
    served := spec.2.2.getD .null
    verdict := reconcileField T spec.2.1 spec.2.2 }

def Walk.step (T : Tools) (walk : Walk) (spec : String × Json × Option Json) : Walk :=
  let entry := fieldOf T spec
  { fields := walk.fields ++ [entry]
    mismatches :=
      if entry.verdict = .mismatch then walk.mismatches ++ [spec.1] else walk.mismatches
    anyReconcilable :=
      if entry.verdict = .isMatch ∨ entry.verdict = .mismatch then true
      else walk.anyReconcilable }

def fieldSpecs (ad : Advertisement) (served : List (Option Json)) :
    List (String × Json × Option Json) :=
  RECONCILED_FIELDS.zip (ad.facts.zip served)

inductive Overall where
  | advertisementAbsent
  | noServedFacts
  | mismatch
  | partialMatch
  | isMatch
deriving DecidableEq

structure Reconciled where
  overall : Overall
  advertisementPresent : Bool
  advertisementDigest : Option String
  advertisementIssuedAt : Json
  advertisedNodeId : Json
  servedNodeId : Json
  nodeIdConsistent : Option Bool
  fields : List Field
  mismatches : List String
  advertisementSelfSigned : String

/-- `advertisement`: nothing, the artifact, or its dictionary form. -/
inductive Supplied where
  | nothing
  | artifact (ad : Advertisement)
  | value (j : Json)

def Supplied.read : Supplied → Py (Option Advertisement)
  | .nothing => .ok none
  | .artifact ad => .ok (some ad)
  | .value j => some <$> Advertisement.fromValue j

def nodeIdConsistent (advertised served : Json) : Option Bool :=
  if advertised.truthy && served.truthy then some (advertised.pyEq served) else none

def overallOf (walk : Walk) (mismatches : List String) : Overall :=
  let hasNotAdvertised := walk.fields.any fun f => f.verdict = .notAdvertised
  let anyServed := walk.anyReconcilable || hasNotAdvertised
  if !anyServed then .noServedFacts
  else if !mismatches.isEmpty then .mismatch
  else if hasNotAdvertised then .partialMatch
  else .isMatch

def reconciled (T : Tools) (ad : Advertisement) (served : List (Option Json))
    (servedNodeId : Json) : Reconciled :=
  let walk := (fieldSpecs ad served).foldl (Walk.step T) .start
  let consistent := nodeIdConsistent ad.nodeId servedNodeId
  let mismatches :=
    if consistent = some false then walk.mismatches ++ ["node_id"] else walk.mismatches
  { overall := overallOf walk mismatches
    advertisementPresent := true
    advertisementDigest := some (ad.digest T)
    advertisementIssuedAt := ad.issuedAt
    advertisedNodeId := ad.nodeId.or .null
    servedNodeId := servedNodeId
    nodeIdConsistent := consistent
    fields := walk.fields
    mismatches := mismatches
    advertisementSelfSigned := ADVERTISEMENT_SELF_SIGNED_NOTE }

def advertisementAbsent (servedNodeId : Json) : Reconciled :=
  { overall := .advertisementAbsent
    advertisementPresent := false
    advertisementDigest := none
    advertisementIssuedAt := .null
    advertisedNodeId := .null
    servedNodeId := servedNodeId
    nodeIdConsistent := none
    fields := []
    mismatches := []
    advertisementSelfSigned := ADVERTISEMENT_SELF_SIGNED_NOTE }

def servedNodeIdOf (servingProvenance : Json) : Py Json :=
  (servingProvenance.or (.obj [])).get "served_by_node_id"

def reconcileAdvertisedVsServed (T : Tools) (advertisement : Supplied)
    (servingProvenance : Json) : Py Reconciled := do
  match ← advertisement.read with
  | none => return advertisementAbsent (← servedNodeIdOf servingProvenance)
  | some ad =>
      let served ← servedFacts servingProvenance
      let servedNodeId ← servedNodeIdOf servingProvenance
      return reconciled T ad served servedNodeId

/-! ## The loop -/

/-- One turn adds the entry of its field, and its name where the field mismatched. -/
theorem Walk.step_eq (T : Tools) (walk : Walk) (spec : String × Json × Option Json) :
    walk.step T spec =
      { fields := walk.fields ++ [fieldOf T spec]
        mismatches := walk.mismatches ++
          if (fieldOf T spec).verdict = .mismatch then [spec.1] else []
        anyReconcilable := walk.anyReconcilable ||
          decide ((fieldOf T spec).verdict = .isMatch ∨ (fieldOf T spec).verdict = .mismatch) } := by
  unfold Walk.step
  by_cases hmismatch : (fieldOf T spec).verdict = .mismatch
  · simp [hmismatch]
  · by_cases hmatch : (fieldOf T spec).verdict = .isMatch <;> simp [hmismatch, hmatch]

/-- The loop leaves the entries of the fields, and the names of the fields that mismatched. -/
theorem foldl_step (T : Tools) (specs : List (String × Json × Option Json)) (walk : Walk) :
    specs.foldl (Walk.step T) walk =
      { fields := walk.fields ++ specs.map (fieldOf T)
        mismatches := walk.mismatches ++
          (specs.filter fun spec => (fieldOf T spec).verdict = .mismatch).map Prod.fst
        anyReconcilable := walk.anyReconcilable || specs.any fun spec =>
          decide ((fieldOf T spec).verdict = .isMatch ∨ (fieldOf T spec).verdict = .mismatch) } := by
  induction specs generalizing walk with
  | nil => simp
  | cons spec specs ih =>
      rw [List.foldl_cons, ih, Walk.step_eq]
      by_cases hmismatch : (fieldOf T spec).verdict = .mismatch <;>
        simp [hmismatch, Bool.or_assoc]

/-! ## Promises -/

/-- The record carries the fact, as another value than the text `unknown`. -/
def ServedFact (served : Option Json) : Prop := ∃ value, served = some value ∧ value.isNull = false

/-- The fact is advertised and served, with unequal values. -/
def Broken (T : Tools) (spec : String × Json × Option Json) : Prop :=
  spec.2.1.isNull = false ∧ ∃ value, spec.2.2 = some value ∧ value.isNull = false ∧
    valuesEqual T.text spec.2.1 value = false

/-- The fact is advertised and served, with equal values. -/
def Kept (T : Tools) (spec : String × Json × Option Json) : Prop :=
  spec.2.1.isNull = false ∧ ∃ value, spec.2.2 = some value ∧ value.isNull = false ∧
    valuesEqual T.text spec.2.1 value = true

def DifferentNodes (advertised served : Json) : Prop :=
  advertised.truthy = true ∧ served.truthy = true ∧ advertised.pyEq served = false

theorem nodeIdConsistent_iff (advertised served : Json) :
    nodeIdConsistent advertised served = some false ↔ DifferentNodes advertised served := by
  unfold nodeIdConsistent DifferentNodes
  cases advertised.truthy <;> cases served.truthy <;> simp

section

variable (T : Tools) (spec : String × Json × Option Json)

theorem verdict_cases :
    (fieldOf T spec).verdict = .isMatch ∧ Kept T spec ∨
    (fieldOf T spec).verdict = .mismatch ∧ Broken T spec ∨
    (fieldOf T spec).verdict = .notAdvertised ∧ ServedFact spec.2.2 ∧ spec.2.1.isNull = true ∨
    (fieldOf T spec).verdict ≠ .isMatch ∧ (fieldOf T spec).verdict ≠ .mismatch ∧
      (fieldOf T spec).verdict ≠ .notAdvertised ∧ ¬ ServedFact spec.2.2 := by
  obtain ⟨name, advertised, served⟩ := spec
  simp only [fieldOf, reconcileField, Kept, Broken, ServedFact]
  cases served with
  | none => simp
  | some value =>
      cases hvalue : value.isNull with
      | true => simp [hvalue]
      | false =>
        cases hadvertised : advertised.isNull with
        | true => simp [hvalue]
        | false => cases hequal : valuesEqual T.text advertised value <;> simp [hvalue, hequal]

variable {T spec}

theorem Kept.servedFact (h : Kept T spec) : ServedFact spec.2.2 := by
  obtain ⟨-, value, hserved, hvalue, -⟩ := h
  exact ⟨value, hserved, hvalue⟩

theorem Broken.servedFact (h : Broken T spec) : ServedFact spec.2.2 := by
  obtain ⟨-, value, hserved, hvalue, -⟩ := h
  exact ⟨value, hserved, hvalue⟩

theorem Broken.not_kept (h : Broken T spec) : ¬ Kept T spec := by
  obtain ⟨-, value, hserved, -, hunequal⟩ := h
  rintro ⟨-, value', hserved', -, hequal⟩
  obtain rfl : value = value' := Option.some.inj (hserved.symm.trans hserved')
  exact Bool.false_ne_true (hunequal.symm.trans hequal)

theorem verdict_mismatch_iff : (fieldOf T spec).verdict = .mismatch ↔ Broken T spec := by
  rcases verdict_cases T spec with ⟨hv, h⟩ | ⟨hv, h⟩ | ⟨hv, -, h⟩ | ⟨-, hv, -, h⟩
  · simp only [hv, reduceCtorEq, false_iff]
    exact fun hbroken => hbroken.not_kept h
  · simp [hv, h]
  · simp [hv, Broken, h]
  · simp only [hv, false_iff]
    exact fun hbroken => h hbroken.servedFact

theorem verdict_served_iff :
    ((fieldOf T spec).verdict = .isMatch ∨ (fieldOf T spec).verdict = .mismatch) ∨
      (fieldOf T spec).verdict = .notAdvertised ↔ ServedFact spec.2.2 := by
  rcases verdict_cases T spec with ⟨hv, h⟩ | ⟨hv, h⟩ | ⟨hv, h, -⟩ | ⟨hm, hmm, hna, h⟩
  · simp [hv, h.servedFact]
  · simp [hv, h.servedFact]
  · simp [hv, h]
  · simp [hm, hmm, hna, h]

theorem kept_of_verdict (hserved : ServedFact spec.2.2)
    (hmismatch : (fieldOf T spec).verdict ≠ .mismatch)
    (hadvertised : (fieldOf T spec).verdict ≠ .notAdvertised) : Kept T spec := by
  rcases verdict_cases T spec with ⟨-, h⟩ | ⟨hv, -⟩ | ⟨hv, -⟩ | ⟨-, -, -, h⟩
  · exact h
  · exact absurd hv hmismatch
  · exact absurd hv hadvertised
  · exact absurd hserved h

end

/-! ## The overall outcome -/

section

variable (T : Tools) (ad : Advertisement) (served : List (Option Json)) (servedNodeId : Json)

theorem reconciled_fields :
    (reconciled T ad served servedNodeId).fields = (fieldSpecs ad served).map (fieldOf T) := by
  simp [reconciled, foldl_step, Walk.start]

theorem reconciled_mismatches :
    (reconciled T ad served servedNodeId).mismatches =
      ((fieldSpecs ad served).filter fun spec ↦ (fieldOf T spec).verdict = .mismatch).map Prod.fst ++
        if nodeIdConsistent ad.nodeId servedNodeId = some false then ["node_id"] else [] := by
  simp only [reconciled, foldl_step, Walk.start, List.nil_append]
  split <;> simp

/-- The names that are reported: the broken promises, and the node id where it differs. -/
theorem reconciled_mismatches_nil_iff :
    (reconciled T ad served servedNodeId).mismatches = [] ↔
      (∀ spec ∈ fieldSpecs ad served, ¬ Broken T spec) ∧
        ¬ DifferentNodes ad.nodeId servedNodeId := by
  rw [reconciled_mismatches, List.append_eq_nil_iff, List.map_eq_nil_iff, List.filter_eq_nil_iff,
    ← nodeIdConsistent_iff]
  simp [verdict_mismatch_iff]

/-- No outcome is reached but on a fact that was served. -/
theorem anyServed_iff :
    ((reconciled T ad served servedNodeId).fields.any fun f =>
        decide (f.verdict = .isMatch ∨ f.verdict = .mismatch)) = true ∨
      ((reconciled T ad served servedNodeId).fields.any fun f =>
        decide (f.verdict = .notAdvertised)) = true ↔
      ∃ spec ∈ fieldSpecs ad served, ServedFact spec.2.2 := by
  simp only [reconciled_fields, List.any_map, List.any_eq_true, Function.comp_apply,
    decide_eq_true_eq, ← verdict_served_iff (T := T)]
  constructor
  · rintro (⟨spec, hmem, hv⟩ | ⟨spec, hmem, hv⟩)
    · exact ⟨spec, hmem, Or.inl hv⟩
    · exact ⟨spec, hmem, Or.inr hv⟩
  · rintro ⟨spec, hmem, hv | hv⟩
    · exact Or.inl ⟨spec, hmem, hv⟩
    · exact Or.inr ⟨spec, hmem, hv⟩

/-- The cascade, in terms of what the result reports. -/
theorem reconciled_overall :
    (reconciled T ad served servedNodeId).overall =
      let fields := (reconciled T ad served servedNodeId).fields
      let notAdvertised := fields.any fun f => decide (f.verdict = .notAdvertised)
      if !((fields.any fun f => decide (f.verdict = .isMatch ∨ f.verdict = .mismatch)) ||
          notAdvertised) then .noServedFacts
      else if !(reconciled T ad served servedNodeId).mismatches.isEmpty then .mismatch
      else if notAdvertised then .partialMatch
      else .isMatch := by
  have hreconcilable : ((fieldSpecs ad served).foldl (Walk.step T) .start).anyReconcilable =
      ((fieldSpecs ad served).foldl (Walk.step T) .start).fields.any fun f =>
        decide (f.verdict = .isMatch ∨ f.verdict = .mismatch) := by
    simp [foldl_step, Walk.start, Function.comp_def]
  simp only [reconciled, overallOf, hreconcilable]

theorem overall_mismatch_iff :
    (reconciled T ad served servedNodeId).overall = .mismatch ↔
      (∃ spec ∈ fieldSpecs ad served, ServedFact spec.2.2) ∧
        ((∃ spec ∈ fieldSpecs ad served, Broken T spec) ∨
          DifferentNodes ad.nodeId servedNodeId) := by
  have hserved := anyServed_iff T ad served servedNodeId
  have hmismatches := reconciled_mismatches_nil_iff T ad served servedNodeId
  rw [← Bool.or_eq_true] at hserved
  rw [reconciled_overall]
  simp only
  split
  next hnone =>
      rw [Bool.not_eq_true'] at hnone
      rw [← hserved, hnone]
      simp
  next hsome =>
      rw [Bool.not_eq_true', Bool.not_eq_false] at hsome
      rw [← hserved]
      split
      next hreported =>
          have hne : (reconciled T ad served servedNodeId).mismatches ≠ [] := by simpa using hreported
          simp only [true_iff]
          refine ⟨hsome, ?_⟩
          by_contra hboth
          rw [not_or] at hboth
          apply hne
          rw [hmismatches]
          exact ⟨fun spec hmem hbroken => hboth.1 ⟨spec, hmem, hbroken⟩, hboth.2⟩
      next hreported =>
          have hnil : (reconciled T ad served servedNodeId).mismatches = [] := by simpa using hreported
          obtain ⟨hkept, hsame⟩ := hmismatches.mp hnil
          have hright : ¬ ((∃ spec ∈ fieldSpecs ad served, Broken T spec) ∨
              DifferentNodes ad.nodeId servedNodeId) := by
            rintro (⟨spec, hmem, hbroken⟩ | hdifferent)
            · exact hkept spec hmem hbroken
            · exact hsame hdifferent
          split
          · exact iff_of_false (by decide) fun h => hright h.2
          · exact iff_of_false (by decide) fun h => hright h.2

theorem kept_of_overall (h : (reconciled T ad served servedNodeId).overall = .isMatch) :
    ∀ spec ∈ fieldSpecs ad served, ServedFact spec.2.2 → Kept T spec := by
  intro spec hmem hserved
  have hmismatches := reconciled_mismatches_nil_iff T ad served servedNodeId
  rw [reconciled_overall] at h
  simp only [reconciled_fields] at h
  split at h
  · cases h
  split at h
  · cases h
  next hreported =>
      split at h
      · cases h
      next hadvertised =>
          have hnil : (reconciled T ad served servedNodeId).mismatches = [] := by simpa using hreported
          have hunbroken := (hmismatches.mp hnil).1 spec hmem
          apply kept_of_verdict hserved
          · rw [ne_eq, verdict_mismatch_iff]
            exact hunbroken
          · intro hv
            apply hadvertised
            rw [List.any_map, List.any_eq_true]
            exact ⟨spec, hmem, by simp [hv]⟩

end

/-! ## Both shapes of the record -/

/-- A dictionary, or an empty value that stands for one. -/
def DictOrEmpty (j : Json) : Prop := ∃ members, j.or (.obj []) = .obj members

/-- A record, nested or flat: the blocks for the model and the hardware may be missing. -/
structure IsRecord (servingProvenance : Json) (members : List (String × Json)) : Prop where
  members_eq : servingProvenance.or (.obj []) = .obj members
  model : DictOrEmpty ((members.lookup "model").getD .null)
  hardware : DictOrEmpty ((members.lookup "hardware").getD .null)

/-- An artifact, or a dictionary whose hardware block is one or is empty. -/
def Supplied.Readable : Supplied → Prop
  | .value j => ∃ members, j = .obj members ∧ DictOrEmpty ((members.lookup "hardware").getD .null)
  | _ => True

theorem Supplied.Readable.returns {supplied : Supplied} (h : supplied.Readable) :
    ∃ ad, supplied.read = .ok ad := by
  cases supplied with
  | nothing => exact ⟨none, rfl⟩
  | artifact ad => exact ⟨some ad, rfl⟩
  | value j =>
      obtain ⟨members, rfl, hw, hhw⟩ := h
      rw [Supplied.read, Advertisement.fromValue_obj hhw]
      exact ⟨_, rfl⟩

theorem orGet_returns {first second : Py Json} (hfirst : ∃ v, first = .ok v)
    (hsecond : ∃ v, second = .ok v) : ∃ v, orGet first second = .ok v := by
  obtain ⟨v, rfl⟩ := hfirst
  unfold orGet
  cases hv : v.truthy with
  | true => exact ⟨v, by simp [bind, Except.bind, hv, pure, Except.pure]⟩
  | false =>
      obtain ⟨w, rfl⟩ := hsecond
      exact ⟨w, by simp [bind, Except.bind, hv]⟩

theorem ifNotNone_returns {first second : Py Json} (hfirst : ∃ v, first = .ok v)
    (hsecond : ∃ v, second = .ok v) : ∃ v, ifNotNone first second = .ok v := by
  obtain ⟨v, rfl⟩ := hfirst
  unfold ifNotNone
  cases hv : v.isNull with
  | true =>
      obtain ⟨w, rfl⟩ := hsecond
      exact ⟨w, by simp [bind, Except.bind, hv]⟩
  | false => exact ⟨v, by simp [bind, Except.bind, hv, pure, Except.pure]⟩

theorem IsRecord.servedFacts_returns {servingProvenance : Json} {members : List (String × Json)}
    (h : IsRecord servingProvenance members) :
    ∃ served, servedFacts servingProvenance = .ok served := by
  obtain ⟨model, hmodel⟩ := h.model
  obtain ⟨hardware, hhardware⟩ := h.hardware
  have hget : ∀ (ms : List (String × Json)) (key : String), ∃ v, (Json.obj ms).get key = .ok v :=
    fun ms key => ⟨_, Json.get_obj ms key⟩
  have hfacts : ∃ facts, [
      orGet ((Json.obj members).get "model_id") ((Json.obj model).get "model_id"),
      orGet ((Json.obj members).get "model_canonical_ref") ((Json.obj model).get "canonical_ref"),
      (Json.obj members).get "quantization",
      orGet ((Json.obj hardware).get "gpu") ((Json.obj members).get "gpu"),
      ifNotNone ((Json.obj hardware).get "vram_bytes") ((Json.obj members).get "vram_bytes"),
      ifNotNone ((Json.obj hardware).get "is_soc") ((Json.obj members).get "is_soc")].mapM id =
        Except.ok facts := by
    apply Py.mapM_returns.mpr
    simp only [List.mem_cons, List.not_mem_nil, or_false, forall_eq_or_imp, forall_eq, id_eq]
    refine ⟨?_, ?_, hget _ _, ?_, ?_, ?_⟩
    · exact orGet_returns (hget _ _) (hget _ _)
    · exact orGet_returns (hget _ _) (hget _ _)
    · exact orGet_returns (hget _ _) (hget _ _)
    · exact ifNotNone_returns (hget _ _) (hget _ _)
    · exact ifNotNone_returns (hget _ _) (hget _ _)
  obtain ⟨facts, hfacts⟩ := hfacts
  refine ⟨facts.map cleanServed, ?_⟩
  unfold servedFacts
  simp only [h.members_eq, Json.get_obj members "model", Json.get_obj members "hardware", bind,
    Except.bind, hmodel, hhardware]
  rw [hfacts]
  rfl

theorem IsRecord.servedNodeId {servingProvenance : Json} {members : List (String × Json)}
    (h : IsRecord servingProvenance members) : servedNodeIdOf servingProvenance =
      .ok ((members.lookup "served_by_node_id").getD .null) := by
  rw [servedNodeIdOf, h.members_eq, Json.get_obj]

/-! ## What the result says -/

section

variable (T : Tools) (supplied : Supplied) (servingProvenance : Json)

/-- What is compared: the advertisement, the served facts and the node id of the record. -/
structure Compared (ad : Advertisement) (served : List (Option Json)) (servedNodeId : Json) :
    Prop where
  read : supplied.read = .ok (some ad)
  facts : servedFacts servingProvenance = .ok served
  nodeId : servedNodeIdOf servingProvenance = .ok servedNodeId

/-- The overall outcome and the round trip of the advertisement, as they should be. -/
structure Faithful (result : Reconciled) : Prop where
  mismatch_iff : result.overall = .mismatch ↔ ∃ ad served servedNodeId,
    Compared supplied servingProvenance ad served servedNodeId ∧
      ((∃ spec ∈ fieldSpecs ad served, Broken T spec) ∨ DifferentNodes ad.nodeId servedNodeId)
  match_only : result.overall = .isMatch → ∃ ad served servedNodeId,
    Compared supplied servingProvenance ad served servedNodeId ∧
      ∀ spec ∈ fieldSpecs ad served, ServedFact spec.2.2 → Kept T spec
  round_trip : ∀ ad, supplied.read = .ok (some ad) →
    reconcileAdvertisedVsServed T (.value ad.toValue) servingProvenance = .ok result ∧
      ∃ ad', Advertisement.fromValue ad.toValue = .ok ad' ∧
        reconcileAdvertisedVsServed T (.artifact ad') servingProvenance = .ok result

/-- Where the node ids differ, the record carries some fact. -/
def ServesWhereNodesDiffer : Prop :=
  ∀ ad served servedNodeId, Compared supplied servingProvenance ad served servedNodeId →
    DifferentNodes ad.nodeId servedNodeId → ∃ spec ∈ fieldSpecs ad served, ServedFact spec.2.2

end

section

variable {T : Tools} {supplied : Supplied} {servingProvenance : Json}

theorem Compared.unique {ad ad' : Advertisement} {served served' : List (Option Json)}
    {nodeId nodeId' : Json} (h : Compared supplied servingProvenance ad served nodeId)
    (h' : Compared supplied servingProvenance ad' served' nodeId') :
    ad' = ad ∧ served' = served ∧ nodeId' = nodeId :=
  ⟨Option.some.inj (Except.ok.inj (h'.read.symm.trans h.read)),
    Except.ok.inj (h'.facts.symm.trans h.facts), Except.ok.inj (h'.nodeId.symm.trans h.nodeId)⟩

theorem Compared.reconcile {ad : Advertisement} {served : List (Option Json)} {nodeId : Json}
    (h : Compared supplied servingProvenance ad served nodeId) :
    reconcileAdvertisedVsServed T supplied servingProvenance =
      .ok (reconciled T ad served nodeId) := by
  unfold reconcileAdvertisedVsServed
  rw [h.read, h.facts, h.nodeId]
  rfl

/-- An advertisement in its dictionary form compares as the artifact does. -/
theorem Compared.toValue {ad : Advertisement} {served : List (Option Json)} {nodeId : Json}
    (h : Compared supplied servingProvenance ad served nodeId) :
    Compared (.value ad.toValue) servingProvenance ad served nodeId where
  read := by rw [Supplied.read, ad.fromValue_toValue]; rfl
  facts := h.facts
  nodeId := h.nodeId

theorem Compared.artifact {ad : Advertisement} {served : List (Option Json)} {nodeId : Json}
    (h : Compared supplied servingProvenance ad served nodeId) :
    Compared (.artifact ad) servingProvenance ad served nodeId :=
  ⟨rfl, h.facts, h.nodeId⟩

/-- A mismatch is lost exactly where the nodes differ and the record carries no fact. -/
theorem Compared.faithful_of_reconcile_iff {ad : Advertisement} {served : List (Option Json)}
    {nodeId : Json}
    (h : Compared supplied servingProvenance ad served nodeId) :
    Faithful T supplied servingProvenance (reconciled T ad served nodeId) ↔
      ServesWhereNodesDiffer supplied servingProvenance := by
  constructor
  · intro hfaithful ad' served' nodeId' h' hdifferent
    have hmismatch := hfaithful.mismatch_iff.mpr ⟨ad', served', nodeId', h', Or.inr hdifferent⟩
    obtain ⟨rfl, rfl, rfl⟩ := h.unique h'
    exact ((overall_mismatch_iff T _ _ _).mp hmismatch).1
  · intro hserves
    constructor
    · rw [overall_mismatch_iff]
      constructor
      · intro hmismatch
        exact ⟨ad, served, nodeId, h, hmismatch.2⟩
      · rintro ⟨ad', served', nodeId', h', hmismatch⟩
        obtain ⟨rfl, rfl, rfl⟩ := h.unique h'
        refine ⟨?_, hmismatch⟩
        rcases hmismatch with ⟨spec, hmem, hbroken⟩ | hdifferent
        · exact ⟨spec, hmem, hbroken.servedFact⟩
        · exact hserves _ _ _ h hdifferent
    · intro hmatch
      exact ⟨ad, served, nodeId, h, kept_of_overall T ad served nodeId hmatch⟩
    · intro ad' hread
      obtain rfl : ad' = ad := Option.some.inj (Except.ok.inj (hread.symm.trans h.read))
      exact ⟨h.toValue.reconcile, ad', ad'.fromValue_toValue, h.artifact.reconcile⟩

end

/-- Every advertisement and record, nested or flat, is reconciled, and the result says what it
should except where the node ids differ over a record that carries no fact. -/
theorem reconcile_exact_iff (T : Tools) (supplied : Supplied) (servingProvenance : Json)
    (members : List (String × Json)) (hsupplied : supplied.Readable)
    (hrecord : IsRecord servingProvenance members) :
    (∃ result, reconcileAdvertisedVsServed T supplied servingProvenance = .ok result ∧
        Faithful T supplied servingProvenance result) ↔
      ServesWhereNodesDiffer supplied servingProvenance := by
  obtain ⟨ad, hread⟩ := hsupplied.returns
  obtain ⟨served, hserved⟩ := hrecord.servedFacts_returns
  cases ad with
  | some ad =>
      have hcompared : Compared supplied servingProvenance ad served _ :=
        ⟨hread, hserved, hrecord.servedNodeId⟩
      rw [← hcompared.faithful_of_reconcile_iff (T := T), hcompared.reconcile]
      simp
  | none =>
      have hnone : ∀ ad served nodeId, ¬ Compared supplied servingProvenance ad served nodeId := by
        intro ad served nodeId h
        cases hread.symm.trans h.read
      have habsent : reconcileAdvertisedVsServed T supplied servingProvenance =
          .ok (advertisementAbsent ((members.lookup "served_by_node_id").getD .null)) := by
        unfold reconcileAdvertisedVsServed
        rw [hread, hrecord.servedNodeId]
        rfl
      have hserves : ServesWhereNodesDiffer supplied servingProvenance :=
        fun ad served nodeId h => absurd h (hnone ad served nodeId)
      refine iff_of_true ⟨_, habsent, ?_, ?_, ?_⟩ hserves
      · apply iff_of_false (fun h => Overall.noConfusion h)
        rintro ⟨ad, served, nodeId, h, -⟩
        exact hnone ad served nodeId h
      · intro h
        cases h
      · intro ad had
        cases hread.symm.trans had

/-! ## A node that serves under another name -/

def unusedTools : Tools where
  verifyStore _ := []
  verifyTransparent _ _ := .error "no statement"
  verifyCapsuleSignature _ := false
  ackSignature _ := false
  text := ⟨hexText, id⟩

def nodeA : Advertisement where
  nodeId := .str "node-A"

/-- A record that names the node which served, and one fact. -/
def servedRecord (facts : List (String × Json)) : Json :=
  .obj (("served_by_node_id", .str "node-B") :: facts)

theorem servedRecord_isRecord : IsRecord
    (servedRecord [("model", .obj [("canonical_ref", .str "meta/Llama-3.2-3B")])])
    [("served_by_node_id", .str "node-B"),
      ("model", .obj [("canonical_ref", .str "meta/Llama-3.2-3B")])] where
  members_eq := rfl
  model := ⟨_, rfl⟩
  hardware := ⟨_, rfl⟩

/-- Over a record with a fact, another node id is reported. -/
theorem renamed_node_reported :
    ∃ result, reconcileAdvertisedVsServed unusedTools (.artifact nodeA)
        (servedRecord [("model", .obj [("canonical_ref", .str "meta/Llama-3.2-3B")])]) =
          .ok result ∧
      Faithful unusedTools (.artifact nodeA)
        (servedRecord [("model", .obj [("canonical_ref", .str "meta/Llama-3.2-3B")])]) result := by
  apply (reconcile_exact_iff unusedTools (.artifact nodeA) _ _ trivial servedRecord_isRecord).mpr
  intro ad served nodeId h hdifferent
  obtain rfl := Except.ok.inj h.facts
  obtain rfl := Option.some.inj (Except.ok.inj h.read)
  exact ⟨_, List.mem_cons_of_mem _ List.mem_cons_self, _, rfl, rfl⟩

theorem renamed_node_unreported :
    ∃ result, reconcileAdvertisedVsServed unusedTools (.artifact nodeA)
        (servedRecord []) = .ok result ∧
      result.overall = .noServedFacts ∧ result.mismatches = ["node_id"] ∧
      ¬Faithful unusedTools (.artifact nodeA) (servedRecord []) result := by
  refine ⟨_, rfl, rfl, rfl, ?_⟩
  intro hfaithful
  have hdifferent : DifferentNodes (.str "node-A") (.str "node-B") := by
    exact ⟨by decide, by decide, by decide⟩
  have hmismatch := hfaithful.mismatch_iff.mpr
    ⟨_, _, _, ⟨rfl, rfl, rfl⟩, Or.inr hdifferent⟩
  cases hmismatch

end CapsuleMesh.Advertised
