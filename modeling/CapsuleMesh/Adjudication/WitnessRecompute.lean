import CapsuleMesh.Adjudication.Delivery
import CapsuleMesh.Adjudication.Verdicts

/-!
# What a stranger recomputes

`seal_adjudication_capsule` of `twin_adjudicator.py` and
`recompute_adjudication_from_witness` of `adjudication_witness.py`.  The recompute pulls
the two halves that a capsule cites and compares their owners with what the capsule
declares of them; the verdict itself it does not read.  The capsule package is a
parameter, and so is the pull of a record.
-/

namespace CapsuleMesh.Adjudication

open Python Sidecar

/-! ## Sealing -/

def ADJUDICATION_SCHEMA : String := "capsule-emit-mesh/adjudication/v1"

def EPISTEMIC_TYPE_ADJUDICATION : String := "adjudication"

def RELATION_ADJUDICATES : String := "confirms"

/-- `status_for_verdict`. -/
def statusForVerdict (verdict : String) : Py String :=
  if verdict = VERDICT_CORROBORATED then .ok "SATISFIED"
  else if verdict = VERDICT_INCONCLUSIVE then .ok "UNKNOWN"
  else if VERDICT_CONTRADICTED_PREFIX.toList.isPrefixOf verdict.toList then .ok "CONTRADICTED"
  else .error (.valueError ("status_for_verdict: unrecognized verdict " ++ pyRepr verdict))

/-- The keyword arguments of `build_capsule`, as an adjudication gives them. -/
structure SealArgs where
  actionType : String
  operator : String
  developer : String
  computeAttestation : Json
  disposition : Json
  priorCapsuleId : Json
  chainRelation : String
  domain : String
  provenance : String
  toolName : String

/-- The capsule package. -/
structure SealTools where
  buildCapsule : SealArgs → Py Json
  verify : Json → Bool
  floatToStr : ℚ → Py String

/-- A built capsule carries its compute attestation as it was given, and a verified one
has its digest for an id. -/
structure SealTools.Lawful (T : SealTools) : Prop where
  compute : ∀ {args capsule}, T.buildCapsule args = .ok capsule →
    ∃ members attestation, capsule = .obj members ∧
      members.lookup "model_attestation" = some (.obj attestation) ∧
      attestation.lookup "compute_attestation" = some args.computeAttestation
  capsuleId : ∀ {capsule}, T.verify capsule = true →
    ∃ id, id ≠ "" ∧ capsule.item "capsule_id" = .ok (.str id)

def ofBool? (b : Option Bool) : Json := (b.map Json.bool).getD .null

def ofNat? (n : Option ℕ) : Json := (n.map fun n => Json.int n).getD .null

/-- What is added when the referee was called. -/
def refereeMembers (T : SealTools) (outcome : AdjudicationOutcome) : Py (List (String × Json)) := do
  if outcome.refereeCalled then
    let references := if outcome.references = [] then []
      else [("references", Json.arr outcome.references)]
    let tau : List (String × Json) ← (match outcome.tau with
      | none => pure []
      | some tau => do
        return [("tau", .str (← T.floatToStr tau)),
          ("referee_logprobs_absent", .bool outcome.refereeLogprobsAbsent)] :
      Py (List (String × Json)))
    return [("referee_capsule_id", .ofStr? outcome.refereeCapsuleId),
      ("referee_id", .ofStr? outcome.refereeIdentityId)] ++ references ++ tau
  else return []

def adjudicationMembers (T : SealTools) (outcome : AdjudicationOutcome) (verdict : String) :
    Py (List (String × Json)) := do
  let status ← statusForVerdict verdict
  let margin ← T.floatToStr outcome.margin
  let marginTau ← T.floatToStr outcome.marginTau
  let referee ← refereeMembers T outcome
  return [("schema", .str ADJUDICATION_SCHEMA), ("source", .str outcome.source),
    ("capture_method", .str outcome.captureMethod), ("verdict", .str verdict),
    ("status", .str status), ("divergence_index", ofNat? outcome.divergenceIndex),
    ("margin", .str margin), ("margin_tau", .str marginTau),
    ("prefix_digest", .ofStr? outcome.prefixDigest),
    ("twin_owner_distinct", ofBool? outcome.twinOwnerDistinct),
    ("weights_digest", .ofStr? outcome.weightsDigest),
    ("half_a_capsule_id", outcome.halfACapsuleId),
    ("half_b_capsule_id", outcome.halfBCapsuleId)] ++ referee

/-- `seal_adjudication_capsule`; without a verdict nothing is sealed. -/
def sealAdjudicationCapsule (T : SealTools) (outcome : AdjudicationOutcome)
    (action operator developer : String) : Py (Option Json) :=
  match outcome.verdict with
  | none => .ok none
  | some verdict => do
      let adjudication ← adjudicationMembers T outcome verdict
      let capsule ← T.buildCapsule {
        actionType := "decide"
        operator := operator
        developer := developer
        computeAttestation := .obj [("epistemic_type", .str EPISTEMIC_TYPE_ADJUDICATION),
          ("adjudication", .obj adjudication)]
        disposition := .obj [("decision", .str "accept"), ("approver", .str "policy"),
          ("human_disposed", .bool false), ("verdict_class", .str "assessed")]
        priorCapsuleId := outcome.halfACapsuleId
        chainRelation := RELATION_ADJUDICATES
        domain := "action"
        provenance := "referee"
        toolName := action }
      if T.verify capsule then return some capsule else throw .runtimeError

/-! ## Recomputing -/

inductive RecomputeStatus where
  | citationUnverified
  | recomputed
deriving DecidableEq

structure RecomputeResult where
  status : RecomputeStatus
  reason : Option String := none
  twinOwnerDistinct : Option Bool := none
  declaredTwinOwnerDistinct : Json := .null
  verdictConsistent : Option Bool := none

/-- The owners are found to be what the capsule declares of them. -/
def RecomputeResult.consistent (distinct : Bool) : RecomputeResult where
  status := .recomputed
  twinOwnerDistinct := some distinct
  declaredTwinOwnerDistinct := .bool distinct
  verdictConsistent := some true

def citationUnverified (reason : String) : RecomputeResult where
  status := .citationUnverified
  reason := some reason

/-- One turn of the loop over the two citations. -/
def citedHalf (verify : Json → Bool) (fetchCapsule : Json → Py (Option Json)) (label : String)
    (halfId : Json) : Py (RecomputeResult ⊕ AdjudicationHalf) := do
  match ← fetchCapsule halfId with
  | none => return .inl (citationUnverified (label ++ "_not_found"))
  | some fetched => do
      let claimed ← fetched.get "capsule_id"
      if ¬claimed.pyEq halfId then
        return .inl (citationUnverified (label ++ "_capsule_id_mismatch"))
      else if ¬verify fetched then return .inl (citationUnverified (label ++ "_forged"))
      else
        let half ← fromCapsuleAndDisclosure fetched (.obj []) none
        return .inr half

/-- The comparison of the owners with what is declared of them. -/
def recomputed (halfA halfB : AdjudicationHalf) (declared : Json) : RecomputeResult :=
  let distinct := if halfA.ownerId.isNull ∨ halfB.ownerId.isNull then none
    else some (!halfA.ownerId.pyEq halfB.ownerId)
  { status := .recomputed
    twinOwnerDistinct := distinct
    declaredTwinOwnerDistinct := declared
    verdictConsistent := distinct.map fun b => (Json.bool b).pyEq declared }

def recomputeAdjudicationFromWitness (verify : Json → Bool) (adjudicationCapsule : Json)
    (fetchCapsule : Json → Py (Option Json)) : Py RecomputeResult :=
  if ¬verify adjudicationCapsule then .ok (citationUnverified "adjudication_capsule_forged")
  else do
    let adjudication ← adjudicationBlock adjudicationCapsule
    let halfAId ← adjudication.get "half_a_capsule_id"
    let halfBId ← adjudication.get "half_b_capsule_id"
    if ¬halfAId.truthy ∨ ¬halfBId.truthy then
      return citationUnverified "missing_half_citation"
    else
      match ← citedHalf verify fetchCapsule "half_a" halfAId with
      | .inl result => return result
      | .inr halfA =>
        match ← citedHalf verify fetchCapsule "half_b" halfBId with
        | .inl result => return result
        | .inr halfB => do
          let declared ← adjudication.get "twin_owner_distinct"
          return recomputed halfA halfB declared

/-! ## What the recompute establishes -/

section Recompute

variable {verify : Json → Bool} {fetchCapsule : Json → Py (Option Json)}

/-- A verified capsule that was fetched under the id it claims, with a known owner. -/
structure OwnedCitation (verify : Json → Bool) (fetchCapsule : Json → Py (Option Json))
    (halfId : Json) (half : AdjudicationHalf) : Prop where
  fetched : fetchCapsule halfId = .ok (some half.capsule)
  claimed : ∃ claimed, half.capsule.get "capsule_id" = .ok claimed ∧ claimed.pyEq halfId = true
  verified : verify half.capsule = true
  read : fromCapsuleAndDisclosure half.capsule (.obj []) none = .ok half
  owned : half.ownerId.isNull = false

/-- Both citations hold, and whether their owners differ is what the capsule declares. -/
structure DeclaresOwners (verify : Json → Bool) (fetchCapsule : Json → Py (Option Json))
    (capsule : Json) (halfA halfB : AdjudicationHalf) : Prop where
  verified : verify capsule = true
  cites : ∃ block halfAId halfBId declared, adjudicationBlock capsule = .ok block ∧
    block.get "half_a_capsule_id" = .ok halfAId ∧ halfAId.truthy = true ∧
    block.get "half_b_capsule_id" = .ok halfBId ∧ halfBId.truthy = true ∧
    OwnedCitation verify fetchCapsule halfAId halfA ∧
    OwnedCitation verify fetchCapsule halfBId halfB ∧
    block.get "twin_owner_distinct" = .ok declared ∧
    (Json.bool (!halfA.ownerId.pyEq halfB.ownerId)).pyEq declared = true

theorem fromCapsuleAndDisclosure_capsule {capsule disclosed : Json} {weights : Option String}
    {half : AdjudicationHalf} (h : fromCapsuleAndDisclosure capsule disclosed weights = .ok half) :
    half.capsule = capsule := by
  simp only [fromCapsuleAndDisclosure, Py.bind_eq_ok] at h
  obtain ⟨attestation, -, owner, -, ownerId, -, decoding, -, h⟩ := h
  obtain rfl := Except.ok.inj h
  rfl

theorem citedHalf_eq_inr {label : String} {halfId : Json} {half : AdjudicationHalf} :
    citedHalf verify fetchCapsule label halfId = .ok (.inr half) ↔
      fetchCapsule halfId = .ok (some half.capsule) ∧
      (∃ claimed, half.capsule.get "capsule_id" = .ok claimed ∧ claimed.pyEq halfId = true) ∧
      verify half.capsule = true ∧
      fromCapsuleAndDisclosure half.capsule (.obj []) none = .ok half := by
  constructor
  · intro h
    obtain ⟨found, hfetch, h⟩ := Py.bind_eq_ok.mp h
    cases found with
    | none => cases h
    | some fetched =>
        obtain ⟨claimed, hclaimed, h⟩ := Py.bind_eq_ok.mp h
        split_ifs at h with hsame hverified
        · obtain ⟨half', hread, h⟩ := Py.bind_eq_ok.mp h
          obtain rfl := Sum.inr.inj (Except.ok.inj h)
          have hcapsule := fromCapsuleAndDisclosure_capsule hread
          rw [hcapsule]
          exact ⟨hfetch, ⟨claimed, hclaimed, hsame⟩, hverified, hread⟩
        · cases h
        · cases h
  · rintro ⟨hfetch, ⟨claimed, hclaimed, hsame⟩, hverified, hread⟩
    simp only [citedHalf, hfetch, Py.ok_bind, hclaimed, hsame, hverified, hread, not_true_eq_false,
      if_false]
    rfl

theorem citedHalf_inl_consistent {label : String} {halfId : Json} {result : RecomputeResult}
    (h : citedHalf verify fetchCapsule label halfId = .ok (.inl result)) :
    result.verdictConsistent = none := by
  obtain ⟨found, -, h⟩ := Py.bind_eq_ok.mp h
  cases found with
  | none =>
      obtain rfl := Sum.inl.inj (Except.ok.inj h)
      rfl
  | some fetched =>
      obtain ⟨claimed, -, h⟩ := Py.bind_eq_ok.mp h
      split_ifs at h
      · obtain ⟨half, -, h⟩ := Py.bind_eq_ok.mp h
        cases h
      · obtain rfl := Sum.inl.inj (Except.ok.inj h)
        rfl
      · obtain rfl := Sum.inl.inj (Except.ok.inj h)
        rfl

theorem recomputed_consistent_iff {halfA halfB : AdjudicationHalf} {declared : Json} :
    (recomputed halfA halfB declared).verdictConsistent = some true ↔
      halfA.ownerId.isNull = false ∧ halfB.ownerId.isNull = false ∧
        (Json.bool (!halfA.ownerId.pyEq halfB.ownerId)).pyEq declared = true := by
  unfold recomputed
  by_cases hA : halfA.ownerId.isNull = true
  · simp [hA]
  · by_cases hB : halfB.ownerId.isNull = true
    · simp [hB]
    · simp [hA, hB]

theorem recomputed_distinct {halfA halfB : AdjudicationHalf} {declared : Json}
    (hA : halfA.ownerId.isNull = false) (hB : halfB.ownerId.isNull = false) :
    (recomputed halfA halfB declared).twinOwnerDistinct =
      some (!halfA.ownerId.pyEq halfB.ownerId) := by
  have hknown : ¬(halfA.ownerId.isNull = true ∨ halfB.ownerId.isNull = true) := by
    rw [hA, hB]
    decide
  exact if_neg hknown

/-- A consistent recompute read two owned citations, and reports whether their owners differ. -/
theorem recompute_consistent {capsule : Json} {result : RecomputeResult}
    (h : recomputeAdjudicationFromWitness verify capsule fetchCapsule = .ok result)
    (hconsistent : result.verdictConsistent = some true) :
    ∃ halfA halfB, DeclaresOwners verify fetchCapsule capsule halfA halfB ∧
      result.twinOwnerDistinct = some (!halfA.ownerId.pyEq halfB.ownerId) := by
  unfold recomputeAdjudicationFromWitness at h
  split_ifs at h with hverified
  · obtain ⟨block, hblock, h⟩ := Py.bind_eq_ok.mp h
    obtain ⟨halfAId, hhalfAId, h⟩ := Py.bind_eq_ok.mp h
    obtain ⟨halfBId, hhalfBId, h⟩ := Py.bind_eq_ok.mp h
    split_ifs at h with hmissing
    · obtain rfl := Except.ok.inj h
      cases hconsistent
    · obtain ⟨citedA, hA, h⟩ := Py.bind_eq_ok.mp h
      cases citedA with
      | inl refused =>
        obtain rfl := Except.ok.inj h
        cases (citedHalf_inl_consistent hA).symm.trans hconsistent
      | inr halfA =>
        obtain ⟨citedB, hB, h⟩ := Py.bind_eq_ok.mp h
        cases citedB with
        | inl refused =>
          obtain rfl := Except.ok.inj h
          cases (citedHalf_inl_consistent hB).symm.trans hconsistent
        | inr halfB =>
          obtain ⟨declared, hdeclared, h⟩ := Py.bind_eq_ok.mp h
          obtain rfl := Except.ok.inj h
          obtain ⟨hownedA, hownedB, hsame⟩ := recomputed_consistent_iff.mp hconsistent
          obtain ⟨hfetchA, hclaimedA, hverifiedA, hreadA⟩ := citedHalf_eq_inr.mp hA
          obtain ⟨hfetchB, hclaimedB, hverifiedB, hreadB⟩ := citedHalf_eq_inr.mp hB
          rw [not_or, not_not, not_not] at hmissing
          refine ⟨halfA, halfB, ⟨hverified, block, halfAId, halfBId, declared,
            hblock, hhalfAId, hmissing.1, hhalfBId, hmissing.2,
            ⟨hfetchA, hclaimedA, hverifiedA, hreadA, hownedA⟩,
            ⟨hfetchB, hclaimedB, hverifiedB, hreadB, hownedB⟩, hdeclared, hsame⟩, ?_⟩
          exact recomputed_distinct hownedA hownedB
  · obtain rfl := Except.ok.inj h
    cases hconsistent

theorem recompute_of_declaresOwners {capsule : Json} {halfA halfB : AdjudicationHalf}
    (h : DeclaresOwners verify fetchCapsule capsule halfA halfB) :
    ∃ result, recomputeAdjudicationFromWitness verify capsule fetchCapsule = .ok result ∧
      result.verdictConsistent = some true := by
  obtain ⟨hverified, block, halfAId, halfBId, declared, hblock, hhalfAId, hidA, hhalfBId, hidB,
    hA, hB, hdeclared, hsame⟩ := h
  refine ⟨recomputed halfA halfB declared, ?_,
    recomputed_consistent_iff.mpr ⟨hA.owned, hB.owned, hsame⟩⟩
  have hcitedA := (@citedHalf_eq_inr _ _ "half_a" _ _).mpr
    ⟨hA.fetched, hA.claimed, hA.verified, hA.read⟩
  have hcitedB := (@citedHalf_eq_inr _ _ "half_b" _ _).mpr
    ⟨hB.fetched, hB.claimed, hB.verified, hB.read⟩
  simp only [recomputeAdjudicationFromWitness, hverified, hblock, hhalfAId, hhalfBId, hidA, hidB,
    hcitedA, hcitedB, hdeclared, Py.ok_bind, not_true_eq_false, if_false, or_self]
  rfl

/-- The owner of a half that is read without its disclosure is a function of the capsule. -/
theorem DeclaresOwners.capsule_ne {capsule : Json} {halfA halfB : AdjudicationHalf}
    (h : DeclaresOwners verify fetchCapsule capsule halfA halfB)
    (hregular : halfA.ownerId.regular = true)
    (hdistinct : halfA.ownerId.pyEq halfB.ownerId = false) : halfA.capsule ≠ halfB.capsule := by
  intro hsame
  obtain ⟨-, block, halfAId, halfBId, declared, -, -, -, -, -, hA, hB, -, -⟩ := h
  have hread := hA.read
  rw [hsame] at hread
  have hhalf : halfA = halfB := Except.ok.inj (hread.symm.trans hB.read)
  rw [← hhalf] at hdistinct
  cases hdistinct.symm.trans (Json.pyEq_self hregular)

end Recompute

/-! ## What is sealed is consistent -/

section Sealed

variable {digests : Digests} {verify : Json → Bool} {halfA halfB : AdjudicationHalf}
  {options : AdjudicateOptions} {base outcome : AdjudicationOutcome}

/-- Two verified halves of known and different owners. -/
structure DistinctHalves (verify : Json → Bool) (halfA halfB : AdjudicationHalf) : Prop where
  verifiedA : verify halfA.capsule = true
  verifiedB : verify halfB.capsule = true
  ownedA : halfA.ownerId.isNull = false
  ownedB : halfB.ownerId.isNull = false
  distinct : halfA.ownerId.pyEq halfB.ownerId = false

theorem beforeTexts_base (h : beforeTexts digests verify halfA halfB options = .ok (.inr base)) :
    DistinctHalves verify halfA halfB ∧ halfA.capsuleId = .ok base.halfACapsuleId ∧
      halfB.capsuleId = .ok base.halfBCapsuleId := by
  unfold beforeTexts at h
  split at h
  · cases h
  obtain ⟨_, hverifiedA, h⟩ := adjudicating_bind_eq_ok.mp h
  obtain ⟨_, hverifiedB, h⟩ := adjudicating_bind_eq_ok.mp h
  obtain ⟨idA, hidA, h⟩ := adjudicating_bind_eq_ok.mp h
  obtain ⟨idB, hidB, h⟩ := adjudicating_bind_eq_ok.mp h
  obtain ⟨untranscribed, -, h⟩ := adjudicating_bind_eq_ok.mp h
  split at h
  · cases h
  obtain ⟨_, -, h⟩ := adjudicating_bind_eq_ok.mp h
  obtain ⟨_, -, h⟩ := adjudicating_bind_eq_ok.mp h
  split at h
  · cases h
  split at h
  · cases h
  rename_i howned
  split at h
  · cases h
  rename_i hdistinct
  cases h
  rw [not_or, Bool.not_eq_true, Bool.not_eq_true] at howned
  exact ⟨⟨verifyHalfOrRaise_ok hverifiedA, verifyHalfOrRaise_ok hverifiedB, howned.1, howned.2,
    Bool.eq_false_of_not_eq_true hdistinct⟩, ofPy_eq_ok.mp hidA, ofPy_eq_ok.mp hidB⟩

theorem adjudicateTexts_fields
    (h : adjudicateTexts digests halfA halfB options base = .ok outcome) :
    outcome.twinOwnerDistinct = some true ∧ outcome.halfACapsuleId = base.halfACapsuleId ∧
      outcome.halfBCapsuleId = base.halfBCapsuleId := by
  unfold adjudicateTexts at h
  obtain ⟨textA, -, h⟩ := adjudicating_bind_eq_ok.mp h
  obtain ⟨textB, -, h⟩ := adjudicating_bind_eq_ok.mp h
  obtain ⟨comparison, -, h⟩ := adjudicating_bind_eq_ok.mp h
  dsimp only at h
  split at h
  · split at h
    · cases h
      exact ⟨rfl, rfl, rfl⟩
    split at h
    · cases h
      exact ⟨rfl, rfl, rfl⟩
    split at h
    · cases h
    · cases h
      exact ⟨rfl, rfl, rfl⟩
  · cases h
    exact ⟨rfl, rfl, rfl⟩

/-- A verdict is only reached over two verified halves of known and different owners. -/
theorem adjudicate_verdict (h : adjudicate digests verify halfA halfB options = .ok outcome)
    (hverdict : outcome.verdict ≠ none) :
    DistinctHalves verify halfA halfB ∧ outcome.twinOwnerDistinct = some true ∧
      halfA.capsuleId = .ok outcome.halfACapsuleId ∧
      halfB.capsuleId = .ok outcome.halfBCapsuleId := by
  rw [adjudicate_eq] at h
  obtain ⟨ended | base, hbefore, h⟩ := adjudicating_bind_eq_ok.mp h
  · cases h
    exact absurd (beforeTexts_unjudged hbefore).1 hverdict
  · obtain ⟨hhalves, hidA, hidB⟩ := beforeTexts_base hbefore
    obtain ⟨hdistinct, hsameA, hsameB⟩ := adjudicateTexts_fields h
    rw [hsameA, hsameB]
    exact ⟨hhalves, hdistinct, hidA, hidB⟩

/-- The half that is read without its disclosure. -/
def AdjudicationHalf.undisclosed (half : AdjudicationHalf) : AdjudicationHalf :=
  { half with disclosed := .obj [], weightsDigest := none }

theorem fromCapsuleAndDisclosure_undisclosed {capsule disclosed : Json} {weights : Option String}
    {half : AdjudicationHalf} (h : fromCapsuleAndDisclosure capsule disclosed weights = .ok half) :
    fromCapsuleAndDisclosure capsule (.obj []) none = .ok half.undisclosed := by
  simp only [fromCapsuleAndDisclosure, Py.bind_eq_ok] at h ⊢
  obtain ⟨attestation, hattestation, owner, howner, ownerId, hownerId, decoding, hdecoding, h⟩ := h
  obtain rfl := Except.ok.inj h
  exact ⟨attestation, hattestation, owner, howner, ownerId, hownerId, decoding, hdecoding, rfl⟩

variable {T : SealTools} {capsule : Json} {action operator developer : String}

/-- The block of a sealed capsule names both halves and what was found of their owners. -/
theorem sealed_block (hT : T.Lawful)
    (h : sealAdjudicationCapsule T outcome action operator developer = .ok (some capsule)) :
    outcome.verdict ≠ none ∧ T.verify capsule = true ∧ ∃ block,
      adjudicationBlock capsule = .ok (.obj block) ∧
      block.lookup "half_a_capsule_id" = some outcome.halfACapsuleId ∧
      block.lookup "half_b_capsule_id" = some outcome.halfBCapsuleId ∧
      block.lookup "twin_owner_distinct" = some (ofBool? outcome.twinOwnerDistinct) := by
  unfold sealAdjudicationCapsule at h
  cases hverdict : outcome.verdict with
  | none =>
      rw [hverdict] at h
      cases h
  | some verdict =>
      rw [hverdict] at h
      obtain ⟨members, hmembers, h⟩ := Py.bind_eq_ok.mp h
      obtain ⟨built, hbuilt, h⟩ := Py.bind_eq_ok.mp h
      split_ifs at h with hverified
      obtain rfl := Option.some.inj (Except.ok.inj h)
      simp only [adjudicationMembers, Py.bind_eq_ok] at hmembers
      obtain ⟨status, -, margin, -, marginTau, -, referee, -, hmembers⟩ := hmembers
      have hread := Except.ok.inj hmembers
      refine ⟨Option.some_ne_none verdict, hverified, members, ?_, ?_, ?_, ?_⟩
      · obtain ⟨fields, attestation, rfl, hmodel, hcompute⟩ := hT.compute hbuilt
        simp only [adjudicationBlock, attestationOf, Json.get_obj, Py.ok_bind, hmodel,
          Option.getD_some]
        rw [Json.or_of_truthy (by
          cases attestation with
          | nil => cases hcompute
          | cons m ms => rfl)]
        simp only [Json.get_obj, Py.ok_bind, hcompute, Option.getD_some]
        rw [← hread]
        rfl
      · rw [← hread]
        rfl
      · rw [← hread]
        rfl
      · rw [← hread]
        rfl

/-- What is sealed from a verdict over two fetched halves is found to be consistent. -/
theorem recompute_of_sealed (hT : T.Lawful) {capsuleA capsuleB disclosedA disclosedB : Json}
    {weightsA weightsB : Option String} {fetchCapsule : Json → Py (Option Json)}
    (hA : fromCapsuleAndDisclosure capsuleA disclosedA weightsA = .ok halfA)
    (hB : fromCapsuleAndDisclosure capsuleB disclosedB weightsB = .ok halfB)
    (hadjudicate : adjudicate digests T.verify halfA halfB options = .ok outcome)
    (hseal : sealAdjudicationCapsule T outcome action operator developer = .ok (some capsule))
    (hfetchA : fetchCapsule outcome.halfACapsuleId = .ok (some capsuleA))
    (hfetchB : fetchCapsule outcome.halfBCapsuleId = .ok (some capsuleB)) :
    recomputeAdjudicationFromWitness T.verify capsule fetchCapsule = .ok (.consistent true) := by
  obtain ⟨hverdict, hverified, block, hblock, hblockA, hblockB, hdeclared⟩ := sealed_block hT hseal
  obtain ⟨hhalves, hdistinct, hidA, hidB⟩ := adjudicate_verdict hadjudicate hverdict
  have hcited : ∀ {id cited half disclosed weights}, ∀ label,
      fromCapsuleAndDisclosure cited disclosed weights = .ok half →
      T.verify half.capsule = true → half.capsuleId = .ok id →
      fetchCapsule id = .ok (some cited) →
      id.truthy = true ∧
        citedHalf T.verify fetchCapsule label id = .ok (.inr half.undisclosed) := by
    intro id cited half disclosed weights label hread hgenuine hid hfetch
    obtain rfl := fromCapsuleAndDisclosure_capsule hread
    obtain ⟨name, hne, hname⟩ := hT.capsuleId hgenuine
    obtain rfl := Except.ok.inj (hid.symm.trans hname)
    refine ⟨by simpa [Json.truthy] using hne, citedHalf_eq_inr.mpr ⟨hfetch, ⟨.str name, ?_, ?_⟩,
      hgenuine, fromCapsuleAndDisclosure_undisclosed hread⟩⟩
    · change half.capsule.get "capsule_id" = _
      unfold Json.item at hname
      cases hcapsule : half.capsule with
      | obj members =>
        rw [hcapsule] at hname
        cases hlookup : members.lookup "capsule_id" with
        | none => simp [hlookup] at hname
        | some value =>
          simp only [hlookup] at hname
          obtain rfl := Except.ok.inj hname
          simp [hlookup]
      | _ =>
        rw [hcapsule] at hname
        cases hname
    · exact Json.pyEq_self rfl
  obtain ⟨htruthyA, hcitedA⟩ := hcited "half_a" hA hhalves.verifiedA hidA hfetchA
  obtain ⟨htruthyB, hcitedB⟩ := hcited "half_b" hB hhalves.verifiedB hidB hfetchB
  have hrecomputed : recomputed halfA.undisclosed halfB.undisclosed (.bool true) =
      .consistent true := by
    have hnull : ¬(halfA.ownerId.isNull = true ∨ halfB.ownerId.isNull = true) := by
      rw [hhalves.ownedA, hhalves.ownedB]
      decide
    simp only [recomputed, AdjudicationHalf.undisclosed, if_neg hnull, hhalves.distinct]
    rfl
  simp only [recomputeAdjudicationFromWitness, hverified, hblock, Json.get_obj, hblockA, hblockB,
    hdeclared, hdistinct, ofBool?, Option.map_some, Option.getD_some, Py.ok_bind, htruthyA,
    htruthyB, hcitedA, hcitedB, not_true_eq_false, if_false, or_self]
  rw [hrecomputed]
  rfl

end Sealed

/-! ## Soundness and completeness -/

/-- What `adjudicate` itself asks of a verdict, over the two halves that a capsule cites. -/
def JudgedBetween (verify : Json → Bool) (fetchCapsule : Json → Py (Option Json))
    (capsule : Json) : Prop :=
  ∃ halfA halfB, DeclaresOwners verify fetchCapsule capsule halfA halfB ∧
    halfA.capsule ≠ halfB.capsule ∧ halfA.ownerId.pyEq halfB.ownerId = false ∧
    ∀ block owner, adjudicationBlock capsule = .ok block →
      block.get "verdict" = .ok (.str (VERDICT_CONTRADICTED_PREFIX ++ owner)) →
      halfA.ownerId = .str owner ∨ halfB.ownerId = .str owner

/-- The recompute is consistent exactly where the capsule declares of the owners of two genuine
citations whether they differ, so they do where it finds them distinct; and it is consistent
with whatever is sealed from a verdict over two halves that the fetch returns. -/
theorem recompute_sound_and_complete :
    (∀ (verify : Json → Bool) (fetchCapsule : Json → Py (Option Json)) (capsule : Json),
      (∃ result, recomputeAdjudicationFromWitness verify capsule fetchCapsule = .ok result ∧
        result.verdictConsistent = some true) ↔
        ∃ halfA halfB, DeclaresOwners verify fetchCapsule capsule halfA halfB) ∧
    (∀ (verify : Json → Bool) (fetchCapsule : Json → Py (Option Json)) (capsule : Json)
        (result : RecomputeResult),
      recomputeAdjudicationFromWitness verify capsule fetchCapsule = .ok result →
      result.verdictConsistent = some true → result.twinOwnerDistinct = some true →
      ∃ halfA halfB, DeclaresOwners verify fetchCapsule capsule halfA halfB ∧
        halfA.ownerId.pyEq halfB.ownerId = false ∧
        (halfA.ownerId.regular = true → halfA.capsule ≠ halfB.capsule)) ∧
    ∀ (T : SealTools) (digests : Digests) (capsuleA capsuleB disclosedA disclosedB : Json)
        (weightsA weightsB : Option String) (halfA halfB : AdjudicationHalf)
        (options : AdjudicateOptions) (outcome : AdjudicationOutcome)
        (action operator developer : String) (capsule : Json)
        (fetchCapsule : Json → Py (Option Json)), T.Lawful →
      fromCapsuleAndDisclosure capsuleA disclosedA weightsA = .ok halfA →
      fromCapsuleAndDisclosure capsuleB disclosedB weightsB = .ok halfB →
      adjudicate digests T.verify halfA halfB options = .ok outcome →
      sealAdjudicationCapsule T outcome action operator developer = .ok (some capsule) →
      fetchCapsule outcome.halfACapsuleId = .ok (some capsuleA) →
      fetchCapsule outcome.halfBCapsuleId = .ok (some capsuleB) →
      recomputeAdjudicationFromWitness T.verify capsule fetchCapsule = .ok (.consistent true) := by
  refine ⟨?_, ?_, ?_⟩
  · intro verify fetchCapsule capsule
    constructor
    · rintro ⟨result, h, hconsistent⟩
      obtain ⟨halfA, halfB, hdeclares, -⟩ := recompute_consistent h hconsistent
      exact ⟨halfA, halfB, hdeclares⟩
    · rintro ⟨halfA, halfB, hdeclares⟩
      exact recompute_of_declaresOwners hdeclares
  · intro verify fetchCapsule capsule result h hconsistent hdistinct
    obtain ⟨halfA, halfB, hdeclares, hfound⟩ := recompute_consistent h hconsistent
    rw [hfound] at hdistinct
    have hdiffer : halfA.ownerId.pyEq halfB.ownerId = false := by
      simpa using Option.some.inj hdistinct
    exact ⟨halfA, halfB, hdeclares, hdiffer, fun hregular => hdeclares.capsule_ne hregular hdiffer⟩
  · intro T digests capsuleA capsuleB disclosedA disclosedB weightsA weightsB halfA halfB options
      outcome action operator developer capsule fetchCapsule hT hA hB hadjudicate hseal
    apply recompute_of_sealed hT hA hB hadjudicate hseal

def hasCapsuleId (capsule : Json) : Bool :=
  match capsule.item "capsule_id" with
  | .ok (.str id) => id ≠ ""
  | _ => false

/-- A builder that keeps what it is given, over capsules that are verified by their id alone. -/
def plainSealTools : SealTools where
  buildCapsule := fun args => .ok (.obj [("capsule_id", .str "sealed"),
    ("model_attestation", .obj [("compute_attestation", args.computeAttestation)])])
  verify := hasCapsuleId
  floatToStr := fun x => .ok (if x = 1 then "1.0" else "0.9")

theorem plainSealTools_lawful : plainSealTools.Lawful where
  compute := by
    intro args capsule h
    obtain rfl := Except.ok.inj h
    exact ⟨_, _, rfl, rfl, rfl⟩
  capsuleId := by
    intro capsule h
    replace h : hasCapsuleId capsule = true := h
    unfold hasCapsuleId at h
    split at h
    · rename_i id hitem
      exact ⟨id, of_decide_eq_true h, hitem⟩
    · cases h

/-- The capsule of `owner`, sealed over the answer. -/
def answerCapsule (owner : String) : Json := .obj
  [("capsule_id", .str owner), ("effect", .obj [("response_digest", .str answer.canonical)]),
    ("model_attestation", .obj [("compute_attestation",
      .obj [("owner", .obj [("owner_id", .str owner)])])])]

def fetchAnswers (halfId : Json) : Py (Option Json) :=
  if halfId.str? = some "a" then .ok (some (answerCapsule "a"))
  else if halfId.str? = some "b" then .ok (some (answerCapsule "b"))
  else .ok none

/-- Two owners that answered alike: their corroboration is sealed and found to be consistent. -/
theorem sealed_corroboration_consistent : ∃ outcome capsule,
    adjudicate canonicalDigests plainSealTools.verify
      { answeringHalf "a" "yes" with capsule := answerCapsule "a" }
      { answeringHalf "b" "yes" with capsule := answerCapsule "b" } {} = .ok outcome ∧
    sealAdjudicationCapsule plainSealTools outcome "adjudicate" "op" "dev" = .ok (some capsule) ∧
    recomputeAdjudicationFromWitness plainSealTools.verify capsule fetchAnswers =
      .ok (.consistent true) := by
  have hverdict : (if DEFAULT_MARGIN_TAU ≤ ((1 : ℕ) : ℚ) / (1 : ℕ) then VERDICT_CORROBORATED
      else VERDICT_INCONCLUSIVE) = VERDICT_CORROBORATED :=
    if_pos (by norm_num [DEFAULT_MARGIN_TAU])
  obtain ⟨outcome, hadjudicate, hcorroborated, hreferee, hidA, hidB⟩ : ∃ outcome,
      adjudicate canonicalDigests plainSealTools.verify
        { answeringHalf "a" "yes" with capsule := answerCapsule "a" }
        { answeringHalf "b" "yes" with capsule := answerCapsule "b" } {} = .ok outcome ∧
      outcome.verdict = some VERDICT_CORROBORATED ∧ outcome.refereeCalled = false ∧
      outcome.halfACapsuleId = .str "a" ∧ outcome.halfBCapsuleId = .str "b" :=
    ⟨_, rfl, congrArg some hverdict, rfl, rfl, rfl⟩
  obtain ⟨capsule, hseal⟩ : ∃ capsule, sealAdjudicationCapsule plainSealTools outcome "adjudicate"
      "op" "dev" = .ok (some capsule) := by
    unfold sealAdjudicationCapsule
    rw [hcorroborated]
    simp only [adjudicationMembers, refereeMembers, hreferee]
    exact ⟨_, rfl⟩
  refine ⟨outcome, capsule, hadjudicate, hseal, ?_⟩
  apply recompute_sound_and_complete.2.2 plainSealTools canonicalDigests (answerCapsule "a")
    (answerCapsule "b") (answeringHalf "a" "yes").disclosed (answeringHalf "b" "yes").disclosed
    none none _ _ {} outcome "adjudicate" "op" "dev" capsule fetchAnswers plainSealTools_lawful
    rfl rfl hadjudicate hseal
  · rw [hidA]
    rfl
  · rw [hidB]
    rfl

/-- A capsule of anyone that cites two halves and finds against someone else. -/
def strangerCapsule (halfAId halfBId : String) (declared : Bool) : Json := .obj
  [("capsule_id", .str "forged"), ("model_attestation", .obj [("compute_attestation", .obj
    [("adjudication", .obj [("verdict", .str "contradicted:stranger"),
      ("half_a_capsule_id", .str halfAId), ("half_b_capsule_id", .str halfBId),
      ("twin_owner_distinct", .bool declared)])])])]

/-- One half cited twice is consistent, and so is a verdict against neither owner. -/
theorem recompute_reads_no_verdict :
    (recomputeAdjudicationFromWitness plainSealTools.verify (strangerCapsule "a" "a" false)
        fetchAnswers = .ok (.consistent false) ∧
      ¬JudgedBetween plainSealTools.verify fetchAnswers (strangerCapsule "a" "a" false)) ∧
    recomputeAdjudicationFromWitness plainSealTools.verify (strangerCapsule "a" "b" true)
        fetchAnswers = .ok (.consistent true) ∧
      ¬JudgedBetween plainSealTools.verify fetchAnswers (strangerCapsule "a" "b" true) := by
  have hfetched : ∀ {halfId half owner},
      OwnedCitation plainSealTools.verify fetchAnswers halfId half →
      halfId = .str owner → owner = "a" ∨ owner = "b" → half.ownerId = .str owner := by
    intro halfId half owner h hid howner
    subst hid
    have hread := h.read
    obtain rfl | rfl := howner
    · rw [← Option.some.inj (Except.ok.inj h.fetched)] at hread
      rw [← Except.ok.inj hread]
      rfl
    · rw [← Option.some.inj (Except.ok.inj h.fetched)] at hread
      rw [← Except.ok.inj hread]
      rfl
  refine ⟨⟨rfl, ?_⟩, rfl, ?_⟩
  · rintro ⟨halfA, halfB, hdeclares, -, hdistinct, -⟩
    obtain ⟨-, block, halfAId, halfBId, declared, hblock, hA, -, hB, -, hcitedA, hcitedB, -⟩ :=
      hdeclares
    obtain rfl := Except.ok.inj hblock
    rw [hfetched hcitedA (Except.ok.inj hA).symm (Or.inl rfl),
      hfetched hcitedB (Except.ok.inj hB).symm (Or.inl rfl)] at hdistinct
    cases hdistinct
  · rintro ⟨halfA, halfB, hdeclares, -, -, hnamed⟩
    obtain ⟨-, block, halfAId, halfBId, declared, hblock, hA, -, hB, -, hcitedA, hcitedB, -⟩ :=
      hdeclares
    have hnames := hnamed _ "stranger" hblock (by rw [← Except.ok.inj hblock]; rfl)
    obtain rfl := Except.ok.inj hblock
    rw [hfetched hcitedA (Except.ok.inj hA).symm (Or.inl rfl),
      hfetched hcitedB (Except.ok.inj hB).symm (Or.inr rfl)] at hnames
    obtain h | h := hnames
    · exact absurd (Json.str.inj h) (by decide)
    · exact absurd (Json.str.inj h) (by decide)

end CapsuleMesh.Adjudication
