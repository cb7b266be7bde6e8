import Mathlib
import CapsuleMesh.Adjudication.Twin
import CapsuleMesh.Python.Canonical

/-!
# What a verdict rests on

`adjudicate` checks the disclosed `response_body` of each half against its declared digest
and compares the disclosed `response_text`, which nothing checks.  Whenever it gets so far
as to compare, its result can be changed through the text alone.
-/

namespace CapsuleMesh.Adjudication

open Python Sidecar

/-- A disclosure with another `response_text`. -/
def AdjudicationHalf.withResponseText (half : AdjudicationHalf) (text : Option String) :
    AdjudicationHalf :=
  match half.disclosed with
  | .obj members =>
      { half with disclosed := .obj (Json.setMember "response_text" (.ofStr? text) members) }
  | _ => half

/-- The verdict, the reason for none and the divergence, or what is raised. -/
def reported (outcome : Adjudicating AdjudicationOutcome) :
    Adjudicating (Option String × Option NoVerdict × Option ℕ) :=
  outcome.map fun o => (o.verdict, o.noVerdictReason, o.divergenceIndex)

section

variable (digests : Digests) (verify : Json → Bool) (halfA halfB : AdjudicationHalf)
  (options : AdjudicateOptions)

/-- Both halves are genuine, their response bodies are what was sealed, and nothing known
about their weights and owners ends the adjudication. -/
structure Comparable : Prop where
  setting : ¬(options.logprobTau.isSome ∧ options.referee.isNone)
  genuineA : verify halfA.capsule = true
  genuineB : verify halfB.capsule = true
  namedA : ∃ id, halfA.capsuleId = .ok id
  namedB : ∃ id, halfB.capsuleId = .ok id
  transcribed : eitherUntranscribed halfA halfB = .ok false
  preimageA : verifyPreimageOrRaise digests "half_a" halfA = .ok ()
  preimageB : verifyPreimageOrRaise digests "half_b" halfB = .ok ()
  weights : ((knownWeights halfA halfB).any fun ws => ws.1 ≠ ws.2) = false
  owned : ¬(halfA.ownerId.isNull ∨ halfB.ownerId.isNull)
  distinct : Json.pyEq halfA.ownerId halfB.ownerId = false

/-- `adjudicate` up to the comparison: an outcome, or the fields to go on with. -/
def beforeTexts : Adjudicating (AdjudicationOutcome ⊕ AdjudicationOutcome) :=
  if options.logprobTau.isSome ∧ options.referee.isNone then .error .logprobTauWithoutReferee
  else do
    verifyHalfOrRaise verify "half_a" halfA
    verifyHalfOrRaise verify "half_b" halfB
    let halfAId ← Adjudicating.ofPy halfA.capsuleId
    let halfBId ← Adjudicating.ofPy halfB.capsuleId
    let base := uncompared options.marginTau halfAId halfBId
    if ← Adjudicating.ofPy (eitherUntranscribed halfA halfB) then
      return .inl { base none with noVerdictReason := some .noRequesterTranscript }
    else
      verifyPreimageOrRaise digests "half_a" halfA
      verifyPreimageOrRaise digests "half_b" halfB
      if (knownWeights halfA halfB).any fun ws => ws.1 ≠ ws.2 then
        return .inl { base none with noVerdictReason := some .weightsMismatch }
      else
        let shared := (knownWeights halfA halfB).map Prod.fst
        if halfA.ownerId.isNull ∨ halfB.ownerId.isNull then
          return .inl { base shared with noVerdictReason := some .ownerAbsent }
        else if Json.pyEq halfA.ownerId halfB.ownerId then
          return .inl { base shared with
            noVerdictReason := some .sameOwnerTwin
            twinOwnerDistinct := some false }
        else return .inr (base shared)

end

variable {digests : Digests} {verify : Json → Bool} {halfA halfB : AdjudicationHalf}
  {options : AdjudicateOptions}

theorem adjudicate_eq : adjudicate digests verify halfA halfB options =
    beforeTexts digests verify halfA halfB options >>=
      Sum.elim pure (adjudicateTexts digests halfA halfB options) := by
  unfold adjudicate beforeTexts
  split
  · rfl
  · simp only [bind_assoc]
    refine congrArg _ (funext fun _ => congrArg _ (funext fun _ => congrArg _ (funext fun _ =>
      congrArg _ (funext fun _ => congrArg _ (funext fun untranscribed => ?_)))))
    cases untranscribed with
    | true => rfl
    | false =>
        simp only [Bool.false_eq_true, if_false, bind_assoc]
        refine congrArg _ (funext fun _ => congrArg _ (funext fun _ => ?_))
        split
        · rfl
        · split
          · rfl
          · split <;> rfl

theorem ofPy_eq_ok {α : Type} {x : Py α} {a : α} : Adjudicating.ofPy x = .ok a ↔ x = .ok a :=
  Library.Raising.mapError_eq_ok

theorem verifyHalfOrRaise_ok {label : String} {half : AdjudicationHalf}
    (h : verifyHalfOrRaise verify label half = .ok ()) : verify half.capsule = true := by
  unfold verifyHalfOrRaise at h
  split at h
  · assumption
  · obtain ⟨_, -, h⟩ := adjudicating_bind_eq_ok.mp h
    cases h

theorem beforeTexts_eq_inr : (∃ base, beforeTexts digests verify halfA halfB options =
    .ok (.inr base)) ↔ Comparable digests verify halfA halfB options := by
  constructor
  · rintro ⟨base, h⟩
    unfold beforeTexts at h
    split at h
    · cases h
    rename_i hsetting
    simp only [adjudicating_bind_eq_ok] at h
    obtain ⟨⟨⟩, hgenuineA, ⟨⟩, hgenuineB, idA, hidA, idB, hidB, untranscribed, htranscribed, h⟩ := h
    split at h
    · cases h
    rename_i hfalse
    simp only [adjudicating_bind_eq_ok] at h
    obtain ⟨⟨⟩, hpreimageA, ⟨⟩, hpreimageB, h⟩ := h
    split at h
    · cases h
    rename_i hweights
    split at h
    · cases h
    rename_i howned
    split at h
    · cases h
    rename_i hdistinct
    exact
      { setting := hsetting
        genuineA := verifyHalfOrRaise_ok hgenuineA
        genuineB := verifyHalfOrRaise_ok hgenuineB
        namedA := ⟨idA, ofPy_eq_ok.mp hidA⟩
        namedB := ⟨idB, ofPy_eq_ok.mp hidB⟩
        transcribed := by rw [ofPy_eq_ok.mp htranscribed, Bool.eq_false_of_not_eq_true hfalse]
        preimageA := hpreimageA
        preimageB := hpreimageB
        weights := Bool.eq_false_of_not_eq_true hweights
        owned := howned
        distinct := Bool.eq_false_of_not_eq_true hdistinct }
  · intro h
    obtain ⟨idA, hidA⟩ := h.namedA
    obtain ⟨idB, hidB⟩ := h.namedB
    refine ⟨uncompared options.marginTau idA idB ((knownWeights halfA halfB).map Prod.fst), ?_⟩
    unfold beforeTexts
    rw [if_neg h.setting]
    simp only [adjudicating_bind_eq_ok]
    refine ⟨(), by simp [verifyHalfOrRaise, h.genuineA], (), by simp [verifyHalfOrRaise, h.genuineB],
      idA, ofPy_eq_ok.mpr hidA, idB, ofPy_eq_ok.mpr hidB, false, ofPy_eq_ok.mpr h.transcribed, ?_⟩
    simp only [Bool.false_eq_true, if_false, adjudicating_bind_eq_ok]
    refine ⟨(), h.preimageA, (), h.preimageB, ?_⟩
    rw [h.weights, if_neg (by decide), if_neg h.owned, h.distinct]
    rfl

/-! ## Another text -/

section

variable (half : AdjudicationHalf) (text : Option String)

theorem withResponseText_capsule : (half.withResponseText text).capsule = half.capsule := by
  unfold AdjudicationHalf.withResponseText
  split <;> rfl

theorem withResponseText_ownerId : (half.withResponseText text).ownerId = half.ownerId := by
  unfold AdjudicationHalf.withResponseText
  split <;> rfl

theorem withResponseText_weightsDigest :
    (half.withResponseText text).weightsDigest = half.weightsDigest := by
  unfold AdjudicationHalf.withResponseText
  split <;> rfl

theorem withResponseText_body : (half.withResponseText text).disclosed.get "response_body" =
    half.disclosed.get "response_body" := by
  unfold AdjudicationHalf.withResponseText
  split
  · rename_i members hmembers
    rw [hmembers, Json.get_obj, Json.get_obj, Json.lookup_setMember_ne (by decide)]
  · rfl

theorem capsuleId_withResponseText : (half.withResponseText text).capsuleId = half.capsuleId := by
  rw [AdjudicationHalf.capsuleId, withResponseText_capsule, AdjudicationHalf.capsuleId]

theorem capsuleIdHead_withResponseText :
    (half.withResponseText text).capsuleIdHead = half.capsuleIdHead := by
  rw [AdjudicationHalf.capsuleIdHead, capsuleId_withResponseText, AdjudicationHalf.capsuleIdHead]

theorem verifyHalfOrRaise_withResponseText (verify : Json → Bool) (label : String) :
    verifyHalfOrRaise verify label (half.withResponseText text) =
      verifyHalfOrRaise verify label half := by
  rw [verifyHalfOrRaise, withResponseText_capsule, capsuleIdHead_withResponseText,
    verifyHalfOrRaise]

theorem verifyPreimageOrRaise_withResponseText (digests : Digests) (label : String) :
    verifyPreimageOrRaise digests label (half.withResponseText text) =
      verifyPreimageOrRaise digests label half := by
  simp only [verifyPreimageOrRaise, AdjudicationHalf.declaredResponseDigest,
    AdjudicationHalf.responseBody, withResponseText_capsule, withResponseText_body,
    capsuleIdHead_withResponseText]

theorem eitherUntranscribed_withResponseText (other : AdjudicationHalf) (text' : Option String) :
    eitherUntranscribed (half.withResponseText text) (other.withResponseText text') =
      eitherUntranscribed half other := by
  simp only [eitherUntranscribed, noRequesterTranscript, halfRole, withResponseText_capsule,
    withResponseText_body]

theorem knownWeights_withResponseText (other : AdjudicationHalf) (text' : Option String) :
    knownWeights (half.withResponseText text) (other.withResponseText text') =
      knownWeights half other := by
  rw [knownWeights, withResponseText_weightsDigest, withResponseText_weightsDigest, knownWeights]

end

theorem responseText_withResponseText {half : AdjudicationHalf} {members : List (String × Json)}
    (h : half.disclosed = .obj members) (text : String) :
    (half.withResponseText (some text)).responseText = .ok (.str text) := by
  have hget : (half.withResponseText (some text)).disclosed.get "response_text" =
      .ok (.str text) := by
    simp [AdjudicationHalf.withResponseText, h, Json.lookup_setMember_self, Json.ofStr?]
  rw [AdjudicationHalf.responseText, hget]
  by_cases hempty : text = ""
  · rw [hempty]
    rfl
  · have htruthy : (Json.str text).truthy = true := by simpa [Json.truthy] using hempty
    exact congrArg Except.ok (Json.or_of_truthy htruthy _)

/-- Up to the comparison, a text is not looked at. -/
theorem beforeTexts_withResponseText (textA textB : Option String) :
    beforeTexts digests verify (halfA.withResponseText textA) (halfB.withResponseText textB)
      options = beforeTexts digests verify halfA halfB options := by
  unfold beforeTexts
  rw [verifyHalfOrRaise_withResponseText, verifyHalfOrRaise_withResponseText,
    capsuleId_withResponseText, capsuleId_withResponseText, eitherUntranscribed_withResponseText,
    verifyPreimageOrRaise_withResponseText, verifyPreimageOrRaise_withResponseText,
    knownWeights_withResponseText, withResponseText_ownerId, withResponseText_ownerId]

/-- Two empty texts do not diverge. -/
theorem adjudicateTexts_empty {base : AdjudicationOutcome} (hA : halfA.responseText = .ok (.str ""))
    (hB : halfB.responseText = .ok (.str "")) :
    ∃ outcome, adjudicateTexts digests halfA halfB options base = .ok outcome ∧
      outcome.divergenceIndex = none := by
  rw [adjudicateTexts, hA, hB]
  exact ⟨_, rfl, rfl⟩

/-- An empty text and a word diverge, whatever the referee makes of it. -/
theorem adjudicateTexts_diverging {base outcome : AdjudicationOutcome}
    (hA : halfA.responseText = .ok (.str "")) (hB : halfB.responseText = .ok (.str "x"))
    (h : adjudicateTexts digests halfA halfB options base = .ok outcome) :
    outcome.divergenceIndex = some 0 := by
  have hcompare : compareTranscripts digests (.str "") (.str "x") =
      .ok ⟨some 0, ((0 : ℕ) : ℚ) / (1 : ℕ), 0, 1, none⟩ := rfl
  unfold adjudicateTexts at h
  obtain ⟨textA, htextA, h⟩ := adjudicating_bind_eq_ok.mp h
  obtain rfl := Except.ok.inj ((ofPy_eq_ok.mp htextA).symm.trans hA)
  obtain ⟨textB, htextB, h⟩ := adjudicating_bind_eq_ok.mp h
  obtain rfl := Except.ok.inj ((ofPy_eq_ok.mp htextB).symm.trans hB)
  obtain ⟨comparison, hcomparison, h⟩ := adjudicating_bind_eq_ok.mp h
  obtain rfl := Except.ok.inj ((ofPy_eq_ok.mp hcomparison).symm.trans hcompare)
  cases hreferee : options.referee with
  | none =>
      rw [hreferee] at h
      obtain rfl := Except.ok.inj h
      rfl
  | some referee =>
      rw [hreferee] at h
      dsimp only at h
      split at h
      · obtain rfl := Except.ok.inj h
        rfl
      · split at h
        · obtain rfl := Except.ok.inj h
          rfl
        · split at h
          · cases h
          · obtain rfl := Except.ok.inj h
            rfl

/-- A genuine preimage is a dictionary. -/
theorem disclosed_of_preimage {label : String} {half : AdjudicationHalf}
    (h : verifyPreimageOrRaise digests label half = .ok ()) :
    ∃ members, half.disclosed = .obj members := by
  obtain ⟨_, -, h⟩ := adjudicating_bind_eq_ok.mp h
  obtain ⟨body, hbody, -⟩ := adjudicating_bind_eq_ok.mp h
  obtain ⟨_, hget, -⟩ := Py.bind_eq_ok.mp (ofPy_eq_ok.mp hbody)
  cases hdisclosed : half.disclosed with
  | obj members => exact ⟨members, rfl⟩
  | _ =>
      rw [hdisclosed] at hget
      cases hget

/-- The disclosed texts, which no digest covers, are without effect exactly where they are
not compared. -/
theorem response_text_without_effect_iff (digests : Digests) (verify : Json → Bool)
    (halfA halfB : AdjudicationHalf) (options : AdjudicateOptions) :
    (∀ textA textB, reported (adjudicate digests verify (halfA.withResponseText textA)
        (halfB.withResponseText textB) options) =
      reported (adjudicate digests verify halfA halfB options)) ↔
      ¬Comparable digests verify halfA halfB options := by
  constructor
  · intro h hcomparable
    obtain ⟨membersA, hmembersA⟩ := disclosed_of_preimage hcomparable.preimageA
    obtain ⟨membersB, hmembersB⟩ := disclosed_of_preimage hcomparable.preimageB
    obtain ⟨base, hbase⟩ := beforeTexts_eq_inr.mpr hcomparable
    have hcompared : ∀ textA textB, adjudicate digests verify (halfA.withResponseText textA)
        (halfB.withResponseText textB) options = adjudicateTexts digests
          (halfA.withResponseText textA) (halfB.withResponseText textB) options base := by
      intro textA textB
      rw [adjudicate_eq, beforeTexts_withResponseText, hbase]
      rfl
    obtain ⟨agreed, hagreed, hnone⟩ : ∃ agreed, adjudicateTexts digests
        (halfA.withResponseText (some "")) (halfB.withResponseText (some "")) options base =
          .ok agreed ∧ agreed.divergenceIndex = none :=
      adjudicateTexts_empty (responseText_withResponseText hmembersA "")
        (responseText_withResponseText hmembersB "")
    have hsame := (h (some "") (some "")).trans (h (some "") (some "x")).symm
    rw [hcompared, hagreed, hcompared] at hsame
    cases hother : adjudicateTexts digests (halfA.withResponseText (some ""))
        (halfB.withResponseText (some "x")) options base with
    | error e =>
        rw [hother] at hsame
        cases hsame
    | ok diverged =>
        have hsome := adjudicateTexts_diverging (responseText_withResponseText hmembersA "")
          (responseText_withResponseText hmembersB "x") hother
        rw [hother] at hsame
        have hindex := congrArg (fun r => r.2.2) (Except.ok.inj hsame)
        simp only at hindex
        rw [hnone, hsome] at hindex
        cases hindex
  · intro h textA textB
    rw [adjudicate_eq, adjudicate_eq, beforeTexts_withResponseText]
    cases hbefore : beforeTexts digests verify halfA halfB options with
    | error e => rfl
    | ok ended =>
        cases ended with
        | inl outcome => rfl
        | inr base => exact absurd (beforeTexts_eq_inr.mp ⟨base, hbefore⟩) h

/-! ## A corroborated pair that a text sets at odds -/

def answer : Json := .obj [("content", .str "yes")]

/-- A digest without collisions. -/
def canonicalDigests : Digests := { plainDigests with jsonDigest := fun value ↦ some value.canonical }

/-- A half of `owner` that sealed and discloses the answer, with a text of its choice. -/
def answeringHalf (owner text : String) : AdjudicationHalf where
  capsule := .obj
    [("capsule_id", .str owner), ("effect", .obj [("response_digest", .str answer.canonical)])]
  disclosed := .obj [("response_body", answer), ("response_text", .str text)]
  ownerId := .str owner
  weightsDigest := none
  decoding := .null

def annHalf : AdjudicationHalf := answeringHalf "ann" "yes"

def bobHalf : AdjudicationHalf := answeringHalf "bob" "no"

/-- One text of two is changed, no digest check fails, and the verdict turns. -/
theorem changed_text_turns_verdict :
    let adjudicated := fun text => reported (adjudicate canonicalDigests (fun _ => true)
      (answeringHalf "a" "yes") (answeringHalf "b" text) {})
    verifyPreimageOrRaise canonicalDigests "half_b" (answeringHalf "b" "yes") = .ok () ∧
      verifyPreimageOrRaise canonicalDigests "half_b" (answeringHalf "b" "no") = .ok () ∧
      adjudicated "yes" = .ok (some VERDICT_CORROBORATED, none, none) ∧
      adjudicated "no" = .ok (some VERDICT_INCONCLUSIVE, none, some 0) := by
  intro adjudicated
  refine ⟨rfl, rfl, ?_, ?_⟩
  · have hagreed : adjudicated "yes" = .ok (some (if DEFAULT_MARGIN_TAU ≤ ((1 : ℕ) : ℚ) / (1 : ℕ)
        then VERDICT_CORROBORATED else VERDICT_INCONCLUSIVE), none, none) := rfl
    rw [hagreed, if_pos (by norm_num [DEFAULT_MARGIN_TAU])]
  · have hdiverged : adjudicated "no" = .ok (some (if DEFAULT_MARGIN_TAU ≤ ((0 : ℕ) : ℚ) / (1 : ℕ)
        then VERDICT_CORROBORATED else VERDICT_INCONCLUSIVE), none, some 0) := rfl
    rw [hdiverged, if_neg (by norm_num [DEFAULT_MARGIN_TAU])]

end CapsuleMesh.Adjudication
