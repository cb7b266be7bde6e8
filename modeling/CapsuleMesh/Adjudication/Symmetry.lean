import CapsuleMesh.Adjudication.Comparison
import CapsuleMesh.Adjudication.ResponseText
import CapsuleMesh.Python.Equality

/-!
# Exchanging the halves

Without a referee the checks of `adjudicate` treat both halves alike, up to the order in which they
are made.  The order shows where a check of the first half makes that of the second superfluous:
`_no_requester_transcript(half_a) or _no_requester_transcript(half_b)`.
-/

namespace CapsuleMesh.Adjudication

open Python Sidecar Library Library.Raising

/-- What an adjudication says apart from the halves' own fields; `none` when it raises. -/
structure Measured where
  verdict : Option String
  noVerdictReason : Option NoVerdict
  divergenceIndex : Option ℕ
  margin : ℚ
  prefixDigest : Option String
deriving DecidableEq

def AdjudicationOutcome.measured (outcome : AdjudicationOutcome) : Measured :=
  ⟨outcome.verdict, outcome.noVerdictReason, outcome.divergenceIndex, outcome.margin,
    outcome.prefixDigest⟩

def measured (result : Adjudicating AdjudicationOutcome) : Option Measured :=
  result.toOption.map AdjudicationOutcome.measured

theorem toOption_ofPy {α : Type} (x : Py α) : (Adjudicating.ofPy x).toOption = x.toOption := by
  cases x <;> rfl

variable {digests : Digests} {verify : Json → Bool} {halfA halfB : AdjudicationHalf}

/-! ## The checks of one half -/

/-- The half is genuine and has an id. -/
def Genuine (verify : Json → Bool) (half : AdjudicationHalf) : Prop :=
  verify half.capsule = true ∧ ∃ id, half.capsuleId = .ok id

theorem toOption_verifyHalfOrRaise (verify : Json → Bool) (label : String)
    (half : AdjudicationHalf) :
    (verifyHalfOrRaise verify label half).toOption =
      if verify half.capsule then some () else none := by
  unfold verifyHalfOrRaise
  split
  · rfl
  · rw [toOption_bind]
    cases Adjudicating.ofPy half.capsuleIdHead <;> rfl

/-- The label is only there for the message. -/
theorem toOption_verifyPreimageOrRaise (digests : Digests) (label label' : String)
    (half : AdjudicationHalf) :
    (verifyPreimageOrRaise digests label half).toOption =
      (verifyPreimageOrRaise digests label' half).toOption := by
  unfold verifyPreimageOrRaise
  simp only [toOption_bind]
  refine congrArg _ (funext fun declared => congrArg _ (funext fun body => congrArg _
    (funext fun recomputed => ?_)))
  split
  · rfl
  · rw [toOption_bind, toOption_bind]
    cases Adjudicating.ofPy half.capsuleIdHead <;> rfl

theorem knownWeights_differ_comm (halfA halfB : AdjudicationHalf) :
    ((knownWeights halfA halfB).any fun ws => ws.1 ≠ ws.2) =
      ((knownWeights halfB halfA).any fun ws => ws.1 ≠ ws.2) := by
  unfold knownWeights
  cases halfA.weightsDigest <;> cases halfB.weightsDigest <;> simp [eq_comm]

/-- A transcript check that decides for the first half keeps the second from being made. -/
def OneSided (halfA halfB : AdjudicationHalf) : Prop :=
  (noRequesterTranscript halfA = .ok true ∧ ∃ e, noRequesterTranscript halfB = .error e) ∨
    (noRequesterTranscript halfB = .ok true ∧ ∃ e, noRequesterTranscript halfA = .error e)

theorem eitherUntranscribed_comm (h : ¬OneSided halfA halfB) :
    (eitherUntranscribed halfA halfB).toOption = (eitherUntranscribed halfB halfA).toOption := by
  unfold OneSided at h
  unfold eitherUntranscribed
  simp only [toOption_bind]
  cases hA : noRequesterTranscript halfA with
  | error e =>
      cases hB : noRequesterTranscript halfB with
      | error e' => rfl
      | ok b =>
        cases b with
        | false => rfl
        | true => exact absurd (.inr ⟨hB, e, hA⟩) h
  | ok a =>
      cases hB : noRequesterTranscript halfB with
      | error e =>
        cases a with
        | false => rfl
        | true => exact absurd (.inl ⟨hA, e, hB⟩) h
      | ok b => cases a <;> cases b <;> rfl

/-- Then the order decides whether it raises. -/
theorem OneSided.eitherUntranscribed (h : OneSided halfA halfB) :
    ((eitherUntranscribed halfA halfB).toOption = some true ∧
        (eitherUntranscribed halfB halfA).toOption = none) ∨
      ((eitherUntranscribed halfA halfB).toOption = none ∧
        (eitherUntranscribed halfB halfA).toOption = some true) := by
  unfold Adjudication.eitherUntranscribed
  obtain ⟨hdecided, e, hraised⟩ | ⟨hdecided, e, hraised⟩ := h
  · left
    rw [hdecided, hraised]
    exact ⟨rfl, rfl⟩
  · right
    rw [hdecided, hraised]
    exact ⟨rfl, rfl⟩

/-! ## The comparison -/

/-- What is taken over from a comparison. -/
def ComparisonResult.measured (comparison : ComparisonResult) : Option ℕ × ℚ × Option String :=
  (comparison.divergenceIndex, comparison.margin, comparison.prefixDigest)

theorem comparisonOf_measured_comm (as bs : List String) (prefixDigest : Option String) :
    (comparisonOf as bs prefixDigest).measured = (comparisonOf bs as prefixDigest).measured := by
  have hindex : (comparisonOf as bs prefixDigest).divergenceIndex =
      (comparisonOf bs as prefixDigest).divergenceIndex := by
    simp only [comparisonOf, commonPrefix_comm as bs, eq_comm]
  have hmargin : (comparisonOf as bs prefixDigest).margin =
      (comparisonOf bs as prefixDigest).margin := by
    simp only [comparisonOf, commonPrefix_comm as bs, max_comm as.length]
  rw [ComparisonResult.measured, hindex, hmargin]
  rfl

theorem compareTranscripts_comm (digests : Digests) (textA textB : Json) :
    (compareTranscripts digests textA textB).toOption.map ComparisonResult.measured =
      (compareTranscripts digests textB textA).toOption.map ComparisonResult.measured := by
  cases htextA : tokenize textA with
  | error e =>
      have hleft : (compareTranscripts digests textA textB).toOption = none := by
        rw [compareTranscripts, toOption_bind, htextA]
        rfl
      have hright : (compareTranscripts digests textB textA).toOption = none := by
        rw [compareTranscripts, toOption_bind, htextA]
        cases tokenize textB <;> rfl
      rw [hleft, hright]
  | ok as =>
      cases htextB : tokenize textB with
      | error e =>
        have hleft : (compareTranscripts digests textA textB).toOption = none := by
          rw [compareTranscripts, toOption_bind, htextA, toOption_ok, Option.bind_some,
            toOption_bind, htextB]
          rfl
        have hright : (compareTranscripts digests textB textA).toOption = none := by
          rw [compareTranscripts, toOption_bind, htextB]
          rfl
        rw [hleft, hright]
      | ok bs =>
        cases textA with
        | str a =>
          cases textB with
          | str b =>
            have hcomm := comparisonOf_measured_comm (split a) (split b)
            rw [compareTranscripts_str, compareTranscripts_str,
              commonPrefix_comm (split b) (split a)]
            dsimp only
            split_ifs with hempty
            · exact congrArg some (hcomm none)
            · cases digestJson digests
                  (prefixDocument (commonPrefix (split a) (split b))) with
              | error e => rfl
              | ok digest => exact congrArg some (hcomm (some digest))
          | _ => cases htextB
        | _ => cases htextA

/-- The end of `adjudicate` without a referee. -/
def comparedTexts (digests : Digests) (marginTau : ℚ) (halfA halfB : AdjudicationHalf) :
    Option Measured :=
  halfA.responseText.toOption.bind fun textA =>
    halfB.responseText.toOption.bind fun textB =>
      ((compareTranscripts digests textA textB).toOption.map ComparisonResult.measured).map
        fun m => ⟨some (if marginTau ≤ m.2.1 then VERDICT_CORROBORATED else VERDICT_INCONCLUSIVE),
          none, m.1, m.2.1, m.2.2⟩

theorem measured_adjudicateTexts {options : AdjudicateOptions} (hreferee : options.referee = none)
    {base : AdjudicationOutcome} (hreason : base.noVerdictReason = none) :
    measured (adjudicateTexts digests halfA halfB options base) =
      comparedTexts digests options.marginTau halfA halfB := by
  unfold measured adjudicateTexts comparedTexts
  rw [toOption_bind, toOption_ofPy]
  cases halfA.responseText with
  | error e => rfl
  | ok textA =>
      rw [toOption_ok, Option.bind_some, Option.bind_some, toOption_bind, toOption_ofPy]
      cases halfB.responseText with
      | error e => rfl
      | ok textB =>
        rw [toOption_ok, Option.bind_some, Option.bind_some, toOption_bind, toOption_ofPy]
        cases compareTranscripts digests textA textB with
        | error e => rfl
        | ok comparison =>
          cases hindex : comparison.divergenceIndex <;>
            simp [AdjudicationOutcome.measured, ComparisonResult.measured, hindex, hreason,
              hreferee]

theorem comparedTexts_comm (digests : Digests) (marginTau : ℚ) (halfA halfB : AdjudicationHalf) :
    comparedTexts digests marginTau halfA halfB = comparedTexts digests marginTau halfB halfA := by
  unfold comparedTexts
  rw [Option.bind_comm]
  refine congrArg _ (funext fun textB => congrArg _ (funext fun textA => ?_))
  rw [compareTranscripts_comm]

/-! ## The whole adjudication -/

/-- An outcome before any text is compared. -/
def Measured.reason (reason : NoVerdict) : Measured := ⟨none, some reason, none, 0, none⟩

/-- `adjudicate` after both halves have been found to have a transcript. -/
def afterTranscripts (digests : Digests) (marginTau : ℚ) (halfA halfB : AdjudicationHalf) :
    Option Measured :=
  (verifyPreimageOrRaise digests "half_a" halfA).toOption.bind fun _ =>
    (verifyPreimageOrRaise digests "half_b" halfB).toOption.bind fun _ =>
      if (knownWeights halfA halfB).any fun ws => ws.1 ≠ ws.2 then
        some (.reason .weightsMismatch)
      else if halfA.ownerId.isNull ∨ halfB.ownerId.isNull then some (.reason .ownerAbsent)
      else if Json.pyEq halfA.ownerId halfB.ownerId then some (.reason .sameOwnerTwin)
      else comparedTexts digests marginTau halfA halfB

theorem afterTranscripts_comm (digests : Digests) (marginTau : ℚ)
    (hownerA : halfA.ownerId.keyedOnce = true) (hownerB : halfB.ownerId.keyedOnce = true) :
    afterTranscripts digests marginTau halfA halfB =
      afterTranscripts digests marginTau halfB halfA := by
  have hnull : (halfA.ownerId.isNull ∨ halfB.ownerId.isNull) ↔
      (halfB.ownerId.isNull ∨ halfA.ownerId.isNull) := or_comm
  unfold afterTranscripts
  rw [toOption_verifyPreimageOrRaise digests "half_a" "half_b" halfA,
    toOption_verifyPreimageOrRaise digests "half_a" "half_b" halfB, Option.bind_comm,
    knownWeights_differ_comm, Json.pyEq_comm hownerA hownerB, comparedTexts_comm]
  simp only [hnull]

/-- `adjudicate` without a referee. -/
def adjudicated (digests : Digests) (verify : Json → Bool) (marginTau : ℚ)
    (halfA halfB : AdjudicationHalf) : Option Measured :=
  (if verify halfA.capsule then some () else none).bind fun _ =>
    (if verify halfB.capsule then some () else none).bind fun _ =>
      halfA.capsuleId.toOption.bind fun _ =>
        halfB.capsuleId.toOption.bind fun _ =>
          (eitherUntranscribed halfA halfB).toOption.bind fun untranscribed =>
            if untranscribed then some (.reason .noRequesterTranscript)
            else afterTranscripts digests marginTau halfA halfB

/-- The checks of both halves after their transcripts. -/
theorem measured_afterTranscripts {options : AdjudicateOptions} (hreferee : options.referee = none)
    {base : Option String → AdjudicationOutcome}
    (hbase : ∀ weights, (base weights).measured = ⟨none, none, none, 0, none⟩) :
    measured (do
      verifyPreimageOrRaise digests "half_a" halfA
      verifyPreimageOrRaise digests "half_b" halfB
      if (knownWeights halfA halfB).any fun ws => ws.1 ≠ ws.2 then
        return { base none with noVerdictReason := some .weightsMismatch }
      else
        let shared := (knownWeights halfA halfB).map Prod.fst
        if halfA.ownerId.isNull ∨ halfB.ownerId.isNull then
          return { base shared with noVerdictReason := some .ownerAbsent }
        else if Json.pyEq halfA.ownerId halfB.ownerId then
          return { base shared with
            noVerdictReason := some .sameOwnerTwin
            twinOwnerDistinct := some false }
        else adjudicateTexts digests halfA halfB options (base shared)) =
      afterTranscripts digests options.marginTau halfA halfB := by
  have hreason (weights : Option String) (reason : NoVerdict) (distinct : Option Bool) :
      AdjudicationOutcome.measured { base weights with
        noVerdictReason := some reason
        twinOwnerDistinct := distinct } = .reason reason := by
    have h := hbase weights
    simp only [AdjudicationOutcome.measured, Measured.mk.injEq] at h
    obtain ⟨hverdict, -, hindex, hmargin, hdigest⟩ := h
    simp only [AdjudicationOutcome.measured, Measured.reason, hverdict, hindex, hmargin, hdigest]
  unfold measured afterTranscripts
  rw [toOption_bind]
  cases verifyPreimageOrRaise digests "half_a" halfA with
  | error e => rfl
  | ok _ =>
      rw [toOption_ok, Option.bind_some, Option.bind_some, toOption_bind]
      cases verifyPreimageOrRaise digests "half_b" halfB with
      | error e => rfl
      | ok _ =>
        rw [toOption_ok, Option.bind_some, Option.bind_some]
        split
        · exact congrArg some (hreason _ _ _)
        · split
          · exact congrArg some (hreason _ _ _)
          · split
            · exact congrArg some (hreason _ _ _)
            · apply measured_adjudicateTexts hreferee
              exact congrArg Measured.noVerdictReason (hbase _)

theorem measured_adjudicate {options : AdjudicateOptions} (hreferee : options.referee = none) :
    measured (adjudicate digests verify halfA halfB options) =
      if options.logprobTau.isSome then none
      else adjudicated digests verify options.marginTau halfA halfB := by
  unfold measured adjudicate adjudicated
  simp only [hreferee, Option.isNone_none, and_true]
  split
  · rfl
  · rw [toOption_bind, toOption_verifyHalfOrRaise]
    split
    · rw [Option.bind_some, Option.bind_some, toOption_bind, toOption_verifyHalfOrRaise]
      split
      · rw [Option.bind_some, Option.bind_some, toOption_bind, toOption_ofPy]
        cases halfA.capsuleId with
        | error e => rfl
        | ok halfAId =>
          rw [toOption_ok, Option.bind_some, Option.bind_some, toOption_bind, toOption_ofPy]
          cases halfB.capsuleId with
          | error e => rfl
          | ok halfBId =>
            rw [toOption_ok, Option.bind_some, Option.bind_some, toOption_bind, toOption_ofPy]
            cases eitherUntranscribed halfA halfB with
            | error e => rfl
            | ok untranscribed =>
              cases untranscribed with
              | true => rfl
              | false => exact measured_afterTranscripts hreferee fun _ => rfl
      · rfl
    · rfl

/-! ## When the order shows -/

theorem adjudicated_of_genuine {marginTau : ℚ} (hA : Genuine verify halfA)
    (hB : Genuine verify halfB) :
    adjudicated digests verify marginTau halfA halfB =
      (eitherUntranscribed halfA halfB).toOption.bind fun untranscribed =>
        if untranscribed then some (.reason .noRequesterTranscript)
        else afterTranscripts digests marginTau halfA halfB := by
  obtain ⟨hverifyA, idA, hidA⟩ := hA
  obtain ⟨hverifyB, idB, hidB⟩ := hB
  rw [adjudicated, hverifyA, hverifyB, hidA, hidB]
  rfl

theorem adjudicated_of_not_genuine {marginTau : ℚ}
    (h : ¬(Genuine verify halfA ∧ Genuine verify halfB)) :
    adjudicated digests verify marginTau halfA halfB = none := by
  unfold adjudicated
  cases hverifyA : verify halfA.capsule with
  | false => rfl
  | true =>
      cases hverifyB : verify halfB.capsule with
      | false => rfl
      | true =>
        cases hidA : halfA.capsuleId with
        | error e => rfl
        | ok idA =>
          cases hidB : halfB.capsuleId with
          | error e => rfl
          | ok idB => exact absurd ⟨⟨hverifyA, idA, hidA⟩, hverifyB, idB, hidB⟩ h

/-- Exchanging the halves changes what is found or whether anything is raised exactly when both
halves are genuine and the transcript check decides for one of them and raises for the other. -/
theorem adjudicate_comm_iff (digests : Digests) (verify : Json → Bool)
    {halfA halfB : AdjudicationHalf} (options : AdjudicateOptions)
    (hownerA : halfA.ownerId.keyedOnce = true) (hownerB : halfB.ownerId.keyedOnce = true) :
    measured (adjudicate digests verify halfA halfB { options with referee := none }) =
        measured (adjudicate digests verify halfB halfA { options with referee := none }) ↔
      ¬(options.logprobTau = none ∧ Genuine verify halfA ∧ Genuine verify halfB ∧
        OneSided halfA halfB) := by
  rw [measured_adjudicate rfl, measured_adjudicate rfl]
  cases hlogprob : options.logprobTau with
  | some tau => simp
  | none =>
      simp only [Option.isSome_none, Bool.false_eq_true, if_false, true_and]
      by_cases hgenuine : Genuine verify halfA ∧ Genuine verify halfB
      · obtain ⟨hA, hB⟩ := hgenuine
        rw [adjudicated_of_genuine hA hB, adjudicated_of_genuine hB hA,
          afterTranscripts_comm digests options.marginTau hownerB hownerA]
        simp only [hA, hB, true_and]
        constructor
        · intro hsame hside
          obtain ⟨hleft, hright⟩ | ⟨hleft, hright⟩ := hside.eitherUntranscribed
          · rw [hleft, hright] at hsame
            cases hsame
          · rw [hleft, hright] at hsame
            cases hsame
        · intro hside
          rw [eitherUntranscribed_comm hside]
      · have hexchanged : ¬(Genuine verify halfB ∧ Genuine verify halfA) :=
          fun h => hgenuine h.symm
        rw [adjudicated_of_not_genuine hgenuine, adjudicated_of_not_genuine hexchanged]
        refine iff_of_true rfl ?_
        rintro ⟨hA, hB, -⟩
        exact hgenuine ⟨hA, hB⟩

/-! ## Concrete halves -/

/-- A half whose capsule has this mesh block, without a disclosed response. -/
def blockHalf (block : Json) : AdjudicationHalf where
  capsule := .obj
    [("capsule_id", .str "id"),
     ("model_attestation", .obj
       [("compute_attestation", .obj [("x-mesh-poc-v1", block)])])]
  disclosed := .obj []
  ownerId := .str "owner"
  weightsDigest := none
  decoding := .null

/-- The half of a provider, for which there is no transcript. -/
def providerHalf : AdjudicationHalf :=
  blockHalf (.obj [("serving_provenance", .obj [("role", .str "provider")])])

/-- A half whose mesh block is a text. -/
def textBlockHalf : AdjudicationHalf := blockHalf (.str "v2")

theorem adjudicate_comm_iff_answers :
    measured (adjudicate canonicalDigests (fun _ => true) (answeringHalf "ann" "yes")
        (answeringHalf "bob" "no") { ({} : AdjudicateOptions) with referee := none }) =
      measured (adjudicate canonicalDigests (fun _ => true) (answeringHalf "bob" "no")
        (answeringHalf "ann" "yes") { ({} : AdjudicateOptions) with referee := none }) := by
  apply (adjudicate_comm_iff canonicalDigests (fun _ => true) {} rfl rfl).mpr
  rintro ⟨-, -, -, hside⟩
  obtain ⟨-, e, hraised⟩ | ⟨-, e, hraised⟩ := hside
  · cases hraised
  · cases hraised

/-- With the provider's half first there is no transcript; with it second the block that is a text
is read first and raises. -/
theorem order_decides_raising :
    measured (adjudicate plainDigests (fun _ => true) providerHalf textBlockHalf
        { ({} : AdjudicateOptions) with referee := none }) =
        some (.reason .noRequesterTranscript) ∧
      measured (adjudicate plainDigests (fun _ => true) textBlockHalf providerHalf
        { ({} : AdjudicateOptions) with referee := none }) = none := by
  refine ⟨?_, ?_⟩
  · decide +kernel
  · decide +kernel

end CapsuleMesh.Adjudication
