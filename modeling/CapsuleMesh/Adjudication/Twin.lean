import CapsuleMesh.Sidecar.BuildCapsule
import Mathlib.Algebra.Order.Field.Rat

/-!
# Twin adjudication

`twin_adjudicator.py`: two sealed halves with their disclosed preimages, the
comparison of their response texts, and the order of checks by which `adjudicate`
reaches a verdict or a reason for none.  Margins are exact fractions.  The offline
`verify` of the capsule package and the referee are parameters.
-/

namespace CapsuleMesh.Adjudication

open Python Sidecar

def VERDICT_CORROBORATED : String := "corroborated"

def VERDICT_INCONCLUSIVE : String := "inconclusive"

def VERDICT_CONTRADICTED_PREFIX : String := "contradicted:"

def EPISTEMIC_TYPE_OBSERVED_EVENT : String := "observed_event"

def DEFAULT_MARGIN_TAU : ℚ := 9 / 10

/-- The values of `no_verdict_reason`. -/
inductive NoVerdict where
  | weightsMismatch
  | sameOwnerTwin
  | noRequesterTranscript
  | refereeNotIndependent
  | ownerAbsent
  | refereeUnreachable
deriving DecidableEq

inductive RefereeRecordStatus where
  | resolved
  | citationUnverified
  | unresolved
deriving DecidableEq

def RefereeRecordStatus.name : RefereeRecordStatus → String
  | .resolved => "resolved"
  | .citationUnverified => "citation_unverified"
  | .unresolved => "unresolved"

/-- What stops an adjudication without an outcome. -/
inductive AdjudicationError where
  | python (error : PyError)
  | logprobTauWithoutReferee
  | forgedHalf (label : String)
  | preimageDigestMismatch (label : String) (recomputed : String) (declared : Json)
  | unattributableReferee

abbrev Adjudicating := Except AdjudicationError

def Adjudicating.ofPy {α : Type} (x : Py α) : Adjudicating α := x.mapError .python

/-! ## The two halves -/

structure RefereeIdentity where
  refereeId : String
  refereeCapsuleId : Option String
  signature : Option String

structure AdjudicationHalf where
  capsule : Json
  disclosed : Json
  ownerId : Json
  weightsDigest : Option String
  decoding : Json

namespace AdjudicationHalf

def capsuleId (half : AdjudicationHalf) : Py Json := half.capsule.item "capsule_id"

def declaredResponseDigest (half : AdjudicationHalf) : Py Json := do
  let effect ← half.capsule.get "effect"
  (effect.or (.obj [])).get "response_digest"

def responseBody (half : AdjudicationHalf) : Py Json := do
  return (← half.disclosed.get "response_body").or (.obj [])

def responseText (half : AdjudicationHalf) : Py Json := do
  return (← half.disclosed.get "response_text").or (.str "")

end AdjudicationHalf

/-- `(capsule.get("model_attestation") or {}).get("compute_attestation") or {}`. -/
def attestationOf (capsule : Json) : Py Json := do
  let model ← capsule.get "model_attestation"
  return (← (model.or (.obj [])).get "compute_attestation").or (.obj [])

def fromCapsuleAndDisclosure (capsule disclosed : Json) (weightsDigest : Option String) :
    Py AdjudicationHalf := do
  let computeAttestation ← attestationOf capsule
  let owner := (← computeAttestation.get "owner").or (.obj [])
  return {
    capsule := capsule
    disclosed := disclosed
    ownerId := ← owner.get "owner_id"
    weightsDigest := weightsDigest
    decoding := ← computeAttestation.get "decoding" }

/-- `serving_provenance.role` of a half. -/
def halfRole (half : AdjudicationHalf) : Py Json := do
  let attestation ← attestationOf half.capsule
  let poc := (← attestation.get "x-mesh-poc-v1").or (.obj [])
  ((← poc.get "serving_provenance").or (.obj [])).get "role"

def noRequesterTranscript (half : AdjudicationHalf) : Py Bool := do
  if (← halfRole half).str? = some Role.provider.name then
    return !(← half.disclosed.get "response_body").truthy
  else return false

/-- `_no_requester_transcript(half_a) or _no_requester_transcript(half_b)`. -/
def eitherUntranscribed (halfA halfB : AdjudicationHalf) : Py Bool := do
  if ← noRequesterTranscript halfA then return true
  else noRequesterTranscript halfB

/-! ## Comparing the two texts -/

def tokenize (text : Json) : Py (List String) :=
  match text with
  | .str s => .ok (split s)
  | _ => .error .attributeError

structure ComparisonResult where
  divergenceIndex : Option ℕ
  margin : ℚ
  lenA : ℕ
  lenB : ℕ
  prefixDigest : Option String

/-- The bisection of `compare_transcripts`; each round halves `hi - lo`, so the
length of the shorter text is enough fuel. -/
def matchedLen (as bs : List String) : (fuel lo hi : ℕ) → ℕ
  | 0, lo, _ => lo
  | fuel + 1, lo, hi =>
      if lo < hi then
        let mid := (lo + hi + 1) / 2
        if as.take mid = bs.take mid then matchedLen as bs fuel mid hi
        else matchedLen as bs fuel lo (mid - 1)
      else lo

/-- `digest_json`. -/
def digestJson (digests : Digests) (value : Json) : Py String :=
  match safeDigestJson digests value with
  | some digest => .ok digest
  | none => .error .unsafeIntegerError

def compareTranscripts (digests : Digests) (textA textB : Json) : Py ComparisonResult := do
  let tokensA ← tokenize textA
  let tokensB ← tokenize textB
  let n := min tokensA.length tokensB.length
  let matched := matchedLen tokensA tokensB n 0 n
  let identical := matched = tokensA.length ∧ tokensA.length = tokensB.length
  let total := max (max tokensA.length tokensB.length) 1
  let prefixDigest ←
    if matched ≠ 0 then
      some <$> digestJson digests
        (.obj [("prefix_tokens", .arr ((tokensA.take matched).map Json.str))])
    else pure none
  return {
    divergenceIndex := if identical then none else some matched
    margin := (matched : ℚ) / total
    lenA := tokensA.length
    lenB := tokensB.length
    prefixDigest := prefixDigest }

/-! ## The outcome -/

structure RefereeResult where
  verdict : String
  margin : ℚ
  logprobsAbsent : Bool
  capsuleId : Option String
  refereeRecordStatus : RefereeRecordStatus
  refereeRecordNonce : Option String
  identity : Option RefereeIdentity

abbrev Referee := AdjudicationHalf → AdjudicationHalf → ComparisonResult → Py RefereeResult

structure AdjudicationOutcome where
  verdict : Option String
  noVerdictReason : Option NoVerdict
  divergenceIndex : Option ℕ
  margin : ℚ
  marginTau : ℚ
  prefixDigest : Option String
  twinOwnerDistinct : Option Bool
  weightsDigest : Option String
  halfACapsuleId : Json
  halfBCapsuleId : Json
  source : String := "twin_comparison"
  captureMethod : String := "deterministic_replay"
  tau : Option ℚ := none
  refereeLogprobsAbsent : Bool := false
  refereeCalled : Bool := false
  refereeCapsuleId : Option String := none
  references : List Json := []
  refereeIdentityId : Option String := none

/-- `half.capsule_id[:16]`, as the message of a refusal reads it. -/
def AdjudicationHalf.capsuleIdHead (half : AdjudicationHalf) : Py Unit := do
  match ← half.capsuleId with
  | .str _ | .arr _ => .ok ()
  | _ => .error .typeError

def verifyHalfOrRaise (verify : Json → Bool) (label : String) (half : AdjudicationHalf) :
    Adjudicating Unit :=
  if verify half.capsule then .ok ()
  else do
    Adjudicating.ofPy half.capsuleIdHead
    .error (.forgedHalf label)

def verifyPreimageOrRaise (digests : Digests) (label : String) (half : AdjudicationHalf) :
    Adjudicating Unit := do
  let declared ← Adjudicating.ofPy half.declaredResponseDigest
  let body ← Adjudicating.ofPy half.responseBody
  let recomputed ← Adjudicating.ofPy (digestJson digests body)
  if declared.str? = some recomputed then .ok ()
  else do
    Adjudicating.ofPy half.capsuleIdHead
    .error (.preimageDigestMismatch label recomputed declared)

/-- The keyword arguments of `adjudicate`. -/
structure AdjudicateOptions where
  marginTau : ℚ := DEFAULT_MARGIN_TAU
  logprobTau : Option ℚ := none
  referee : Option Referee := none
  refereeOwnerId : Option String := none

/-- Both weights digests when they are known. -/
def knownWeights (halfA halfB : AdjudicationHalf) : Option (String × String) :=
  match halfA.weightsDigest, halfB.weightsDigest with
  | some a, some b => some (a, b)
  | _, _ => none

/-- The entry that cites the referee by its nonce. -/
def refereeReferences (result : RefereeResult) : List Json :=
  match result.refereeRecordNonce with
  | none => []
  | some nonce =>
      [.obj
        [("kind", .str "referee_capsule"),
         ("nonce", .str nonce),
         ("status", .str result.refereeRecordStatus.name),
         ("capsule_id", .ofStr? result.capsuleId),
         ("epistemic_type", .str EPISTEMIC_TYPE_OBSERVED_EVENT)]]

/-- The fields every outcome shares before any text is compared. -/
def uncompared (marginTau : ℚ) (halfAId halfBId : Json) (weights : Option String) :
    AdjudicationOutcome where
  verdict := none
  noVerdictReason := none
  divergenceIndex := none
  margin := 0
  marginTau := marginTau
  prefixDigest := none
  twinOwnerDistinct := none
  weightsDigest := weights
  halfACapsuleId := halfAId
  halfBCapsuleId := halfBId

/-- The end of `adjudicate`: the texts of two halves of distinct owners are
compared, and a divergence goes to the referee when there is one. -/
def adjudicateTexts (digests : Digests) (halfA halfB : AdjudicationHalf)
    (options : AdjudicateOptions) (base : AdjudicationOutcome) :
    Adjudicating AdjudicationOutcome := do
  let textA ← Adjudicating.ofPy halfA.responseText
  let textB ← Adjudicating.ofPy halfB.responseText
  let comparison ← Adjudicating.ofPy (compareTranscripts digests textA textB)
  let compared : AdjudicationOutcome :=
    { base with
      divergenceIndex := comparison.divergenceIndex
      margin := comparison.margin
      prefixDigest := comparison.prefixDigest
      twinOwnerDistinct := some true }
  match comparison.divergenceIndex, options.referee with
  | some _, some referee =>
      let dependent := options.refereeOwnerId.any fun owner =>
        Json.pyEq (.str owner) halfA.ownerId || Json.pyEq (.str owner) halfB.ownerId
      if dependent then return { compared with noVerdictReason := some .refereeNotIndependent }
      else
        match referee halfA halfB comparison with
        | .error _ => return { compared with noVerdictReason := some .refereeUnreachable }
        | .ok result =>
          match result.identity with
          | none => .error .unattributableReferee
          | some identity =>
            let doubtful := options.logprobTau.any fun tau =>
              !result.logprobsAbsent && decide (result.margin < tau)
            return { compared with
              verdict := some (if doubtful then VERDICT_INCONCLUSIVE else result.verdict)
              margin := result.margin
              tau := options.logprobTau
              refereeLogprobsAbsent := result.logprobsAbsent
              refereeCalled := true
              refereeCapsuleId := result.capsuleId
              references := refereeReferences result
              refereeIdentityId := some identity.refereeId }
  | _, _ =>
      return { compared with
        verdict := some (if options.marginTau ≤ comparison.margin then VERDICT_CORROBORATED
          else VERDICT_INCONCLUSIVE) }

def adjudicate (digests : Digests) (verify : Json → Bool) (halfA halfB : AdjudicationHalf)
    (options : AdjudicateOptions) : Adjudicating AdjudicationOutcome :=
  if options.logprobTau.isSome ∧ options.referee.isNone then .error .logprobTauWithoutReferee
  else do
    verifyHalfOrRaise verify "half_a" halfA
    verifyHalfOrRaise verify "half_b" halfB
    let halfAId ← Adjudicating.ofPy halfA.capsuleId
    let halfBId ← Adjudicating.ofPy halfB.capsuleId
    let base := uncompared options.marginTau halfAId halfBId
    if ← Adjudicating.ofPy (eitherUntranscribed halfA halfB) then
      return { base none with noVerdictReason := some .noRequesterTranscript }
    else
      verifyPreimageOrRaise digests "half_a" halfA
      verifyPreimageOrRaise digests "half_b" halfB
      if (knownWeights halfA halfB).any fun ws => ws.1 ≠ ws.2 then
        return { base none with noVerdictReason := some .weightsMismatch }
      else
        let shared := (knownWeights halfA halfB).map Prod.fst
        if halfA.ownerId.isNull ∨ halfB.ownerId.isNull then
          return { base shared with noVerdictReason := some .ownerAbsent }
        else if Json.pyEq halfA.ownerId halfB.ownerId then
          return { base shared with
            noVerdictReason := some .sameOwnerTwin
            twinOwnerDistinct := some false }
        else adjudicateTexts digests halfA halfB options (base shared)

theorem adjudicating_bind_eq_ok {α β : Type} {x : Adjudicating α} {f : α → Adjudicating β}
    {b : β} : x >>= f = .ok b ↔ ∃ a, x = .ok a ∧ f a = .ok b :=
  Library.Raising.bind_eq_ok

/-- Without an owner on the first half no verdict is reached, and the owners are
never found to be equal. -/
theorem adjudicate_of_ownerId_null {digests : Digests} {verify : Json → Bool}
    {halfA halfB : AdjudicationHalf} {options : AdjudicateOptions}
    {outcome : AdjudicationOutcome} (hnull : halfA.ownerId = .null)
    (h : adjudicate digests verify halfA halfB options = .ok outcome) :
    outcome.verdict = none ∧
      (outcome.noVerdictReason = some .noRequesterTranscript ∨
        outcome.noVerdictReason = some .weightsMismatch ∨
        outcome.noVerdictReason = some .ownerAbsent) := by
  have hnull : halfA.ownerId.isNull = true := by
    rw [hnull]
    rfl
  unfold adjudicate at h
  split at h
  · cases h
  simp only [adjudicating_bind_eq_ok] at h
  obtain ⟨-, -, -, -, halfAId, -, halfBId, -, untranscribed, -, h⟩ := h
  split at h
  · obtain rfl := Except.ok.inj h
    exact ⟨rfl, .inl rfl⟩
  · simp only [adjudicating_bind_eq_ok, hnull, true_or, if_true] at h
    obtain ⟨-, -, -, -, h⟩ := h
    split at h
    · obtain rfl := Except.ok.inj h
      exact ⟨rfl, .inr (.inl rfl)⟩
    · obtain rfl := Except.ok.inj h
      exact ⟨rfl, .inr (.inr rfl)⟩

end CapsuleMesh.Adjudication
