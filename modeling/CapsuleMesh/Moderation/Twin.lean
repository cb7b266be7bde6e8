import CapsuleMesh.Adjudication.Twin
import CapsuleMesh.Moderation.Redress

/-!
# Moderation twins

`moderation_twin.py`: two sealed decisions of different owners are compared, and a referee, who may be
a human with a signed report, rules where they disagree.  The offline `verify` of the capsule package
and the signatures are parameters.
-/

namespace CapsuleMesh.Moderation

open Python
open Adjudication (NoVerdict VERDICT_CORROBORATED VERDICT_INCONCLUSIVE)

/-! ## The report of a reviewer -/

/-- Why `verify_human_report` decided as it did. -/
inductive ReportReason where
  | missing (key : String)
  | signatureFailed
  | malformedKeyOrSignature
  | verified
deriving DecidableEq

structure HumanReportVerdict where
  valid : Bool
  reason : ReportReason

/-- `bytes.fromhex(x)`, whose errors are all caught. -/
def hexBytes (signatures : Signatures) (j : Json) : Option Bytes := j.str?.bind signatures.fromHex

/-- What the reviewer signs. -/
def reportBody (report : List (String × Json)) : Bytes :=
  jcs (.obj (report.filter fun member => member.1 ≠ "signature"))

def verifyHumanReport (signatures : Signatures) (report : List (String × Json)) :
    HumanReportVerdict :=
  match report.lookup "signature", report.lookup "reviewer_public_key" with
  | none, _ => ⟨false, .missing "signature"⟩
  | _, none => ⟨false, .missing "reviewer_public_key"⟩
  | some sigHex, some pubHex =>
      match hexBytes signatures pubHex, hexBytes signatures sigHex with
      | some key, some signature =>
        if key.length ≠ 32 then ⟨false, .malformedKeyOrSignature⟩
        else if signatures.verify key signature (reportBody report) then ⟨true, .verified⟩
        else ⟨false, .signatureFailed⟩
      | _, _ => ⟨false, .malformedKeyOrSignature⟩

/-! ## The referee -/

structure RefereeIdentity where
  refereeId : String
  refereeCapsuleId : Option String
  signature : Json

/-- The verdict is whatever the report says. -/
structure RefereeResult where
  verdict : Json
  margin : ℚ
  logprobsAbsent : Bool
  capsuleId : Option String
  identity : Option RefereeIdentity

def refereeFromHumanReport (report : List (String × Json)) (reportCapsuleId : Option String) :
    Py RefereeResult := do
  let verdict ← (Json.obj report).item "verdict"
  let reviewerId ← (Json.obj report).item "reviewer_id"
  let signature ← (Json.obj report).item "signature"
  return {
    verdict := verdict
    margin := 0
    logprobsAbsent := true
    capsuleId := reportCapsuleId
    identity := some ⟨"human:" ++ reviewerId.pyStr, reportCapsuleId, signature⟩ }

abbrev ModerationReferee := Json → Json → Py RefereeResult

/-! ## The adjudication -/

/-- What stops an adjudication without an outcome. -/
inductive TwinError where
  | python (error : PyError)
  | forgedDecision (label : String)
  | unattributableReferee

def ofPy {α : Type} (x : Py α) : Except TwinError α := x.mapError .python

def verifyDecisionOrRaise (verify : Json → Bool) (label : String) (capsule : Json) :
    Except TwinError Unit :=
  if verify capsule then .ok () else .error (.forgedDecision label)

structure ModerationTwinComparison where
  agree : Bool
  decisionA : Json
  decisionB : Json

def decisionOf (capsule : Json) : Py Json := do
  (← moderationBlock capsule).item "decision"

def compareModerationDecisions (a b : Json) : Py ModerationTwinComparison := do
  let decisionA ← decisionOf a
  let decisionB ← decisionOf b
  return ⟨decisionA.pyEq decisionB, decisionA, decisionB⟩

/-- A verdict that is null is none. -/
structure ModerationAdjudicationOutcome where
  verdict : Json := .null
  noVerdictReason : Option NoVerdict := none
  decisionACapsuleId : Json
  decisionBCapsuleId : Json
  twinOwnerDistinct : Option Bool
  weightsDigest : Json := .null
  refereeCalled : Bool := false
  refereeCapsuleId : Option String := none
  refereeIdentityId : Option String := none

def weightsOf (capsule : Json) : Py Json := do
  (← (← moderationBlock capsule).getD "model_attestation" (.obj [])).get "weights_digest"

/-- `referee_owner_id is not None and referee_owner_id in (owner_a_id, owner_b_id)`. -/
def ownsTwin (ownerA ownerB : String) (refereeOwner : Option String) : Bool :=
  refereeOwner = some ownerA || refereeOwner = some ownerB

/-- The decisions disagree. -/
def refereed (a b : Json) (ownerA ownerB : String) (referee : Option ModerationReferee)
    (refereeOwner : Option String) (base : ModerationAdjudicationOutcome) :
    Except TwinError ModerationAdjudicationOutcome :=
  match referee with
  | none => .ok { base with verdict := .str VERDICT_INCONCLUSIVE }
  | some call =>
      if ownsTwin ownerA ownerB refereeOwner then
        .ok { base with noVerdictReason := some .refereeNotIndependent }
      else
        match call a b with
        | .error _ =>
          .ok { base with noVerdictReason := some .refereeUnreachable, refereeCalled := true }
        | .ok result =>
          match result.identity with
          | none => .error .unattributableReferee
          | some identity => .ok { base with
              verdict := result.verdict
              refereeCalled := true
              refereeCapsuleId := result.capsuleId
              refereeIdentityId := some identity.refereeId }

def weightsDiffer (weightsA weightsB : Json) : Bool :=
  !weightsA.isNull && !weightsB.isNull && !weightsA.pyEq weightsB

/-- The outcome so far. -/
def twinOutcome (idA idB weightsA weightsB : Json) (ownerA ownerB : String) :
    ModerationAdjudicationOutcome where
  decisionACapsuleId := idA
  decisionBCapsuleId := idB
  twinOwnerDistinct := some (decide (ownerA ≠ ownerB))
  weightsDigest := if !weightsA.isNull && weightsA.pyEq weightsB then weightsA else .null

def adjudicateModerationTwin (verify : Json → Bool) (a b : Json) (ownerA ownerB : String)
    (referee : Option ModerationReferee) (refereeOwner : Option String) :
    Except TwinError ModerationAdjudicationOutcome := do
  verifyDecisionOrRaise verify "capsule_a" a
  verifyDecisionOrRaise verify "capsule_b" b
  let idA ← ofPy (a.item "capsule_id")
  let idB ← ofPy (b.item "capsule_id")
  let weightsA ← ofPy (weightsOf a)
  let weightsB ← ofPy (weightsOf b)
  if weightsDiffer weightsA weightsB then
    return {
      noVerdictReason := some .weightsMismatch
      decisionACapsuleId := idA
      decisionBCapsuleId := idB
      twinOwnerDistinct := none }
  else
    let base := twinOutcome idA idB weightsA weightsB ownerA ownerB
    if ownerA = ownerB then
      return { base with noVerdictReason := some .sameOwnerTwin }
    else
      let comparison ← ofPy (compareModerationDecisions a b)
      if comparison.agree then return { base with verdict := .str VERDICT_CORROBORATED }
      else refereed a b ownerA ownerB referee refereeOwner base

/-! ## Where a verdict is reached -/

/-- The decisions are compared. -/
structure Compared (verify : Json → Bool) (a b : Json) (ownerA ownerB : String) (agree : Bool) :
    Prop where
  verified : verify a = true ∧ verify b = true
  ids : ∃ idA idB, a.item "capsule_id" = .ok idA ∧ b.item "capsule_id" = .ok idB
  weights : ∃ weightsA weightsB, weightsOf a = .ok weightsA ∧ weightsOf b = .ok weightsB ∧
    weightsDiffer weightsA weightsB = false
  owners : ownerA ≠ ownerB
  decisions : ∃ decisionA decisionB, decisionOf a = .ok decisionA ∧ decisionOf b = .ok decisionB ∧
    decisionA.pyEq decisionB = agree

/-- The verdict on decisions that were compared, and whether the referee gave it. -/
inductive Ruling (a b : Json) (ownerA ownerB : String) (referee : Option ModerationReferee)
    (refereeOwner : Option String) : (agree : Bool) → (verdict : Json) → (called : Bool) → Prop
  | agreed : Ruling a b ownerA ownerB referee refereeOwner true (.str VERDICT_CORROBORATED) false
  | unrefereed (hnone : referee = none) :
      Ruling a b ownerA ownerB referee refereeOwner false (.str VERDICT_INCONCLUSIVE) false
  | refereed {call : ModerationReferee} {result : RefereeResult} {identity : RefereeIdentity}
      (hcall : referee = some call) (hindependent : ownsTwin ownerA ownerB refereeOwner = false)
      (hresult : call a b = .ok result) (hidentity : result.identity = some identity) :
      Ruling a b ownerA ownerB referee refereeOwner false result.verdict true

section

variable {verify : Json → Bool} {a b : Json} {ownerA ownerB : String}
  {referee : Option ModerationReferee} {refereeOwner : Option String}

theorem ofPy_eq_ok {α : Type} {x : Py α} {value : α} : ofPy x = .ok value ↔ x = .ok value :=
  Library.Raising.mapError_eq_ok

theorem verifyDecisionOrRaise_eq_ok {label : String} {done : Unit} :
    verifyDecisionOrRaise verify label a = .ok done ↔ verify a = true := by
  rw [verifyDecisionOrRaise]
  split_ifs with h
  · exact iff_of_true rfl h
  · apply iff_of_false _ h
    intro hok
    cases hok

theorem compareModerationDecisions_eq_ok {comparison : ModerationTwinComparison} :
    compareModerationDecisions a b = .ok comparison ↔ ∃ decisionA decisionB,
      decisionOf a = .ok decisionA ∧ decisionOf b = .ok decisionB ∧
        comparison = ⟨decisionA.pyEq decisionB, decisionA, decisionB⟩ := by
  constructor
  · intro h
    obtain ⟨decisionA, hA, h⟩ := Py.bind_eq_ok.mp h
    obtain ⟨decisionB, hB, h⟩ := Py.bind_eq_ok.mp h
    exact ⟨decisionA, decisionB, hA, hB, (Except.ok.inj h).symm⟩
  · rintro ⟨decisionA, decisionB, hA, hB, rfl⟩
    exact Py.bind_eq_ok.mpr ⟨decisionA, hA, Py.bind_eq_ok.mpr ⟨decisionB, hB, rfl⟩⟩

theorem ruling_of_refereed {base outcome : ModerationAdjudicationOutcome}
    (hbase : base.verdict = .null) (hquiet : base.refereeCalled = false)
    (h : refereed a b ownerA ownerB referee refereeOwner base = .ok outcome)
    (hverdict : outcome.verdict ≠ .null) :
    Ruling a b ownerA ownerB referee refereeOwner false outcome.verdict outcome.refereeCalled := by
  cases referee with
  | none =>
      obtain rfl := Except.ok.inj h
      simp only [hquiet]
      exact .unrefereed rfl
  | some call =>
      rw [refereed] at h
      split_ifs at h with howns
      · obtain rfl := Except.ok.inj h
        exact absurd hbase hverdict
      · cases hresult : call a b with
        | error e =>
          rw [hresult] at h
          obtain rfl := Except.ok.inj h
          exact absurd hbase hverdict
        | ok result =>
          rw [hresult] at h
          cases hidentity : result.identity with
          | none =>
            simp only [hidentity] at h
            cases h
          | some identity =>
            simp only [hidentity] at h
            obtain rfl := Except.ok.inj h
            exact .refereed rfl (Bool.eq_false_iff.mpr howns) hresult hidentity

theorem refereed_of_ruling {verdict : Json} {called : Bool} (base : ModerationAdjudicationOutcome)
    (hquiet : base.refereeCalled = false)
    (h : Ruling a b ownerA ownerB referee refereeOwner false verdict called) :
    ∃ outcome, refereed a b ownerA ownerB referee refereeOwner base = .ok outcome ∧
      outcome.verdict = verdict ∧ outcome.refereeCalled = called := by
  cases h with
  | unrefereed hnone =>
      subst hnone
      exact ⟨_, rfl, rfl, hquiet⟩
  | refereed hcall hindependent hresult hidentity =>
      subst hcall
      rw [refereed, if_neg (Bool.eq_false_iff.mp hindependent), hresult]
      simp only [hidentity]
      exact ⟨_, rfl, rfl, rfl⟩

/-- A verdict is returned just when the decisions are compared and one is ruled. -/
theorem adjudicate_verdict_iff {verdict : Json} {called : Bool} (hverdict : verdict ≠ .null) :
    (∃ outcome, adjudicateModerationTwin verify a b ownerA ownerB referee refereeOwner =
        .ok outcome ∧ outcome.verdict = verdict ∧ outcome.refereeCalled = called) ↔
      ∃ agree, Compared verify a b ownerA ownerB agree ∧
        Ruling a b ownerA ownerB referee refereeOwner agree verdict called := by
  constructor
  · rintro ⟨outcome, h, rfl, rfl⟩
    obtain ⟨⟨⟩, hA, h⟩ := Library.Raising.bind_eq_ok.mp h
    obtain ⟨⟨⟩, hB, h⟩ := Library.Raising.bind_eq_ok.mp h
    obtain ⟨idA, hidA, h⟩ := Library.Raising.bind_eq_ok.mp h
    obtain ⟨idB, hidB, h⟩ := Library.Raising.bind_eq_ok.mp h
    obtain ⟨weightsA, hweightsA, h⟩ := Library.Raising.bind_eq_ok.mp h
    obtain ⟨weightsB, hweightsB, h⟩ := Library.Raising.bind_eq_ok.mp h
    split_ifs at h with hdiffer howner
    · obtain rfl := Except.ok.inj h
      exact absurd rfl hverdict
    · obtain rfl := Except.ok.inj h
      exact absurd rfl hverdict
    · obtain ⟨comparison, hcomparison, h⟩ := Library.Raising.bind_eq_ok.mp h
      obtain ⟨decisionA, decisionB, hdecisionA, hdecisionB, rfl⟩ :=
        compareModerationDecisions_eq_ok.mp (ofPy_eq_ok.mp hcomparison)
      have hcompared : Compared verify a b ownerA ownerB (decisionA.pyEq decisionB) :=
        { verified := ⟨verifyDecisionOrRaise_eq_ok.mp hA, verifyDecisionOrRaise_eq_ok.mp hB⟩
          ids := ⟨idA, idB, ofPy_eq_ok.mp hidA, ofPy_eq_ok.mp hidB⟩
          weights := ⟨weightsA, weightsB, ofPy_eq_ok.mp hweightsA, ofPy_eq_ok.mp hweightsB,
            Bool.eq_false_iff.mpr hdiffer⟩
          owners := howner
          decisions := ⟨decisionA, decisionB, hdecisionA, hdecisionB, rfl⟩ }
      refine ⟨_, hcompared, ?_⟩
      cases hagree : decisionA.pyEq decisionB with
      | true =>
        simp only [hagree, if_true] at h
        obtain rfl := Except.ok.inj h
        exact .agreed
      | false =>
        simp only [hagree, Bool.false_eq_true, if_false] at h
        exact ruling_of_refereed rfl rfl h hverdict
  · rintro ⟨agree, hcompared, hruling⟩
    obtain ⟨idA, idB, hidA, hidB⟩ := hcompared.ids
    obtain ⟨weightsA, weightsB, hweightsA, hweightsB, hsame⟩ := hcompared.weights
    obtain ⟨decisionA, decisionB, hdecisionA, hdecisionB, rfl⟩ := hcompared.decisions
    have hcomparison := compareModerationDecisions_eq_ok.mpr
      ⟨decisionA, decisionB, hdecisionA, hdecisionB, rfl⟩
    have hruled : ∃ outcome, (if decisionA.pyEq decisionB then
        .ok { twinOutcome idA idB weightsA weightsB ownerA ownerB with
          verdict := .str VERDICT_CORROBORATED }
        else refereed a b ownerA ownerB referee refereeOwner
          (twinOutcome idA idB weightsA weightsB ownerA ownerB)) = .ok outcome ∧
        outcome.verdict = verdict ∧ outcome.refereeCalled = called := by
      cases hagree : decisionA.pyEq decisionB with
      | true =>
        rw [hagree] at hruling
        cases hruling with
        | agreed => exact ⟨_, rfl, rfl, rfl⟩
      | false =>
        rw [hagree] at hruling
        exact refereed_of_ruling _ rfl hruling
    obtain ⟨outcome, houtcome, hverdict, hcalled⟩ := hruled
    refine ⟨outcome, ?_, hverdict, hcalled⟩
    apply Library.Raising.bind_eq_ok.mpr
    refine ⟨(), verifyDecisionOrRaise_eq_ok.mpr hcompared.verified.1, ?_⟩
    apply Library.Raising.bind_eq_ok.mpr
    refine ⟨(), verifyDecisionOrRaise_eq_ok.mpr hcompared.verified.2, ?_⟩
    apply Library.Raising.bind_eq_ok.mpr
    refine ⟨idA, ofPy_eq_ok.mpr hidA, ?_⟩
    apply Library.Raising.bind_eq_ok.mpr
    refine ⟨idB, ofPy_eq_ok.mpr hidB, ?_⟩
    apply Library.Raising.bind_eq_ok.mpr
    refine ⟨weightsA, ofPy_eq_ok.mpr hweightsA, ?_⟩
    apply Library.Raising.bind_eq_ok.mpr
    refine ⟨weightsB, ofPy_eq_ok.mpr hweightsB, ?_⟩
    rw [hsame, if_neg Bool.false_ne_true, if_neg hcompared.owners]
    apply Library.Raising.bind_eq_ok.mpr
    exact ⟨_, ofPy_eq_ok.mpr hcomparison, houtcome⟩

end

/-! ## What a verdict should say -/

/-- Who rules: nobody, some referee, or one that adapts a human report to each pair. -/
inductive Appointed where
  | nobody
  | referee (call : ModerationReferee)
  | reviewer (file : Json → Json → Py (List (String × Json) × Option String))

namespace Appointed

def toReferee : Appointed → Option ModerationReferee
  | nobody => none
  | referee call => some call
  | reviewer file => some fun a b => do
      let (report, reportCapsuleId) ← file a b
      refereeFromHumanReport report reportCapsuleId

/-- The report that is adapted for a pair. -/
def report? : Appointed → Json → Json → Option (List (String × Json))
  | reviewer file, a, b => (file a b).toOption.map Prod.fst
  | _, _, _ => none

end Appointed

def AboutMessage (capsule : Json) (digest : String) : Prop := decisionDigest capsule = .ok (.str digest)

/-- The report is its reviewer's, on this message. -/
structure ReportsOn (signatures : Signatures) (report : List (String × Json)) (digest : String) :
    Prop where
  signed : (verifyHumanReport signatures report).valid = true
  subject : report.lookup "subject_message_digest" = some (.str digest)

/-- Two different decisions on one message. -/
structure Twins (a b : Json) (digest : String) : Prop where
  distinct : ∀ idA idB, a.item "capsule_id" = .ok idA → b.item "capsule_id" = .ok idB →
    idA.pyEq idB = false
  about : AboutMessage a digest ∧ AboutMessage b digest

/-- A verdict is about one message, decided differently by different owners, and is corroborated or
adopted for the right reason. -/
structure SoundVerdict (verify : Json → Bool) (signatures : Signatures) (a b : Json)
    (ownerA ownerB : String) (appointed : Appointed) (outcome : ModerationAdjudicationOutcome)
    (digest : String) : Prop where
  verified : verify a = true ∧ verify b = true
  twins : Twins a b digest
  owners : ownerA ≠ ownerB
  corroborated : ∃ decisionA decisionB, decisionOf a = .ok decisionA ∧ decisionOf b = .ok decisionB ∧
    (outcome.verdict = .str VERDICT_CORROBORATED → decisionA.pyEq decisionB = true)
  adopted : outcome.refereeCalled = true → ∀ report, appointed.report? a b = some report →
    ReportsOn signatures report digest

/-- Some verdict is reached. -/
def Ruled (verify : Json → Bool) (a b : Json) (ownerA ownerB : String) (appointed : Appointed)
    (refereeOwner : Option String) : Prop :=
  ∃ agree verdict called, verdict ≠ .null ∧ Compared verify a b ownerA ownerB agree ∧
    Ruling a b ownerA ownerB appointed.toReferee refereeOwner agree verdict called

/-- Two decisions on one message; where they disagree, the referee does not call them corroborated,
and a report is its reviewer's, on the message. -/
structure RightlyRuled (signatures : Signatures) (a b : Json) (appointed : Appointed)
    (digest : String) : Prop where
  twins : Twins a b digest
  disputed : ∀ decisionA decisionB, decisionOf a = .ok decisionA → decisionOf b = .ok decisionB →
    decisionA.pyEq decisionB = false → ∀ call, appointed.toReferee = some call →
      ∀ result, call a b = .ok result → result.verdict ≠ .str VERDICT_CORROBORATED ∧
        ∀ report, appointed.report? a b = some report → ReportsOn signatures report digest

section

variable {verify : Json → Bool} {signatures : Signatures} {a b : Json} {ownerA ownerB : String}
  {appointed : Appointed} {refereeOwner : Option String} {digest : String} {agree called : Bool}
  {verdict decisionA decisionB : Json}

/-- What is ruled rightly is corroborated or adopted for the right reason. -/
theorem RightlyRuled.ruling (h : RightlyRuled signatures a b appointed digest)
    (hA : decisionOf a = .ok decisionA) (hB : decisionOf b = .ok decisionB)
    (hruling : Ruling a b ownerA ownerB appointed.toReferee refereeOwner
      (decisionA.pyEq decisionB) verdict called) :
    (verdict = .str VERDICT_CORROBORATED → decisionA.pyEq decisionB = true) ∧
      (called = true → ∀ report, appointed.report? a b = some report →
        ReportsOn signatures report digest) := by
  generalize hagree : decisionA.pyEq decisionB = agree at hruling
  cases hruling with
  | agreed =>
      refine ⟨fun _ => rfl, ?_⟩
      intro hcalled
      cases hcalled
  | unrefereed hnone =>
      constructor
      · intro hverdict
        exact absurd (Json.str.inj hverdict) (by decide)
      · intro hcalled
        cases hcalled
  | refereed hcall hindependent hresult hidentity =>
      obtain ⟨hnot, hreports⟩ := h.disputed decisionA decisionB hA hB hagree _ hcall _ hresult
      constructor
      · intro hverdict
        exact absurd hverdict hnot
      · intro _
        exact hreports

/-- The referee's result is what was ruled, where the decisions disagree. -/
theorem Ruling.of_disagree {call : ModerationReferee} {result : RefereeResult}
    (hruling : Ruling a b ownerA ownerB (some call) refereeOwner false verdict called)
    (hresult : call a b = .ok result) : verdict = result.verdict ∧ called = true := by
  generalize hreferee : some call = referee at hruling
  cases hruling with
  | unrefereed hnone =>
      rw [hnone] at hreferee
      cases hreferee
  | refereed hcall hindependent hother hidentity =>
      obtain rfl := Option.some.inj (hreferee.trans hcall)
      obtain rfl := Except.ok.inj (hresult.symm.trans hother)
      exact ⟨rfl, rfl⟩

end

/-- Every verdict is sound just when, where a verdict is reached, the decisions are two on one message
and the referee rules rightly. -/
theorem verdicts_sound_iff (verify : Json → Bool) (signatures : Signatures) (a b : Json)
    (ownerA ownerB : String) (appointed : Appointed) (refereeOwner : Option String) :
    (∀ outcome, adjudicateModerationTwin verify a b ownerA ownerB appointed.toReferee refereeOwner =
        .ok outcome → outcome.verdict ≠ .null →
      ∃ digest, SoundVerdict verify signatures a b ownerA ownerB appointed outcome digest) ↔
      (Ruled verify a b ownerA ownerB appointed refereeOwner →
        ∃ digest, RightlyRuled signatures a b appointed digest) := by
  constructor
  · rintro h ⟨agree, verdict, called, hverdict, hcompared, hruling⟩
    obtain ⟨outcome, houtcome, rfl, rfl⟩ :=
      (adjudicate_verdict_iff hverdict).mpr ⟨agree, hcompared, hruling⟩
    obtain ⟨digest, hsound⟩ := h outcome houtcome hverdict
    refine ⟨digest, hsound.twins, ?_⟩
    intro decisionA decisionB hA hB hdisagree call hcall result hresult
    obtain ⟨otherA, otherB, hotherA, hotherB, hagree⟩ := hcompared.decisions
    obtain rfl := Except.ok.inj (hA.symm.trans hotherA)
    obtain rfl := Except.ok.inj (hB.symm.trans hotherB)
    obtain ⟨otherA, otherB, hotherA, hotherB, hcorroborated⟩ := hsound.corroborated
    obtain rfl := Except.ok.inj (hA.symm.trans hotherA)
    obtain rfl := Except.ok.inj (hB.symm.trans hotherB)
    rw [hcall, ← hagree, hdisagree] at hruling
    obtain ⟨hresulted, hcalled⟩ := hruling.of_disagree hresult
    refine ⟨?_, hsound.adopted hcalled⟩
    intro hcorrob
    rw [hcorroborated (hresulted.trans hcorrob)] at hdisagree
    cases hdisagree
  · intro h outcome houtcome hverdict
    obtain ⟨agree, hcompared, hruling⟩ :=
      (adjudicate_verdict_iff hverdict).mp ⟨outcome, houtcome, rfl, rfl⟩
    obtain ⟨digest, hright⟩ := h ⟨agree, _, _, hverdict, hcompared, hruling⟩
    obtain ⟨decisionA, decisionB, hA, hB, rfl⟩ := hcompared.decisions
    obtain ⟨hcorroborated, hadopted⟩ := hright.ruling hA hB hruling
    exact ⟨digest, hcompared.verified, hright.twins, hcompared.owners,
      ⟨decisionA, decisionB, hA, hB, hcorroborated⟩, hadopted⟩

/-! ## A report on another message -/

def decidedOn (digest decision id : String) : Json :=
  .obj
    [("capsule_id", .str id),
     ("model_attestation", .obj
       [("compute_attestation", .obj
         [(MODERATION_SUBJECT_KEY, .obj
           [("subject_ref", .obj [("message_digest", .str digest)]), ("decision", .str decision)])])])]

/-- Nobody signed it, and it is about a third message. -/
def forgedReport : List (String × Json) :=
  [("reviewer_id", .str "r"), ("reviewer_public_key", .str "k"), ("subject_message_digest", .str "m3"),
    ("verdict", .str VERDICT_CORROBORATED), ("signature", .str "")]

/-- Opposite decisions on two messages are corroborated by the report, and one decision corroborates
itself. -/
theorem forged_report_corroborates :
    (∃ outcome, adjudicateModerationTwin (fun _ => true) (decidedOn "m1" "allow" "1")
        (decidedOn "m2" "remove" "2") "ann" "bob"
        (Appointed.reviewer fun _ _ => .ok (forgedReport, none)).toReferee none = .ok outcome ∧
      outcome.verdict = .str VERDICT_CORROBORATED) ∧
    (verifyHumanReport plainSignatures forgedReport).valid = false ∧
    (∀ digest, ¬Twins (decidedOn "m1" "allow" "1") (decidedOn "m2" "remove" "2") digest) ∧
    (∃ outcome, adjudicateModerationTwin (fun _ => true) (decidedOn "m1" "allow" "1")
        (decidedOn "m1" "allow" "1") "ann" "bob" none none = .ok outcome ∧
      outcome.verdict = .str VERDICT_CORROBORATED) ∧
    ∀ digest, ¬Twins (decidedOn "m1" "allow" "1") (decidedOn "m1" "allow" "1") digest := by
  refine ⟨⟨_, rfl, rfl⟩, by decide +kernel, ?_, ⟨_, rfl, rfl⟩, ?_⟩
  · rintro digest ⟨-, hA, hB⟩
    have hdigest : "m1" = digest := Json.str.inj (Except.ok.inj hA)
    have hother : "m2" = digest := Json.str.inj (Except.ok.inj hB)
    exact absurd (hdigest.trans hother.symm) (by decide)
  · rintro digest ⟨hdistinct, -⟩
    have hsame : (Json.str "1").pyEq (.str "1") = false := hdistinct _ _ rfl rfl
    exact absurd hsame (by decide)

end CapsuleMesh.Moderation
