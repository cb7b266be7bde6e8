import CapsuleMesh.Delegation.RoundTrip
import CapsuleMesh.Lifecycle.Record

/-!
# From the emitter to the verifier

What `verify_record_bytes` says of the bytes of a record that `emit_lifecycle_record` returned.
The fields come back, and the rung follows from the evidence.  The one exception is a binding
whose revocation cannot be looked up.
-/

namespace CapsuleMesh.Lifecycle

open Python Delegation

namespace Reading

@[simp] theorem ofPy_ok {α : Type} (a : α) : Reading.ofPy (.ok a) = .ok a := rfl

@[simp] theorem ofPy_error {α : Type} (e : PyError) :
    (Reading.ofPy (.error e) : Reading α) = .error (.python e) := rfl

@[simp] theorem ok_bind {α β : Type} (a : α) (f : α → Reading β) :
    (.ok a : Reading α) >>= f = f a := rfl

@[simp] theorem error_bind {α β : Type} (e : RecordError) (f : α → Reading β) :
    (.error e : Reading α) >>= f = .error e := rfl

@[simp] theorem pure_eq_ok {α : Type} (a : α) : (pure a : Reading α) = .ok a := rfl

end Reading

theorem getD_sorted (members : List (String × Json)) (key : String) (default : Json) :
    (Json.obj (Json.sorted members)).getD key default =
      .ok (((members.lookup key).map Json.sortKeys).getD default) := by
  rw [Json.getD_obj, Json.lookup_sorted]

@[simp] theorem countOrNone_ofInt? (count : Option Int) : countOrNone (.ofInt? count) = .ok count := by
  cases count <;> rfl

/-! ## The record -/

namespace LifecycleArgs

variable (args : LifecycleArgs)

/-- A call with nothing extra, a state and a point that are known, and an honest transcript. -/
structure Known : Prop where
  extra : args.extra = []
  terminalState : args.terminalState ∈ TERMINAL_STATES
  observationPoint : ∀ point, args.observationPoint = some point → point ∈ OBSERVATION_POINTS
  exchangeId : args.exchangeId ≠ ""
  transcript : ∃ eventCount expectedCount,
    args.transcript = makeTranscriptSummary eventCount expectedCount none

/-- The requester's commitment holds for this record. -/
def Committed (crypto : Crypto) : Prop :=
  ∃ commitment, args.requesterCommitment = some commitment ∧
    CommitmentHolds crypto commitment args.reqDigest args.exchangeId

/-- The commitment holds, and the record has a current binding of its key. -/
def BoundBy (checks : Checks) (now : Int) (binding : List (String × Json)) : Prop :=
  ∃ commitment keyHex, args.requesterCommitment = some commitment ∧
    CommitmentHolds checks.crypto commitment args.reqDigest args.exchangeId ∧
    commitment.lookup "public_key" = some (.str keyHex) ∧
    args.requesterIdentityBinding = some binding ∧ BindingCurrent checks binding keyHex now

end LifecycleArgs

section

variable {emit : Emit} {state : RecordNodeState} {uuid : String} {args : LifecycleArgs}
  {capsule : Json}

theorem emit_of_emitLifecycleRecord {state' : RecordNodeState}
    (h : emitLifecycleRecord emit state uuid args = .ok (capsule, state')) :
    emit (args.emitArgs state uuid) = .ok capsule := by
  have htail : (do
      let capsule ← emit (args.emitArgs state uuid)
      let capsuleId ← capsule.item "capsule_id"
      return (capsule, { state with lastCapsuleId := capsuleId.str? })) = .ok (capsule, state') →
      emit (args.emitArgs state uuid) = .ok capsule := by
    intro hx
    obtain ⟨emitted, hemit, hx⟩ := Py.bind_eq_ok.mp hx
    obtain ⟨capsuleId, -, hx⟩ := Py.bind_eq_ok.mp hx
    obtain ⟨rfl, -⟩ := Prod.mk.inj (Except.ok.inj hx)
    exact hemit
  unfold emitLifecycleRecord at h
  split_ifs at h
  · split at h
    · split_ifs at h
      · cases h
      · exact htail h
    · exact htail h
  · exact htail h

theorem computeAttestationOf_sortKeys (hcontract : EmitContract emit) {emitArgs : EmitArgs}
    {members : List (String × Json)} (hmembers : emitArgs.computeAttestation = .obj members)
    (hemit : emit emitArgs = .ok capsule) :
    computeAttestationOf capsule.sortKeys = .ok (.obj (Json.sorted members)) := by
  obtain ⟨fields, rfl, attestation, hattestation, hcompute⟩ := hcontract.compute hemit
  rw [computeAttestationOf, Json.sortKeys_obj, get_sorted, hattestation]
  simp only [Py.ok_bind, Option.getD_some, Json.sortKeys_obj, Json.obj_or_empty, get_sorted, hcompute,
    hmembers]
  rfl

theorem extractLifecycleBlock_sortKeys (hcontract : EmitContract emit) (hextra : args.extra = [])
    (hemit : emit (args.emitArgs state uuid) = .ok capsule) :
    extractLifecycleBlock capsule.sortKeys = .ok (.obj (Json.sorted args.meshBlock)) := by
  have hmembers : (args.emitArgs state uuid).computeAttestation = args.computeAttestation := rfl
  rw [LifecycleArgs.computeAttestation, hextra, List.foldl_nil] at hmembers
  rw [extractLifecycleBlock, computeAttestationOf_sortKeys hcontract hmembers hemit]
  simp only [Reading.ofPy_ok, Reading.ok_bind, get_sorted]
  rfl

/-- An honest transcript that is complete is not short. -/
theorem not_short_of_complete (hknown : args.Known) {expected : Int}
    (hexpected : args.transcript.expectedCount = some expected)
    (hcomplete : args.transcript.complete = true) : ¬args.transcript.eventCount < expected := by
  obtain ⟨eventCount, expectedCount, htranscript⟩ := hknown.transcript
  rw [htranscript] at hexpected hcomplete ⊢
  simp only [makeTranscriptSummary] at hexpected hcomplete ⊢
  rw [hexpected, Option.any_some, decide_eq_true_eq] at hcomplete
  exact not_lt.mpr hcomplete

theorem complete_iff (hknown : args.Known) :
    args.transcript.complete = true ↔ ∃ expected, args.transcript.expectedCount = some expected ∧
      expected ≤ args.transcript.eventCount := by
  obtain ⟨eventCount, expectedCount, htranscript⟩ := hknown.transcript
  rw [htranscript]
  simp [makeTranscriptSummary, Option.any_eq_true]

theorem verifyTranscript_sorted (hknown : args.Known) :
    verifyTranscript (.obj (Json.sorted args.meshBlock)) = .ok args.transcript.complete := by
  have hblock : args.meshBlock.lookup "transcript" = some (.obj args.transcript.members) := rfl
  have hevent : args.transcript.members.lookup "event_count" =
    some (.int args.transcript.eventCount) := rfl
  have hexpected : args.transcript.members.lookup "expected_count" =
    some (.ofInt? args.transcript.expectedCount) := rfl
  have hcomplete : args.transcript.members.lookup "complete" =
    some (.bool args.transcript.complete) := rfl
  rw [verifyTranscript, get_sorted, hblock]
  simp only [Reading.ofPy_ok, Reading.ok_bind, Option.getD_some, Json.sortKeys_obj,
    Json.obj_or_empty, getD_sorted, get_sorted, hevent, hexpected, hcomplete, Option.map_some,
    Json.sortKeys_bool, Json.sortKeys_int, Json.sortKeys_ofInt?, Json.toInt_int, Json.truthy]
  cases hdone : args.transcript.complete with
  | false => rfl
  | true =>
      cases hcount : args.transcript.expectedCount with
      | none => rfl
      | some expected =>
        have hshort := not_short_of_complete hknown hcount hdone
        simp [Json.ofInt?, Json.isNull, hshort]

theorem terminalState_known (hknown : args.Known) (options : VerifyOptions) :
    options.terminalState (.str args.terminalState) = .ok (.str args.terminalState) := by
  have hstate := hknown.terminalState
  unfold VerifyOptions.terminalState
  split_ifs
  · simp [checkTerminalState, isKnown, Json.isNull, hstate]
  · have hne : args.terminalState ≠ "" := by
      intro hempty
      rw [hempty] at hstate
      revert hstate
      decide
    simp [Json.or, hne]

theorem observationPoint_known (hknown : args.Known) (options : VerifyOptions) :
    options.observationPoint (.ofStr? args.observationPoint) =
      .ok (.ofStr? args.observationPoint) := by
  unfold VerifyOptions.observationPoint
  split_ifs
  · cases hpoint : args.observationPoint with
    | none => rfl
    | some point =>
        have hmem := hknown.observationPoint point hpoint
        simp [checkObservationPoint, isKnown, Json.isNull, Json.ofStr?, hmem]
  · rfl

theorem checkExchangeId_known (hknown : args.Known) :
    checkExchangeId (.str args.exchangeId) = .ok (.str args.exchangeId) := by
  simp [checkExchangeId, hknown.exchangeId]

/-- The provenance check reads two texts, and returns. -/
theorem findings_ofStr (options : VerifyOptions) (point : Option String) (peer : String) :
    ∃ findings, options.findings (.ofStr? point) (.str peer) = .ok findings := by
  unfold VerifyOptions.findings
  split_ifs
  · cases point with
    | none => exact ⟨[], rfl⟩
    | some point =>
        have hpoint : Json.ofStr? (some point) = .str point := rfl
        rw [hpoint, checkVantagePointProvenance, Json.key_str, Py.ok_bind]
        split_ifs
        · exact ⟨[], rfl⟩
        · exact ⟨_, rfl⟩
        · exact ⟨[], rfl⟩
  · exact ⟨[], rfl⟩

/-! ## The rung -/

/-- The rung by the evidence of a record, or the error that takes its place. -/
structure RungOutcome (args : LifecycleArgs) (checks : Checks) (now : Int)
    (revokedCertIds : List String) (outcome : Py CrossPartyRungResult) : Prop where
  unilateral : ¬args.Committed checks.crypto →
    ∃ result, outcome = .ok result ∧ result.rung = .unilateralFallback
  acknowledged : args.Committed checks.crypto → (∀ binding, ¬args.BoundBy checks now binding) →
    ∃ result, outcome = .ok result ∧ result.rung = .acknowledgedReceipt
  unhashable : ∀ {binding e}, args.BoundBy checks now binding →
    (certIdOf binding).key = .error e → outcome = .error e
  hashable : ∀ {binding key}, args.BoundBy checks now binding →
    (certIdOf binding).key = .ok key → ∃ result, outcome = .ok result ∧
      result.rung = if listed (certIdOf binding) revokedCertIds then .acknowledgedReceipt
        else .fullBilateral

theorem sortKeys_ofDict? (members : List (String × Json)) :
    (ofDict? (some members)).sortKeys = .obj (Json.sorted members) := Json.sortKeys_obj members

/-- What the check of the binding comes to, where the commitment holds. -/
theorem bindingOutcome_of_committed (checks : Checks) (now : Int) (revokedCertIds : List String)
    {commitment : List (String × Json)} {keyHex : String}
    (hcommitment : args.requesterCommitment = some commitment)
    (hholds : CommitmentHolds checks.crypto commitment args.reqDigest args.exchangeId)
    (hkey : commitment.lookup "public_key" = some (.str keyHex)) :
    let outcome := verifyRequesterIdentityBinding checks
      (ofDict? args.requesterIdentityBinding).sortKeys (.str keyHex) now revokedCertIds
    (∀ binding, args.BoundBy checks now binding → BindingOutcome True (certIdOf binding)
      revokedCertIds outcome) ∧
    ((∀ binding, ¬args.BoundBy checks now binding) →
      ∃ verdict, outcome = .ok verdict ∧ verdict.valid = false) := by
  intro outcome
  cases hbinding : args.requesterIdentityBinding with
  | none =>
      constructor
      · rintro binding ⟨_, _, -, -, -, hsome, -⟩
        rw [hbinding] at hsome
        cases hsome
      · intro _
        simp only [outcome, hbinding, ofDict?, Json.sortKeys_null]
        exact ⟨_, rfl, rfl⟩
  | some found =>
      have hsorted := verifyRequesterIdentityBinding_sorted checks found now revokedCertIds keyHex
      have houtcome : outcome = verifyRequesterIdentityBinding checks (.obj (Json.sorted found))
          (.str keyHex) now revokedCertIds := by
        simp only [outcome, hbinding, sortKeys_ofDict?]
      rw [← houtcome] at hsorted
      constructor
      · rintro binding ⟨commitment', keyHex', hcommitment', -, hkey', hsome, hcurrent⟩
        obtain rfl := Option.some.inj (hcommitment.symm.trans hcommitment')
        obtain rfl := Option.some.inj (hbinding.symm.trans hsome)
        obtain rfl := Json.str.inj (Option.some.inj (hkey.symm.trans hkey'))
        exact hsorted.congr (iff_true_intro hcurrent)
      · intro hnone
        apply hsorted.otherwise
        intro hcurrent
        exact hnone found ⟨commitment, keyHex, hcommitment, hholds, hkey, hbinding, hcurrent⟩

theorem deriveCrossPartyRung_sorted (args : LifecycleArgs) (checks : Checks) (now : Int)
    (revokedCertIds : List String) :
    RungOutcome args checks now revokedCertIds
      (deriveCrossPartyRung checks (ofDict? args.requesterCommitment).sortKeys (.str args.reqDigest)
        (.str args.exchangeId) (ofDict? args.requesterIdentityBinding).sortKeys now
        revokedCertIds) := by
  have hboth : ∀ {binding}, args.BoundBy checks now binding → args.Committed checks.crypto :=
    fun ⟨commitment, _, hcommitment, hholds, _⟩ => ⟨commitment, hcommitment, hholds⟩
  cases hcommitment : args.requesterCommitment with
  | none =>
      have hnot : ¬args.Committed checks.crypto := by
        rintro ⟨commitment, hsome, -⟩
        rw [hcommitment] at hsome
        cases hsome
      refine ⟨fun _ => ⟨_, rfl, rfl⟩, fun h => absurd h hnot, fun h => absurd (hboth h) hnot,
        fun h => absurd (hboth h) hnot⟩
  | some commitment =>
      obtain ⟨checked, hchecked, hvalid⟩ := verifyRequesterCommitment_sorted checks.crypto commitment
        args.reqDigest args.exchangeId
      have hcommitted : args.Committed checks.crypto ↔ checked.1 = true := by
        rw [hvalid]
        constructor
        · rintro ⟨commitment', hsome, hholds⟩
          obtain rfl := Option.some.inj (hcommitment.symm.trans hsome)
          exact hholds
        · exact fun hholds => ⟨commitment, hcommitment, hholds⟩
      rw [deriveCrossPartyRung, sortKeys_ofDict?, hchecked]
      simp only [Py.ok_bind, Json.obj_or_empty]
      cases hresult : checked.1 with
      | false =>
        have hnot : ¬args.Committed checks.crypto := by simp [hcommitted, hresult]
        exact ⟨fun _ => ⟨_, rfl, rfl⟩, fun h => absurd h hnot, fun h => absurd (hboth h) hnot,
          fun h => absurd (hboth h) hnot⟩
      | true =>
        have hholds := hvalid.mp hresult
        obtain ⟨keyHex, -, -, -, hkey, -⟩ := hholds.signed
        obtain ⟨hbound, hunbound⟩ := bindingOutcome_of_committed checks now revokedCertIds
          hcommitment hholds hkey
        simp only [Bool.not_true, Bool.false_eq_true, if_false, getD_sorted, hkey,
          Option.map_some, Option.getD_some, Json.sortKeys_str, Py.ok_bind]
        refine ⟨fun h => absurd (hcommitted.mpr hresult) h, fun _ h => ?_, fun h hkey' => ?_,
          fun h hkey' => ?_⟩
        · obtain ⟨verdict, hverdict, hinvalid⟩ := hunbound h
          rw [hverdict]
          exact ⟨_, rfl, by simp [hinvalid]⟩
        · rw [(hbound _ h).unhashable trivial _ hkey']
          rfl
        · obtain ⟨verdict, hverdict, hlisted⟩ := (hbound _ h).hashable trivial _ hkey'
          rw [hverdict]
          refine ⟨_, rfl, ?_⟩
          cases hrevoked : listed (certIdOf _) revokedCertIds with
          | false => simp [hlisted.mpr hrevoked]
          | true =>
            have hinvalid : verdict.valid = false := by
              rw [← Bool.not_eq_true, hlisted, hrevoked]
              simp
            simp [hinvalid]

/-! ## The verdict -/

/-- The verdict on a record, but for its rung and its findings. -/
def verdictOf (args : LifecycleArgs) (findings : List String) (result : CrossPartyRungResult) :
    LifecycleVerdict where
  terminalState := .str args.terminalState
  terminalReason := .ofStr? args.terminalReason
  observationPoint := .ofStr? args.observationPoint
  exchangeId := .str args.exchangeId
  hopId := .str args.hopId
  attempt := args.attempt
  localPeerId := .str args.localPeerId
  transcriptEventCount := args.transcript.eventCount
  transcriptExpectedCount := args.transcript.expectedCount
  transcriptComplete := args.transcript.complete
  requesterCommitmentPresent := !(ofDict? args.requesterCommitment).sortKeys.isNull
  rungResult := result
  findings := findings

/-- The fields of the block, as they come back. -/
theorem get_meshBlock (args : LifecycleArgs) {key : String} {v : Json}
    (h : args.meshBlock.lookup key = some v) :
    (Json.obj (Json.sorted args.meshBlock)).get key = .ok v.sortKeys := by
  rw [get_sorted, h, Option.getD_some]

theorem getD_meshBlock (args : LifecycleArgs) {key : String} {v : Json} (default : Json)
    (h : args.meshBlock.lookup key = some v) :
    (Json.obj (Json.sorted args.meshBlock)).getD key default = .ok v.sortKeys := by
  rw [getD_sorted, h, Option.map_some, Option.getD_some]

theorem verifyRecord_sortKeys (checks : Checks) (options : VerifyOptions)
    (hcontract : EmitContract emit) (hknown : args.Known)
    (hemit : emit (args.emitArgs state uuid) = .ok capsule) :
    ∃ findings, verifyRecord checks options capsule.sortKeys =
      Reading.ofPy (deriveCrossPartyRung checks (ofDict? args.requesterCommitment).sortKeys
        (.str args.reqDigest) (.str args.exchangeId)
        (ofDict? args.requesterIdentityBinding).sortKeys options.now
        options.revokedIdentityCertIds) >>= fun result => .ok (verdictOf args findings result) := by
  obtain ⟨findings, hfindings⟩ := findings_ofStr options args.observationPoint args.localPeerId
  have hdigest : ∀ block, List.lookup "agent_input_digest"
      [("agent_input_digest", Json.str args.reqDigest), ("agent_output_digest", .str args.respDigest),
       ("runtime", .str "mesh-record-side-test:0000000000000000"), ("x-mesh-lifecycle-v1", block)] =
      some (.str args.reqDigest) := fun _ => rfl
  have hevent : args.transcript.members.lookup "event_count" =
    some (.int args.transcript.eventCount) := rfl
  have hexpected : args.transcript.members.lookup "expected_count" =
    some (.ofInt? args.transcript.expectedCount) := rfl
  refine ⟨findings, ?_⟩
  unfold verifyRecord
  rw [extractLifecycleBlock_sortKeys hcontract hknown.extra hemit, Reading.ok_bind,
    computeAttestationOf_sortKeys hcontract rfl hemit, Reading.ofPy_ok, Reading.ok_bind,
    get_meshBlock args rfl, Json.sortKeys_str, Reading.ofPy_ok, Reading.ok_bind,
    terminalState_known hknown, Reading.ok_bind,
    get_meshBlock args rfl, Json.sortKeys_ofStr?, Reading.ofPy_ok, Reading.ok_bind,
    observationPoint_known hknown, Reading.ok_bind,
    get_meshBlock args rfl, Json.sortKeys_str, Reading.ofPy_ok, Reading.ok_bind,
    checkExchangeId_known hknown, Reading.ok_bind,
    getD_meshBlock args _ rfl, Json.sortKeys_str, Reading.ofPy_ok, Reading.ok_bind,
    getD_meshBlock args _ rfl, Json.sortKeys_int, Reading.ofPy_ok, Reading.ok_bind,
    Json.toInt_int, Reading.ofPy_ok, Reading.ok_bind,
    getD_meshBlock args _ rfl, Json.sortKeys_str, Reading.ofPy_ok, Reading.ok_bind,
    get_meshBlock args rfl, Json.sortKeys_obj, Reading.ofPy_ok, Reading.ok_bind,
    Json.obj_or_empty]
  dsimp only
  rw [getD_sorted, hevent, Option.map_some, Option.getD_some, Json.sortKeys_int,
    Reading.ofPy_ok, Reading.ok_bind, Json.toInt_int, Reading.ofPy_ok, Reading.ok_bind,
    get_sorted, hexpected, Option.getD_some, Json.sortKeys_ofInt?, Reading.ofPy_ok, Reading.ok_bind,
    countOrNone_ofInt?, Reading.ofPy_ok, Reading.ok_bind,
    verifyTranscript_sorted hknown, Reading.ok_bind,
    get_meshBlock args rfl, Reading.ofPy_ok, Reading.ok_bind,
    get_meshBlock args rfl, Reading.ofPy_ok, Reading.ok_bind,
    getD_sorted, hdigest, Option.map_some, Option.getD_some, Json.sortKeys_str, Reading.ofPy_ok,
    Reading.ok_bind, hfindings, get_meshBlock args rfl, Json.sortKeys_ofStr?]
  rfl

/-- A current binding of the commitment's key that is not revoked. -/
def Bilateral (args : LifecycleArgs) (checks : Checks) (options : VerifyOptions) : Prop :=
  ∃ binding, args.BoundBy checks options.now binding ∧
    listed (certIdOf binding) options.revokedIdentityCertIds = false

/-- What a verdict has to say of a record. -/
structure ReadsBack (args : LifecycleArgs) (checks : Checks) (options : VerifyOptions)
    (verdict : LifecycleVerdict) : Prop where
  terminalState : verdict.terminalState = .str args.terminalState
  terminalReason : verdict.terminalReason = .ofStr? args.terminalReason
  observationPoint : verdict.observationPoint = .ofStr? args.observationPoint
  exchangeId : verdict.exchangeId = .str args.exchangeId
  hopId : verdict.hopId = .str args.hopId
  attempt : verdict.attempt = args.attempt
  localPeerId : verdict.localPeerId = .str args.localPeerId
  eventCount : verdict.transcriptEventCount = args.transcript.eventCount
  expectedCount : verdict.transcriptExpectedCount = args.transcript.expectedCount
  complete : verdict.transcriptComplete = true ↔
    ∃ expected, args.transcript.expectedCount = some expected ∧
      expected ≤ args.transcript.eventCount
  fullBilateral : verdict.crossPartyRung = .fullBilateral ↔ Bilateral args checks options
  acknowledgedReceipt : verdict.crossPartyRung = .acknowledgedReceipt ↔
    args.Committed checks.crypto ∧ ¬Bilateral args checks options
  unilateralFallback : verdict.crossPartyRung = .unilateralFallback ↔ ¬args.Committed checks.crypto

theorem committed_of_boundBy {checks : Checks} {now : Int} {binding : List (String × Json)}
    (h : args.BoundBy checks now binding) : args.Committed checks.crypto := by
  obtain ⟨commitment, _, hcommitment, hholds, -⟩ := h
  exact ⟨commitment, hcommitment, hholds⟩

theorem boundBy_unique {checks : Checks} {now : Int} {binding binding' : List (String × Json)}
    (h : args.BoundBy checks now binding) (h' : args.BoundBy checks now binding') :
    binding = binding' := by
  obtain ⟨_, _, -, -, -, hsome, -⟩ := h
  obtain ⟨_, _, -, -, -, hsome', -⟩ := h'
  exact Option.some.inj (hsome.symm.trans hsome')

/-- The rung of a result, by the evidence. -/
theorem RungOutcome.rung_cases {checks : Checks} {options : VerifyOptions}
    {outcome : Py CrossPartyRungResult} {result : CrossPartyRungResult}
    (houtcome : RungOutcome args checks options.now options.revokedIdentityCertIds outcome)
    (hresult : outcome = .ok result) :
    (¬args.Committed checks.crypto ∧ ¬Bilateral args checks options ∧
      result.rung = .unilateralFallback) ∨
    (args.Committed checks.crypto ∧ ¬Bilateral args checks options ∧
      result.rung = .acknowledgedReceipt) ∨
    (args.Committed checks.crypto ∧ Bilateral args checks options ∧
      result.rung = .fullBilateral) := by
  have hrung : ∀ {rung}, (∃ r, outcome = .ok r ∧ r.rung = rung) → result.rung = rung := by
    rintro rung ⟨r, hr, rfl⟩
    rw [Except.ok.inj (hresult.symm.trans hr)]
  by_cases hcommitted : args.Committed checks.crypto
  · by_cases hbound : ∃ binding, args.BoundBy checks options.now binding
    · obtain ⟨binding, hbinding⟩ := hbound
      cases hkey : (certIdOf binding).key with
      | error e =>
        have herror := houtcome.unhashable hbinding hkey
        rw [hresult] at herror
        cases herror
      | ok key =>
        have hlisted := hrung (houtcome.hashable hbinding hkey)
        cases hrevoked : listed (certIdOf binding) options.revokedIdentityCertIds with
        | false =>
          refine .inr (.inr ⟨hcommitted, ⟨binding, hbinding, hrevoked⟩, ?_⟩)
          simpa [hrevoked] using hlisted
        | true =>
          refine .inr (.inl ⟨hcommitted, ?_, by simpa [hrevoked] using hlisted⟩)
          rintro ⟨binding', hbinding', hrevoked'⟩
          rw [boundBy_unique hbinding' hbinding, hrevoked] at hrevoked'
          cases hrevoked'
    · have hnone := not_exists.mp hbound
      exact .inr (.inl ⟨hcommitted, fun ⟨binding, hbinding, _⟩ => hnone binding hbinding,
        hrung (houtcome.acknowledged hcommitted hnone)⟩)
  · exact .inl ⟨hcommitted, fun ⟨_, hbinding, _⟩ => hcommitted (committed_of_boundBy hbinding),
      hrung (houtcome.unilateral hcommitted)⟩

theorem readsBack_verdictOf {checks : Checks} {options : VerifyOptions} (hknown : args.Known)
    {outcome : Py CrossPartyRungResult} {result : CrossPartyRungResult} (findings : List String)
    (houtcome : RungOutcome args checks options.now options.revokedIdentityCertIds outcome)
    (hresult : outcome = .ok result) :
    ReadsBack args checks options (verdictOf args findings result) := by
  have hrung : (verdictOf args findings result).crossPartyRung = result.rung := rfl
  obtain ⟨hc, hb, hr⟩ | ⟨hc, hb, hr⟩ | ⟨hc, hb, hr⟩ := houtcome.rung_cases hresult
  all_goals exact
    { terminalState := rfl
      terminalReason := rfl
      observationPoint := rfl
      exchangeId := rfl
      hopId := rfl
      attempt := rfl
      localPeerId := rfl
      eventCount := rfl
      expectedCount := rfl
      complete := complete_iff hknown
      fullBilateral := by simp [hrung, hr, hb]
      acknowledgedReceipt := by simp [hrung, hr, hb, hc]
      unilateralFallback := by simp [hrung, hr, hc] }

/-- A set can look up the id of the binding. -/
def RevocationReadable (args : LifecycleArgs) (checks : Checks) (options : VerifyOptions) : Prop :=
  ∀ binding, args.BoundBy checks options.now binding → ∃ key, (certIdOf binding).key = .ok key

theorem verifyRecordBytes_capsuleToBytes {checks : Checks} (options : VerifyOptions)
    (hproper : capsule.Proper checks.floatRepr) :
    verifyRecordBytes checks options (capsuleToBytes capsule) =
      verifyRecord checks options capsule.sortKeys := by
  rw [verifyRecordBytes, capsuleToBytes, jcs, decodeUtf8_utf8, Reading.ofPy_ok, Reading.ok_bind,
    loads_canonical hproper, Reading.ofPy_ok, Reading.ok_bind]

/-- A record reads back as the call that emitted it, unless its evidence is in order and the
binding has a list or a dictionary as its `cert_id`: then the verifier raises. -/
theorem record_reads_back_iff {checks : Checks} {options : VerifyOptions}
    {state' : RecordNodeState} (hcontract : EmitContract emit) (hknown : args.Known)
    (hemit : emitLifecycleRecord emit state uuid args = .ok (capsule, state'))
    (hproper : capsule.Proper checks.floatRepr) :
    (∃ verdict, verifyRecordBytes checks options (capsuleToBytes capsule) = .ok verdict ∧
      ReadsBack args checks options verdict) ↔ RevocationReadable args checks options := by
  obtain ⟨findings, hverify⟩ := verifyRecord_sortKeys checks options hcontract hknown
    (emit_of_emitLifecycleRecord hemit)
  have houtcome := deriveCrossPartyRung_sorted args checks options.now
    options.revokedIdentityCertIds
  rw [verifyRecordBytes_capsuleToBytes options hproper, hverify]
  cases hresult : deriveCrossPartyRung checks (ofDict? args.requesterCommitment).sortKeys
      (.str args.reqDigest) (.str args.exchangeId) (ofDict? args.requesterIdentityBinding).sortKeys
      options.now options.revokedIdentityCertIds with
  | error e =>
      rw [hresult] at houtcome
      refine iff_of_false ?_ fun hreadable => ?_
      · rintro ⟨verdict, herror, -⟩
        cases herror
      · -- Only an id that cannot be looked up ends in an error.
        have hnot : ∀ {rung}, ¬∃ r : CrossPartyRungResult, (.error e : Py _) = .ok r ∧
            r.rung = rung := by
          rintro rung ⟨r, hr, -⟩
          cases hr
        by_cases hcommitted : args.Committed checks.crypto
        · by_cases hbound : ∃ binding, args.BoundBy checks options.now binding
          · obtain ⟨binding, hbinding⟩ := hbound
            obtain ⟨key, hkey⟩ := hreadable binding hbinding
            exact hnot (houtcome.hashable hbinding hkey)
          · exact hnot (houtcome.acknowledged hcommitted (not_exists.mp hbound))
        · exact hnot (houtcome.unilateral hcommitted)
  | ok result =>
      refine iff_of_true ⟨_, rfl, readsBack_verdictOf hknown findings houtcome hresult⟩ ?_
      intro binding hbinding
      cases hkey : (certIdOf binding).key with
      | ok key => exact ⟨key, rfl⟩
      | error e =>
        have herror := houtcome.unhashable hbinding hkey
        rw [hresult] at herror
        cases herror

end

section

variable {floatRepr : String → String} {args : LifecycleArgs}

@[simp] theorem proper_ofStr? (s : Option String) : (Json.ofStr? s).Proper floatRepr := by
  cases s with
  | none => exact .null
  | some s => exact .str s

@[simp] theorem proper_ofInt? (n : Option Int) : (Json.ofInt? n).Proper floatRepr := by
  cases n with
  | none => exact .null
  | some n => exact .int n

theorem plainEmit_proper {emitArgs : EmitArgs} {capsule : Json}
    (hemit : plainEmit emitArgs = .ok capsule)
    (hcompute : emitArgs.computeAttestation.Proper floatRepr)
    (heffect : emitArgs.effect.Proper floatRepr)
    (hdisposition : emitArgs.disposition.Proper floatRepr) : capsule.Proper floatRepr := by
  obtain rfl := Except.ok.inj hemit
  simp [hcompute, heffect, hdisposition]

/-- The block of a record is a value where its evidence is. -/
theorem meshBlock_proper (hcommitment : (ofDict? args.requesterCommitment).Proper floatRepr)
    (hbinding : (ofDict? args.requesterIdentityBinding).Proper floatRepr) :
    (Json.obj args.meshBlock).Proper floatRepr := by
  have htranscript : (Json.obj args.transcript.members).Proper floatRepr := by
    simp [TranscriptSummary.members]
  have hlimitation : (if args.requesterCommitment.isSome then .str COMMITMENT_LIMITATION_CAVEAT
      else Json.null).Proper floatRepr := by
    split_ifs
    · exact .str _
    · exact .null
  rw [LifecycleArgs.meshBlock, Json.proper_obj]
  constructor
  · simp
  · simp only [List.forall_mem_cons, Json.proper_str, Json.proper_int, proper_ofStr?, htranscript,
      hcommitment, hbinding, hlimitation, true_and]
    simp

end

/-! ## A record of two parties -/

/-- A document with the signature of a plain key. -/
def signedDocument (key : UInt8) (body : List (String × Json)) : List (String × Json) :=
  body ++ [("signature", .str (hexText (plainCrypto.sign key (jcs (.obj body)))))]

theorem signedBy_signedDocument {key : UInt8} {body : List (String × Json)} {keyField : String}
    (hkey : (signedDocument key body).lookup keyField = some (.str (plainKeyHex key)))
    (hfresh : ∀ m ∈ body, m.1 ≠ "signature") :
    SignedBy plainCrypto (signedDocument key body) keyField := by
  have hlookup : (signedDocument key body).lookup "signature" =
      some (.str (hexText (plainCrypto.sign key (jcs (.obj body))))) := by
    have hnone : body.lookup "signature" = none := by
      rw [List.lookup_eq_none_iff]
      intro m hm
      simpa using (hfresh m hm).symm
    simp [signedDocument, List.lookup_append, hnone]
  have hwithout : without ["signature"] (.obj (signedDocument key body)) = .obj body := by
    simp only [without, signedDocument, List.filter_append]
    rw [List.filter_eq_self.mpr (by simpa using hfresh)]
    simp
  refine ⟨_, _, List.replicate 32 key, _, hkey, hlookup, ?_, List.length_replicate, rfl,
    bytesFromHex_hexText _, ?_⟩
  · simp [plainKeyHex, pubHex, plainCrypto]
  · rw [hwithout]
    exact decide_eq_true rfl

def sampleCommitment : List (String × Json) :=
  signedDocument 7
    [("type", .str COMMITMENT_TYPE),
     ("request_digest", .str "digest"),
     ("exchange_id", .str "exchange"),
     ("nonce", .str "nonce"),
     ("public_key", .str (plainKeyHex 7))]

def sampleBinding (certId : Json) : List (String × Json) :=
  signedDocument 9
    [("type", .str IDENTITY_BINDING_TYPE),
     ("version", .int IDENTITY_BINDING_VERSION),
     ("cert_id", certId),
     ("owner_id", .str "owner"),
     ("owner_sign_public_key", .str (plainKeyHex 9)),
     ("commitment_public_key", .str (plainKeyHex 7)),
     ("issued_at_unix_ms", .int 0),
     ("expires_at_unix_ms", .int 2000),
     ("label", .null)]

def sampleArgs (certId : Json) : LifecycleArgs where
  terminalState := "completed"
  observationPoint := some "gateway_ingress"
  exchangeId := "exchange"
  localPeerId := "gateway-1"
  transcript := makeTranscriptSummary 8 (some 8) none
  requestDigest := some "digest"
  requesterCommitment := some sampleCommitment
  requesterIdentityBinding := some (sampleBinding certId)

def sampleState : RecordNodeState := ⟨"node", "operator", "developer", "model", none⟩

def sampleChecks : Checks := ⟨plainCrypto, fun _ _ => false, id⟩

def sampleOptions : VerifyOptions := { clock := 1000 }

def sampleCapsule (certId : Json) : Json :=
  ((plainEmit ((sampleArgs certId).emitArgs sampleState "uuid")).toOption).getD .null

theorem emit_sampleArgs (certId : Json) :
    ∃ state, emitLifecycleRecord plainEmit sampleState "uuid" (sampleArgs certId) =
      .ok (sampleCapsule certId, state) := ⟨_, rfl⟩

theorem sampleArgs_known (certId : Json) : (sampleArgs certId).Known where
  extra := rfl
  terminalState := by simp [sampleArgs, TERMINAL_STATES]
  observationPoint point hpoint := by
    obtain rfl := Option.some.inj hpoint
    decide
  exchangeId := by simp [sampleArgs]
  transcript := ⟨8, some 8, rfl⟩

theorem sampleCapsule_proper {certId : Json} (h : certId.Proper sampleChecks.floatRepr) :
    (sampleCapsule certId).Proper sampleChecks.floatRepr := by
  have hcommitment : (ofDict? (some sampleCommitment)).Proper sampleChecks.floatRepr := by
    simp [ofDict?, sampleCommitment, signedDocument]
  have hbinding : (ofDict? (some (sampleBinding certId))).Proper sampleChecks.floatRepr := by
    simp [ofDict?, sampleBinding, signedDocument, h]
  have hblock : (Json.obj (sampleArgs certId).meshBlock).Proper sampleChecks.floatRepr :=
    meshBlock_proper hcommitment hbinding
  have hattestation : (sampleArgs certId).computeAttestation.Proper sampleChecks.floatRepr := by
    rw [LifecycleArgs.computeAttestation, Json.proper_obj]
    constructor
    · simp
    · have hextra : (sampleArgs certId).extra = [] := rfl
      simp only [hextra, List.foldl_nil, List.forall_mem_cons, Json.proper_str, hblock, true_and]
      simp
  have hemit : plainEmit ((sampleArgs certId).emitArgs sampleState "uuid") =
    .ok (sampleCapsule certId) := rfl
  apply plainEmit_proper hemit hattestation
  · simp [LifecycleArgs.emitArgs]
  · simp [LifecycleArgs.emitArgs]

theorem sampleArgs_boundBy (certId : Json) :
    (sampleArgs certId).BoundBy sampleChecks sampleOptions.now (sampleBinding certId) := by
  refine ⟨sampleCommitment, plainKeyHex 7, rfl, ⟨rfl, ?_, rfl, rfl⟩, rfl, rfl,
    ⟨rfl, rfl, rfl, ?_, rfl⟩⟩
  · exact signedBy_signedDocument rfl (by decide)
  · exact signedBy_signedDocument rfl (by simp)

theorem record_reads_back_iff_bound :
    ∃ verdict, verifyRecordBytes sampleChecks sampleOptions
        (capsuleToBytes (sampleCapsule (.str "cert"))) = .ok verdict ∧
      ReadsBack (sampleArgs (.str "cert")) sampleChecks sampleOptions verdict ∧
      verdict.crossPartyRung = .fullBilateral := by
  obtain ⟨state, hemit⟩ := emit_sampleArgs (.str "cert")
  have hreadable : RevocationReadable (sampleArgs (.str "cert")) sampleChecks sampleOptions := by
    intro binding hbinding
    rw [boundBy_unique hbinding (sampleArgs_boundBy (.str "cert"))]
    exact ⟨.str "cert", rfl⟩
  obtain ⟨verdict, hverify, hreads⟩ := (record_reads_back_iff plainEmit_contract
    (sampleArgs_known _) hemit (sampleCapsule_proper (.str _))).mpr hreadable
  exact ⟨verdict, hverify, hreads, hreads.fullBilateral.mpr
    ⟨_, sampleArgs_boundBy (.str "cert"), rfl⟩⟩

/-- A binding in order with a list as its `cert_id`: no verdict. -/
theorem unhashable_cert_id_raises :
    (sampleArgs (.arr [])).Known ∧
    (∃ state, emitLifecycleRecord plainEmit sampleState "uuid" (sampleArgs (.arr [])) =
      .ok (sampleCapsule (.arr []), state)) ∧
    Bilateral (sampleArgs (.arr [])) sampleChecks sampleOptions ∧
    ∀ verdict, verifyRecordBytes sampleChecks sampleOptions
      (capsuleToBytes (sampleCapsule (.arr []))) ≠ .ok verdict := by
  obtain ⟨state, hemit⟩ := emit_sampleArgs (.arr [])
  have hbound := sampleArgs_boundBy (.arr [])
  refine ⟨sampleArgs_known _, ⟨state, hemit⟩, ⟨_, hbound, rfl⟩, ?_⟩
  intro verdict hverdict
  obtain ⟨findings, hverify⟩ := verifyRecord_sortKeys sampleChecks sampleOptions
    plainEmit_contract (sampleArgs_known _) (emit_of_emitLifecycleRecord hemit)
  have hraises := (deriveCrossPartyRung_sorted (sampleArgs (.arr [])) sampleChecks sampleOptions.now
    sampleOptions.revokedIdentityCertIds).unhashable hbound rfl
  have hproper : (Json.arr []).Proper sampleChecks.floatRepr := .arr (by simp)
  rw [verifyRecordBytes_capsuleToBytes _ (sampleCapsule_proper hproper), hverify, hraises] at hverdict
  cases hverdict

end CapsuleMesh.Lifecycle
