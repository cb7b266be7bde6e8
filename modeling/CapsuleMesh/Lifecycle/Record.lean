import CapsuleMesh.Emit
import CapsuleMesh.Lifecycle.Requester
import CapsuleMesh.Python.Loads

/-!
# Lifecycle records

`mesh_record_emitter.py` and `mesh_record_verifier.py`.  A record carries the terminal state
of an exchange as one observer saw it, with the evidence that the requester gave.  Its reader
has the bytes alone, and derives from them how far both parties stand behind the record.
-/

namespace CapsuleMesh.Lifecycle

open Python Delegation

/-! ## The emitter -/

structure TranscriptSummary where
  eventCount : Int
  expectedCount : Option Int
  complete : Bool
  deliberateLie : Bool := false

def makeTranscriptSummary (eventCount : Int) (expectedCount : Option Int)
    (overrideComplete : Option Bool) : TranscriptSummary :=
  match overrideComplete with
  | some complete => ⟨eventCount, expectedCount, complete, true⟩
  | none => ⟨eventCount, expectedCount, expectedCount.any fun n => decide (n ≤ eventCount), false⟩

def TranscriptSummary.members (transcript : TranscriptSummary) : List (String × Json) :=
  [("event_count", .int transcript.eventCount),
   ("expected_count", .ofInt? transcript.expectedCount),
   ("complete", .bool transcript.complete)]

/-- `RecordNodeState`, without the key that nothing signs with. -/
structure RecordNodeState where
  nodeId : String
  operator : String
  developer : String
  modelId : String
  lastCapsuleId : Option String

/-- The keyword arguments of `emit_lifecycle_record`. -/
structure LifecycleArgs where
  terminalState : String
  terminalReason : Option String := none
  observationPoint : Option String := none
  exchangeId : String
  hopId : String := "hop-0"
  attempt : Int := 0
  localPeerId : String
  transcript : TranscriptSummary
  requestDigest : Option String := none
  responseDigest : Option String := none
  requesterCommitment : Option (List (String × Json)) := none
  requesterIdentityBinding : Option (List (String × Json)) := none
  extra : List (String × Json) := []

def ofDict? : Option (List (String × Json)) → Json
  | some members => .obj members
  | none => .null

/-- `requester_commitment.IDENTITY_LIMITATION_CAVEAT`. -/
def COMMITMENT_LIMITATION_CAVEAT : String :=
  "non-conformant-identity: requester_commitment is signed with a self-generated, self-held " ++
    "key, not bound to any third-party-issued credential or trusted root. " ++
    "cross_party_rung=full_bilateral proves the commitment's signature verifies and is bound " ++
    "to this record's own request_digest/exchange_id — it does NOT prove an independent party " ++
    "produced it: a single actor holding the node's own signing key can mint a fresh requester " ++
    "key and self-satisfy this check. draft-mih-agent-bilateral-attestation-01 §4.1: first-use " ++
    "acceptance of a bare key MUST NOT be treated as conformant. See TRUST-MODEL.md §4.1a."

/-- `digest or ("0" * 64)`. -/
def digestOrZeros (digest : Option String) : String :=
  (digest.filter fun d => decide (d ≠ "")).getD (String.ofList (List.replicate 64 '0'))

namespace LifecycleArgs

def reqDigest (args : LifecycleArgs) : String := digestOrZeros args.requestDigest

def respDigest (args : LifecycleArgs) : String := digestOrZeros args.responseDigest

/-- The block, before `extra` is laid over it. -/
def meshBlock (args : LifecycleArgs) : List (String × Json) :=
  [("terminal_state", .str args.terminalState),
   ("terminal_reason", .ofStr? args.terminalReason),
   ("observation_point", .ofStr? args.observationPoint),
   ("exchange_id", .str args.exchangeId),
   ("hop_id", .str args.hopId),
   ("attempt", .int args.attempt),
   ("local_peer_id", .str args.localPeerId),
   ("transcript", .obj args.transcript.members),
   ("requester_commitment", ofDict? args.requesterCommitment),
   ("requester_identity_binding", ofDict? args.requesterIdentityBinding),
   ("identity_limitation",
     if args.requesterCommitment.isSome then .str COMMITMENT_LIMITATION_CAVEAT else .null)]

def computeAttestation (args : LifecycleArgs) : Json :=
  .obj
    [("agent_input_digest", .str args.reqDigest),
     ("agent_output_digest", .str args.respDigest),
     ("runtime", .str "mesh-record-side-test:0000000000000000"),
     ("x-mesh-lifecycle-v1", .obj (args.extra.foldl (fun block m =>
       Json.setMember m.1 m.2 block) args.meshBlock))]

/-- The arguments of `emit` for a record. -/
def emitArgs (args : LifecycleArgs) (state : RecordNodeState) (uuid : String) : EmitArgs :=
  let completed := args.terminalState = "completed"
  { actionId := "mesh-poc/" ++ state.nodeId ++ "/" ++ uuid
    actionType := "decide"
    operator := state.operator
    developer := state.developer
    modelId := some state.modelId
    provider := "mesh-llm"
    computeAttestation := args.computeAttestation
    effect := .obj
      [("status", .str (if completed then "confirmed" else "failed")),
       ("type", .str "inference_completion"),
       ("request_digest", .str args.reqDigest),
       ("response_digest", .str args.respDigest),
       ("effect_attestation", .str "gate_executed")]
    disposition := .obj
      [("decision", .str (if completed then "accept" else "reject")),
       ("approver", .str "policy"),
       ("human_disposed", .bool false),
       ("verdict_class", .str (if completed then "executed" else "errored"))]
    priorCapsuleId := state.lastCapsuleId
    chainRelation := if state.lastCapsuleId.any (fun id => decide (id ≠ "")) then some "confirms"
      else none
    domain := "action"
    provenance := "collector" }

end LifecycleArgs

def producerInvariantText (transcript : TranscriptSummary) (expected : Int) : String :=
  "Producer invariant violated: transcript.complete=True but event_count=" ++
    toString transcript.eventCount ++ " < expected_count=" ++ toString expected ++
    ". Use make_transcript_summary(_override_complete=True) to intentionally break this for " ++
    "verifier guard testing."

def emitLifecycleRecord (emit : Emit) (state : RecordNodeState) (uuid : String)
    (args : LifecycleArgs) : Py (Json × RecordNodeState) := do
  if !args.transcript.deliberateLie && args.transcript.complete then
    match args.transcript.expectedCount with
    | some expected =>
        if args.transcript.eventCount < expected then
          throw (.valueError (producerInvariantText args.transcript expected))
    | none => pure ()
  let capsule ← emit (args.emitArgs state uuid)
  let capsuleId ← capsule.item "capsule_id"
  return (capsule, { state with lastCapsuleId := capsuleId.str? })

/-- `json.dumps(capsule, sort_keys=True, separators=(",", ":")).encode("utf-8")`. -/
def capsuleToBytes (capsule : Json) : Bytes := jcs capsule

/-! ## The rung -/

inductive Rung where
  | unilateralFallback
  | acknowledgedReceipt
  | fullBilateral
deriving DecidableEq

def Rung.name : Rung → String
  | .unilateralFallback => "unilateral_fallback"
  | .acknowledgedReceipt => "acknowledged_receipt"
  | .fullBilateral => "full_bilateral"

/-- `requester_identity_binding.IDENTITY_LIMITATION_CAVEAT`. -/
def IDENTITY_BINDING_LIMITATION_CAVEAT : String :=
  "self-asserted-requester-identity: this requester identity binding is signed under the " ++
    "requester's OWN self-generated, self-held key, with no third-party-issued credential or " ++
    "trusted root behind it (mirrors node_ownership.IDENTITY_LIMITATION_CAVEAT for the " ++
    "owner->node leg). verify_requester_identity_binding() confirms the binding's own " ++
    "signature verifies, it is bound to THIS commitment's exact public key, the claim is " ++
    "unexpired, and (when a revocation set is supplied) the cert_id is not revoked — it does " ++
    "NOT and cannot prove owner_id corresponds to any real person or organisation. It closes " ++
    "the zero-effort inline self-mint case ([mesh-rung12-adversarial-review]): a commitment key " ++
    "with no persistent identity behind it can no longer reach full_bilateral. It does not " ++
    "close the case of an attacker who self-registers an identity too — that requires an " ++
    "external trust anchor / third-party attestation root, out of scope here. See " ++
    "TRUST-MODEL.md §4.1a."

structure CrossPartyRungResult where
  rung : Rung
  commitmentValid : Bool
  commitmentReason : String
  identityLimitation : Option String
  identityBindingPresent : Bool
  identityBindingValid : Bool
  identityBindingReason : String
  identityOwnerId : Json

def deriveCrossPartyRung (checks : Checks)
    (requesterCommitment requestDigest exchangeId requesterIdentityBinding : Json) (now : Int)
    (revokedIdentityCertIds : List String) : Py CrossPartyRungResult := do
  let (valid, reason) ← verifyRequesterCommitment checks.crypto requesterCommitment requestDigest
    exchangeId
  if !valid then
    return {
      rung := .unilateralFallback
      commitmentValid := false
      commitmentReason := reason
      identityLimitation := none
      identityBindingPresent := !requesterIdentityBinding.isNull
      identityBindingValid := false
      identityBindingReason := "not evaluated: no valid requester commitment to bind"
      identityOwnerId := .null }
  else
    let commitmentPublicKey ← (requesterCommitment.or (.obj [])).getD "public_key" (.str "")
    let verdict ← verifyRequesterIdentityBinding checks requesterIdentityBinding commitmentPublicKey
      now revokedIdentityCertIds
    return {
      rung := if verdict.valid then .fullBilateral else .acknowledgedReceipt
      commitmentValid := true
      commitmentReason := reason
      identityLimitation :=
        if verdict.valid then some IDENTITY_BINDING_LIMITATION_CAVEAT else none
      identityBindingPresent := !requesterIdentityBinding.isNull
      identityBindingValid := verdict.valid
      identityBindingReason := verdict.reason
      identityOwnerId := verdict.ownerId }

/-! ## The verifier -/

def TERMINAL_STATES : List String :=
  ["completed", "policy_denied", "request_invalid", "backend_error", "transport_error",
   "client_cancelled", "timed_out", "evidence_unavailable"]

def OBSERVATION_POINTS : List String :=
  ["gateway_ingress", "serving_host_ingress", "backend_dispatch", "client_egress"]

/-- What `verify_record_bytes` raises. -/
inductive RecordError where
  | python (error : PyError)
  | missingLifecycleBlock
  | unknownTerminalState (value : Json)
  | unknownObservationPoint (value : Json)
  | incompleteTranscript (eventCount expectedCount : Int)
  | missingExchangeId

abbrev Reading := Except RecordError

def Reading.ofPy {α : Type} (x : Py α) : Reading α := x.mapError .python

structure LifecycleVerdict where
  terminalState : Json
  terminalReason : Json
  observationPoint : Json
  exchangeId : Json
  hopId : Json
  attempt : Int
  localPeerId : Json
  transcriptEventCount : Int
  transcriptExpectedCount : Option Int
  transcriptComplete : Bool
  requesterCommitmentPresent : Bool
  rungResult : CrossPartyRungResult
  findings : List String

def LifecycleVerdict.crossPartyRung (verdict : LifecycleVerdict) : Rung := verdict.rungResult.rung

/-- `value in known`, for a value that must be hashable. -/
def isKnown (value : Json) (known : List String) : Reading Bool := do
  let _ ← Reading.ofPy value.key
  return listed value known

/-- `(record.get("model_attestation") or {}).get("compute_attestation") or {}`. -/
def computeAttestationOf (record : Json) : Py Json := do
  let ma := (← record.get "model_attestation").or (.obj [])
  let ca ← ma.get "compute_attestation"
  return ca.or (.obj [])

def extractLifecycleBlock (record : Json) : Reading Json := do
  let ca ← Reading.ofPy (computeAttestationOf record)
  let block ← Reading.ofPy (ca.get "x-mesh-lifecycle-v1")
  if block.isNull then throw .missingLifecycleBlock else return block

def checkTerminalState (value : Json) : Reading Json := do
  if value.isNull then throw (.unknownTerminalState value)
  else if ← isKnown value TERMINAL_STATES then return value
  else throw (.unknownTerminalState value)

def checkObservationPoint (value : Json) : Reading Json := do
  if value.isNull then return value
  else if ← isKnown value OBSERVATION_POINTS then return value
  else throw (.unknownObservationPoint value)

def verifyTranscript (block : Json) : Reading Bool := do
  let transcript := (← Reading.ofPy (block.get "transcript")).or (.obj [])
  let complete := (← Reading.ofPy (transcript.getD "complete" (.bool false))).truthy
  let eventCount ← Reading.ofPy (← Reading.ofPy (transcript.getD "event_count" (.int 0))).toInt
  let expectedCount ← Reading.ofPy (transcript.get "expected_count")
  if complete && !expectedCount.isNull then
    let expected ← Reading.ofPy expectedCount.toInt
    if eventCount < expected then throw (.incompleteTranscript eventCount expected)
  return complete

def provenanceWarning (observationPoint localPeerId : String) : String :=
  "Provenance warning: observation_point=" ++ pyRepr observationPoint ++
    " is a gateway observation but local_peer_id=" ++ pyRepr localPeerId ++
    " does not begin with 'gateway'. A record at gateway_ingress should originate from a " ++
    "gateway peer, not a serving host. (#1331: 'the host must not present a gateway " ++
    "observation as proof from the serving target')"

def checkVantagePointProvenance (observationPoint localPeerId : Json) : Py (List String) := do
  let _ ← observationPoint.key
  if observationPoint.pyEq (.str "gateway_ingress") then
    match localPeerId with
    | .str peer =>
        if "gateway".toList.isPrefixOf peer.toList then return []
        else return [provenanceWarning "gateway_ingress" peer]
    | _ => .error .attributeError
  else return []

/-- The keyword arguments of `verify_record_bytes`, with what the clock shows. -/
structure VerifyOptions where
  requireKnownTerminalState : Bool := true
  requireKnownObservationPoint : Bool := true
  checkProvenance : Bool := true
  nowUnixMs : Option Int := none
  revokedIdentityCertIds : List String := []
  clock : Int

namespace VerifyOptions

variable (options : VerifyOptions)

def now : Int := options.nowUnixMs.getD options.clock

def terminalState (value : Json) : Reading Json :=
  if options.requireKnownTerminalState then checkTerminalState value
  else .ok (value.or (.str "unknown"))

def observationPoint (value : Json) : Reading Json :=
  if options.requireKnownObservationPoint then checkObservationPoint value else .ok value

def findings (observationPoint localPeerId : Json) : Reading (List String) :=
  if options.checkProvenance && observationPoint.truthy then
    Reading.ofPy (checkVantagePointProvenance observationPoint localPeerId)
  else .ok []

end VerifyOptions

/-- `int(x)` of a count that may be `None`. -/
def countOrNone (count : Json) : Py (Option Int) :=
  if count.isNull then .ok none else do return some (← count.toInt)

/-- The correlator must be a real value. -/
def checkExchangeId (value : Json) : Reading Json :=
  if value.truthy then .ok value else .error .missingExchangeId

/-- `verify_record_bytes`, after the bytes are parsed. -/
def verifyRecord (checks : Checks) (options : VerifyOptions) (record : Json) :
    Reading LifecycleVerdict := do
  let block ← extractLifecycleBlock record
  let computeAttestation ← Reading.ofPy (computeAttestationOf record)
  let terminalState ← options.terminalState (← Reading.ofPy (block.get "terminal_state"))
  let observationPoint ← options.observationPoint (← Reading.ofPy (block.get "observation_point"))
  let exchangeId ← checkExchangeId (← Reading.ofPy (block.get "exchange_id"))
  let hopId ← Reading.ofPy (block.getD "hop_id" (.str "hop-0"))
  let attempt ← Reading.ofPy (← Reading.ofPy (block.getD "attempt" (.int 0))).toInt
  let localPeerId ← Reading.ofPy (block.getD "local_peer_id" (.str ""))
  let transcript := (← Reading.ofPy (block.get "transcript")).or (.obj [])
  let eventCount ← Reading.ofPy (← Reading.ofPy (transcript.getD "event_count" (.int 0))).toInt
  let expectedCount ← Reading.ofPy (countOrNone (← Reading.ofPy (transcript.get "expected_count")))
  let transcriptComplete ← verifyTranscript block
  let requesterCommitment ← Reading.ofPy (block.get "requester_commitment")
  let requesterIdentityBinding ← Reading.ofPy (block.get "requester_identity_binding")
  let requestDigest ← Reading.ofPy (computeAttestation.getD "agent_input_digest" (.str ""))
  let result ← Reading.ofPy (deriveCrossPartyRung checks requesterCommitment requestDigest exchangeId
    requesterIdentityBinding options.now options.revokedIdentityCertIds)
  let findings ← options.findings observationPoint localPeerId
  return {
    terminalState := terminalState
    terminalReason := ← Reading.ofPy (block.get "terminal_reason")
    observationPoint := observationPoint
    exchangeId := exchangeId
    hopId := hopId
    attempt := attempt
    localPeerId := localPeerId
    transcriptEventCount := eventCount
    transcriptExpectedCount := expectedCount
    transcriptComplete := transcriptComplete
    requesterCommitmentPresent := !requesterCommitment.isNull
    rungResult := result
    findings := findings }

def verifyRecordBytes (checks : Checks) (options : VerifyOptions) (recordBytes : Bytes) :
    Reading LifecycleVerdict := do
  let text ← Reading.ofPy (decodeUtf8 recordBytes)
  let record ← Reading.ofPy (loads checks.floatRepr text)
  verifyRecord checks options record

end CapsuleMesh.Lifecycle
