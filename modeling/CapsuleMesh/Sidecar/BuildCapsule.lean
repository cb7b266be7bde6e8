import CapsuleMesh.Emit
import CapsuleMesh.Ownership
import CapsuleMesh.Sequence.Continuity
import CapsuleMesh.Sidecar.Attestation

/-!
# Sealing one exchange

`build_capsule` of `capsule_sidecar.py`, cut where it touches shared state: the
two ends it names, the number it takes from the counters, the compute attestation
it assembles and the arguments it passes to `emit`.  What a sealed capsule tells
`extract_pair_seq` is computed once, in `extractPairSeq_sealed`.
-/

namespace CapsuleMesh.Sidecar

open Python Sequence Ownership

inductive Role where
  | provider
  | requester
deriving DecidableEq

def Role.name : Role → String
  | .provider => "provider"
  | .requester => "requester"

def Role.lifecycleRole : Role → String
  | .provider => "served"
  | .requester => "requested"

def Role.observationPoint : Role → String
  | .provider => "serving_host_ingress"
  | .requester => "client_egress"

def Role.epistemicType : Role → String
  | .provider => "producer_claim"
  | .requester => "observed_event"

def GENERATION_PARAM_KEYS : List String :=
  ["temperature", "top_p", "top_k", "min_p", "seed", "max_tokens", "max_completion_tokens", "n",
    "presence_penalty", "frequency_penalty", "repeat_penalty", "stop"]

def IDENTITY_LIMITATION_CAVEAT : String :=
  "non-conformant-demo-key: self-generated Ed25519 key; not bound to " ++
  "any third-party-issued credential or trusted root; " ++
  "draft-mih-agent-bilateral-attestation-01 §4.1 states first-use " ++
  "acceptance MUST NOT be treated as conformant bilateral attestation"

/-- The fields of `NodeState` that no request changes.  The advertisement enters
through its value and through `reconcile_advertised_vs_served` applied to it. -/
structure NodeConfig where
  nodeId : String
  role : Role
  operator : String
  developer : String
  manifest : Json
  modelPackageDigest : String
  runtimeLabel : String
  runtimeDigest : String
  advertisement : Json
  reconcile : Json → Py Json
  nodeOwnership : Option SignedNodeOwnership
  ownerNodeEndpointId : Option String
  identityCapsuleId : Option String

/-- The keyword arguments of `build_capsule`, with the clock it reads for the owner
certificate and the `uuid4` it draws. -/
structure BuildArgs where
  clientNonce : String
  clientNonceSource : String
  requestJson : Json
  requestDigest : Option String
  status : String
  responseDigest : Option String
  verdictClass : String
  dispositionDecision : String
  latencyMs : String
  exchangeId : String
  exchangeIdSource : String
  forwardedCopy : Json
  bilateralEval : Option BilateralEvalResult
  peerCapsuleId : Option String
  responseJson : Json
  nowUnixMs : Int
  uuid : String

/-- The digest functions of the capsule package and of `hashlib`. -/
structure Digests where
  cert : CertCrypto
  /-- `json_digest`; `none` when it refuses an integer or a float in the value. -/
  jsonDigest : Json → Option String

mutual

/-- `_stringify_floats`. -/
def stringifyFloats : Json → Json
  | .float repr => .str repr
  | .arr elems => .arr (stringifyElems elems)
  | .obj members => .obj (stringifyMembers members)
  | j => j

def stringifyElems : List Json → List Json
  | [] => []
  | e :: es => stringifyFloats e :: stringifyElems es

def stringifyMembers : List (String × Json) → List (String × Json)
  | [] => []
  | (k, v) :: ms => (k, stringifyFloats v) :: stringifyMembers ms

end

theorem stringifyElems_eq_map (elems : List Json) : stringifyElems elems = elems.map stringifyFloats := by
  induction elems with
  | nil => rfl
  | cons e es ih => rw [stringifyElems, ih, List.map_cons]

theorem stringifyMembers_eq_map (members : List (String × Json)) :
    stringifyMembers members = members.map fun m => (m.1, stringifyFloats m.2) := by
  induction members with
  | nil => rfl
  | cons m ms ih => rw [stringifyMembers, ih, List.map_cons]

/-- `_safe_digest_json`. -/
def safeDigestJson (digests : Digests) (value : Json) : Option String :=
  digests.jsonDigest (stringifyFloats value)

/-- `_safe_embed`, with `None` as the null value. -/
def safeEmbed (digests : Digests) (value : Json) : Json :=
  if (safeDigestJson digests value).isSome then value else .null

/-- The entries of `request_json` at the given keys that are not `None`. -/
def presentEntries (j : Json) : List String → Py (List (String × Json))
  | [] => .ok []
  | key :: keys => do
      let value ← j.get key
      let rest ← presentEntries j keys
      return if value.isNull then rest else (key, value) :: rest

/-! ## The two ends and the number -/

/-- A verified attestation that names its initiator. -/
def bilateralVerified (eval : Option BilateralEvalResult) : Bool :=
  match eval with
  | some result => result.valid && result.initiatorRef.any (· ≠ "")
  | none => false

/-- `requesting_party` of a provider record. -/
def initiator (eval : Option BilateralEvalResult) : String :=
  match eval with
  | some result => if bilateralVerified eval then result.initiatorRef.getD "unknown" else "unknown"
  | none => "unknown"

def servedByNodeId (cfg : NodeConfig) : String :=
  match cfg.role with
  | .requester => "unknown"
  | .provider => cfg.nodeId

def requestingParty (cfg : NodeConfig) (args : BuildArgs) : String :=
  match cfg.role with
  | .requester => cfg.nodeId
  | .provider => initiator args.bilateralEval

/-- The other end of the pair, under which the number is taken. -/
def counterpartyId (cfg : NodeConfig) (args : BuildArgs) : String :=
  match cfg.role with
  | .requester => servedByNodeId cfg
  | .provider => requestingParty cfg args

def counterpartyIdProvenance (cfg : NodeConfig) (args : BuildArgs) : String :=
  match cfg.role with
  | .requester => "unauthenticated"
  | .provider =>
      if bilateralVerified args.bilateralEval then "bilateral_verified" else "unauthenticated"

/-- `state.sequence_counters.next_seq(state.node_id, counterparty_id)`. -/
def takeNumber (cfg : NodeConfig) (args : BuildArgs) (counters : SequenceCounterStore) :
    (Int × Option Int) × SequenceCounterStore :=
  nextSeq counters cfg.nodeId (some (counterpartyId cfg args))

/-! ## The compute attestation -/

def counterpartyRef (cfg : NodeConfig) (args : BuildArgs) : Option String :=
  match cfg.role with
  | .requester => args.peerCapsuleId
  | .provider => none

def servingProvenance (cfg : NodeConfig) (args : BuildArgs) (number : Int × Option Int)
    (modelId : Json) : Json :=
  .obj
    [("served_by_node_id", .str (servedByNodeId cfg)),
     ("requesting_party", .str (requestingParty cfg args)),
     ("exchange_id", .str args.exchangeId),
     ("exchange_id_source", .str args.exchangeIdSource),
     ("role", .str cfg.role.name),
     ("seq", .int number.1),
     ("prev_seq", .ofInt? number.2),
     ("model_canonical_ref", modelId),
     ("quantization", .str "unknown"),
     ("counterparty_ref", .ofStr? (counterpartyRef cfg args)),
     ("counterparty_ref_provenance",
       if (counterpartyRef cfg args).any (· ≠ "") then .str "peer_asserted" else .null),
     ("counterparty_id_provenance", .str (counterpartyIdProvenance cfg args))]

/-- The `model` field of a request or response when it is a string. -/
def modelField (j : Json) : Py Json := do
  let model ← j.get "model"
  return .ofStr? model.str?

/-- `choices[0]["finish_reason"]` of a response. -/
def finishStatus (responseJson : Json) : Py Json := do
  match ← responseJson.get "choices" with
  | .arr (.obj choice :: _) => (Json.obj choice).get "finish_reason"
  | _ => return .null

def responseRef (digests : Digests) (responseJson : Json) : Py Json := do
  match ← responseJson.get "id" with
  | .str id =>
      if id = "" then
        return .null
      else
        return .obj [("type", .str "provider-response"), ("digest_alg", .str "SHA-256"),
          ("digest", .str (digests.cert.sha256Hex (utf8 id)))]
  | _ => return .null

/-- Each reported fact of the invocation with the party that reported it. -/
def invocationFacts (digests : Digests) (requestJson responseJson : Json) :
    Py (List (String × Json × String)) := do
  let requested ← modelField requestJson
  if responseJson.truthy then
    let resolved ← modelField responseJson
    let usage ← responseJson.get "usage"
    let usage := match usage with
      | .obj _ => safeEmbed digests usage
      | _ => .null
    let finish ← finishStatus responseJson
    let ref ← responseRef digests responseJson
    return [("requested_model_id", requested, "self_reported"),
      ("resolved_model_id", resolved, "provider_reported"),
      ("usage", usage, "provider_reported"),
      ("finish_status", finish, "provider_reported"),
      ("response_ref", ref, "provider_reported")]
  else return [("requested_model_id", requested, "self_reported")]

/-- The `invocation` block, empty when nothing was reported. -/
def invocation (facts : List (String × Json × String)) : List (String × Json) :=
  let known := facts.filter fun fact => !fact.2.1.isNull
  let entries := known.map fun fact => (fact.1, fact.2.1)
  let source := known.map fun fact => (fact.1, Json.str fact.2.2)
  if source.isEmpty then entries else entries ++ [("source", .obj source)]

def runtimeBlock (cfg : NodeConfig) : Json :=
  .obj ([("name", .str cfg.runtimeLabel)] ++
    if cfg.runtimeDigest ≠ String.ofList (List.replicate 64 '0') then
      [("runtime_digest", .str cfg.runtimeDigest), ("measurement_class", .str "self_measured")]
    else [])

def crossParty (eval : Option BilateralEvalResult) : Json :=
  match eval with
  | some result =>
      if result.present then
        .obj
          [("initiator_ref", if result.valid then .ofStr? result.initiatorRef else .null),
           ("counterparty_ref", .null),
           ("correlator", result.correlator),
           ("substantive", .bool result.valid)]
      else .null
  | none => .null

def emptyEvidenceRef (name : String) : String × Json :=
  (name, .obj [("type", .str name), ("digest", .null), ("context", .null)])

/-- `compute_meter(latency_ms=...)`. -/
def computeMeter (latencyMs : String) : Json :=
  .obj [("unit", .str "milliseconds"), ("wall_clock_ms", .str latencyMs)]

/-- The `x-mesh-poc-v1` block. -/
def pocFields (cfg : NodeConfig) (args : BuildArgs) (generationParameters provenance
    reconciliation owner : Json) : Json :=
  .obj
    [("client_nonce", .str args.clientNonce),
     ("client_nonce_source", .str args.clientNonceSource),
     ("model_package_digest", .str cfg.modelPackageDigest),
     ("generation_parameters", generationParameters),
     ("latency_ms", .str args.latencyMs),
     ("serving_provenance", provenance),
     ("role", .str cfg.role.lifecycleRole),
     ("observation_point", .str cfg.role.observationPoint),
     ("advertisement", cfg.advertisement),
     ("advertisement_reconciliation", reconciliation),
     ("compute_meter", computeMeter args.latencyMs),
     ("forwarded_copy", args.forwardedCopy),
     ("evidence_refs", .obj
       [emptyEvidenceRef "statistical_fingerprint", emptyEvidenceRef "tee_attestation"]),
     ("cross_party", crossParty args.bilateralEval),
     ("identity_limitation",
       if args.bilateralEval.any (·.present) then .str IDENTITY_LIMITATION_CAVEAT else .null),
     ("owner", owner)]

/-- The owner block as `build_capsule` asks for it. -/
def ownerBlock (digests : Digests) (cfg : NodeConfig) (args : BuildArgs) : Py Json :=
  ownerProvenanceBlock digests.cert cfg.nodeOwnership (cfg.ownerNodeEndpointId.getD "")
    cfg.identityCapsuleId args.nowUnixMs

def computeAttestation (digests : Digests) (cfg : NodeConfig) (args : BuildArgs)
    (number : Int × Option Int) : Py Json := do
  let parameters ← presentEntries args.requestJson GENERATION_PARAM_KEYS
  let parameters := stringifyMembers parameters
  let modelId ← cfg.manifest.get "model_id"
  let provenance := servingProvenance cfg args number modelId
  let reconciliation ← cfg.reconcile provenance
  let decoding := parameters.filter fun entry => entry.1 = "temperature" || entry.1 = "seed"
  let facts ← invocationFacts digests args.requestJson args.responseJson
  let owner ← ownerBlock digests cfg args
  return .obj ([
    ("agent_input_digest", .ofStr? args.requestDigest),
    ("agent_output_digest", .ofStr? args.responseDigest),
    ("runtime", runtimeBlock cfg),
    ("attestation_refs", .arr []),
    ("epistemic_type", .str cfg.role.epistemicType),
    ("x-mesh-poc-v1", pocFields cfg args (.obj parameters) provenance reconciliation owner)] ++
    (if decoding.isEmpty then [] else [("decoding", Json.obj decoding)]) ++
    (if (invocation facts).isEmpty then [] else [("invocation", Json.obj (invocation facts))]) ++
    (if decoding.isEmpty then [] else
      [("source", Json.obj [("decoding", .str "self_reported")])]))

/-! ## The arguments of `emit` -/

def effectRecord (args : BuildArgs) : Json :=
  .obj
    [("status", .str args.status),
     ("type", .str "inference_completion"),
     ("request_digest", .ofStr? args.requestDigest),
     ("response_digest", .ofStr? args.responseDigest),
     ("effect_attestation", .str "gate_executed")]

def disposition (args : BuildArgs) : Json :=
  .obj
    [("decision", .str args.dispositionDecision),
     ("approver", .str "policy"),
     ("human_disposed", .bool false),
     ("verdict_class", .str args.verdictClass)]

def servingActionId (cfg : NodeConfig) (uuid : String) : String :=
  "mesh-poc/" ++ cfg.nodeId ++ "/" ++ uuid

/-- The call of `emit`.  `state.last_capsule_id` is read twice: once for the
parent, once to choose the relation. -/
def emitArgs (digests : Digests) (cfg : NodeConfig) (args : BuildArgs)
    (number : Int × Option Int) (prior relationHead : Option String) : Py EmitArgs := do
  let attestation ← computeAttestation digests cfg args number
  let modelId ← cfg.manifest.item "model_id"
  return {
    actionId := servingActionId cfg args.uuid
    actionType := "decide"
    operator := cfg.operator
    developer := cfg.developer
    modelId := modelId.str?
    provider := "mesh-llm"
    computeAttestation := attestation
    effect := effectRecord args
    disposition := disposition args
    priorCapsuleId := prior
    chainRelation := if relationHead.any (· ≠ "") then some "confirms" else none
    domain := "action"
    provenance := "collector" }

/-- `emit` on the assembled arguments. -/
def emitServing (emit : Emit) (digests : Digests) (cfg : NodeConfig) (args : BuildArgs)
    (number : Int × Option Int) (prior relationHead : Option String) : Py Json := do
  emit (← emitArgs digests cfg args number prior relationHead)

/-! ## What a sealed capsule carries -/

/-- The `x-mesh-poc-v1` block is where it is looked for, and nothing beside it is
called `owner` or is the block of a join card. -/
theorem computeAttestation_ok {digests : Digests} {cfg : NodeConfig} {args : BuildArgs}
    {number : Int × Option Int} {attestation : Json}
    (h : computeAttestation digests cfg args number = .ok attestation) :
    ∃ members parameters modelId reconciliation owner,
      attestation = .obj members ∧
      members.lookup "x-mesh-poc-v1" = some (pocFields cfg args parameters
        (servingProvenance cfg args number modelId) reconciliation owner) ∧
      members.lookup "owner" = none ∧
      ownerBlock digests cfg args = .ok owner ∧
      members.lookup "x-mesh-join-card-v1" = none ∧
      cfg.manifest.get "model_id" = .ok modelId := by
  simp only [computeAttestation, Py.bind_eq_ok] at h
  obtain ⟨parameters, -, modelId, hmodelId, reconciliation, -, facts, -, owner, howner, h⟩ := h
  obtain rfl := Except.ok.inj h
  refine ⟨_, _, modelId, reconciliation, owner, rfl, rfl, ?_, howner, ?_, hmodelId⟩
  all_goals
    simp only [List.cons_append, List.nil_append, List.lookup_cons]
    split_ifs <;> rfl

/-- What the call of `emit` for a serving capsule was given. -/
theorem emitServing_ok {emit : Emit} {digests : Digests} {cfg : NodeConfig} {args : BuildArgs}
    {number : Int × Option Int} {prior relationHead : Option String} {capsule : Json}
    (h : emitServing emit digests cfg args number prior relationHead = .ok capsule) :
    ∃ ea, emit ea = .ok capsule ∧ ea.actionId = servingActionId cfg args.uuid ∧
      ea.priorCapsuleId = prior ∧ ea.effect = effectRecord args ∧
      computeAttestation digests cfg args number = .ok ea.computeAttestation := by
  simp only [emitServing, emitArgs, Py.bind_eq_ok] at h
  obtain ⟨ea, ⟨attestation, hatt, modelId, -, hea⟩, hemit⟩ := h
  obtain rfl := Except.ok.inj hea
  exact ⟨_, hemit, rfl, rfl, rfl, hatt⟩

/-- The block that every reader of a sealed record starts from. -/
theorem pocBlock_sealed {emit : Emit} (hemit : EmitContract emit) {digests : Digests}
    {cfg : NodeConfig} {args : BuildArgs} {number : Int × Option Int}
    {prior relationHead : Option String} {capsule : Json}
    (h : emitServing emit digests cfg args number prior relationHead = .ok capsule) :
    ∃ parameters modelId reconciliation owner,
      pocBlock capsule = .ok (pocFields cfg args parameters
        (servingProvenance cfg args number modelId) reconciliation owner) := by
  obtain ⟨ea, hcapsule, -, -, -, hatt⟩ := emitServing_ok h
  obtain ⟨members, parameters, modelId, reconciliation, owner, hobj, hpoc, -⟩ :=
    computeAttestation_ok hatt
  obtain ⟨fields, rfl, attestation, hmodel, hcompute⟩ := hemit.compute hcapsule
  rw [hobj] at hcompute
  refine ⟨parameters, modelId, reconciliation, owner, ?_⟩
  simp [pocBlock, hmodel, hcompute, hpoc, pocFields, Json.or]

/-- The pair and the number under which the verifier counts a sealed record. -/
theorem extractPairSeq_sealed {emit : Emit} (hemit : EmitContract emit) {digests : Digests}
    {cfg : NodeConfig} {args : BuildArgs} {number : Int × Option Int}
    {prior relationHead : Option String} {capsule : Json}
    (h : emitServing emit digests cfg args number prior relationHead = .ok capsule) :
    extractPairSeq capsule = .ok (some ⟨orUnknown (some cfg.nodeId),
      orUnknown (some (counterpartyId cfg args)), number.1, .issued number.2⟩) := by
  obtain ⟨parameters, modelId, reconciliation, owner, hblock⟩ := pocBlock_sealed hemit h
  have hget : (pocFields cfg args parameters (servingProvenance cfg args number modelId)
      reconciliation owner).get "serving_provenance" =
      .ok (servingProvenance cfg args number modelId) := rfl
  simp only [extractPairSeq, hblock, hget, Py.ok_bind]
  cases hrole : cfg.role <;>
    simp [servingProvenance, Json.or_of_truthy, List.lookup_cons, Json.isNull, Role.name, hrole,
      pairEnds, str_or_unknown, servedByNodeId, requestingParty, counterpartyId, Json.pyStr]

/-! ## A plain node, for concrete runs -/

def plainDigests : Digests where
  cert := ⟨fun _ _ _ => true, fun _ => "sha256"⟩
  jsonDigest := fun _ => some "digest"

/-- A node without certificate or advertisement. -/
def plainConfig (nodeId : String) (role : Role) : NodeConfig where
  nodeId := nodeId
  role := role
  operator := "operator"
  developer := "developer"
  manifest := .obj [("model_id", .str "model")]
  modelPackageDigest := "package"
  runtimeLabel := "runtime"
  runtimeDigest := "runtime-digest"
  advertisement := .null
  reconcile := fun _ => .ok (.obj [("overall", .str "advertisement_absent")])
  nodeOwnership := none
  ownerNodeEndpointId := none
  identityCapsuleId := none

/-- A successful exchange with a client that sent no attestation. -/
def plainArgs (uuid : String) : BuildArgs where
  clientNonce := "nonce"
  clientNonceSource := "client_supplied"
  requestJson := .obj [("messages", .arr [])]
  requestDigest := some "request"
  status := "confirmed"
  responseDigest := some "response"
  verdictClass := "executed"
  dispositionDecision := "accept"
  latencyMs := "1.000"
  exchangeId := "chatcmpl-" ++ uuid
  exchangeIdSource := "response_id"
  forwardedCopy := .null
  bilateralEval := none
  peerCapsuleId := none
  responseJson := .obj [("id", .str ("chatcmpl-" ++ uuid))]
  nowUnixMs := 0
  uuid := uuid

end CapsuleMesh.Sidecar
