import CapsuleMesh.Emit
import CapsuleMesh.Plugin.MeshPoc

/-!
# Sealing in the admission-policy plugin

`capsule_emit.rs`.  A directly admitted exchange and an observed host exchange
are sealed by the same sequence of fallible steps, all of it under the ledger's
mutex: take a number, seal, append.  The number is taken under the plugin's
label, while the record names the node that served, which is either reported by
the host or the identity learned from locally served traffic.
-/

namespace CapsuleMesh.Plugin

open Python Sequence

/-! ## Dispatch paths and the learned identity -/

inductive DispatchPath where
  | typedFrontend
  | rawProxy
  | remoteMesh
  | unknown
deriving DecidableEq

def roleForDispatchPath : DispatchPath → String
  | .remoteMesh => "requested"
  | .typedFrontend => "served"
  | .rawProxy => "served"
  | .unknown => "unknown"

def dispatchPathWireValue : DispatchPath → String
  | .typedFrontend => "typed_frontend"
  | .rawProxy => "raw_proxy"
  | .remoteMesh => "remote_mesh"
  | .unknown => "unknown"

def roleAndObservationPoint (dispatchPath : DispatchPath)
    (servedByNodeId selfNodeId : Option String) : String × Option String :=
  let dispatchRole := roleForDispatchPath dispatchPath
  let observationPoint := if dispatchPath = .remoteMesh then some "client_egress" else none
  let role :=
    if dispatchRole = "unknown" then "unknown"
    else
      match servedByNodeId, selfNodeId with
      | some servedBy, some selfId =>
        if decide (dispatchRole = "served") = decide (servedBy = selfId) then dispatchRole
        else "conflict"
      | _, _ => dispatchRole
  (role, observationPoint)

/-- The identity in memory and the one in `learned_self_node_id.json`. -/
structure LearnedSelfNodeId where
  value : Option String
  saved : Option String
deriving DecidableEq

/-- Learn, confirm or rotate; a failed save leaves only the file behind. -/
def LearnedSelfNodeId.observe (learned : LearnedSelfNodeId) (saves : Bool)
    (servedByNodeId : String) : LearnedSelfNodeId :=
  if learned.value = some servedByNodeId then learned
  else ⟨some servedByNodeId, if saves then some servedByNodeId else learned.saved⟩

/-! ## The code outside this repository -/

structure ChainLink where
  parentCapsuleId : String
  relation : String

structure HostBinding where
  digest : String
  construction : String
  purpose : String

structure CapsuleInput where
  actionId : String
  actionType : String
  operator : String
  developer : String
  timestamp : String
  domain : Option String
  provenance : Option String
  modelId : String
  provider : String
  agentInputDigest : String
  agentOutputDigest : Option String
  toolCallsDigest : Option String
  reasoningDigest : Option String
  hostBinding : Option HostBinding
  runtime : Json
  computeAttestationExtensions : List (String × Json)
  effectStatus : String
  effectType : String
  effectRequestDigest : Option String
  effectResponseDigest : Option String
  effectAttestation : String
  dispositionDecision : String
  dispositionApprover : String
  dispositionHumanDisposed : Bool
  dispositionVerdictClass : String
  chain : Option ChainLink
  storeNonce : String

/-- What the plugin calls of the `capsule_emit` crate and of the standard
library's formatting of floats. -/
structure Crate where
  decodeRecord : List UInt8 → Option Json
  jsonDigest : Json → Option String
  hexSha256 : String → String
  displayF64 : String → String
  sealCapsule : CapsuleInput → Option Json

/-- What the plugin relies on: a sealed capsule has an id, names the given
parent and carries the `x-mesh-poc-v1` member as it was given. -/
structure SealContract (sealCapsule : CapsuleInput → Option Json) : Prop where
  extension : ∀ {input capsule block}, sealCapsule input = some capsule →
    input.computeAttestationExtensions.lookup "x-mesh-poc-v1" = some block →
    ∃ members attestation compute, capsule = .obj members ∧
      members.lookup "model_attestation" = some (.obj attestation) ∧
      attestation.lookup "compute_attestation" = some (.obj compute) ∧
      compute.lookup "x-mesh-poc-v1" = some block
  capsuleId : ∀ {input capsule}, sealCapsule input = some capsule → ∃ id, capsuleIdOf capsule = some id
  parent : ∀ {input capsule}, sealCapsule input = some capsule →
    parentOf capsule = input.chain.map ChainLink.parentCapsuleId

/-- The crate's counter store: the last number of each `(self, counterparty)`. -/
abbrev CounterStore := Dict (String × String) ℕ

def CounterStore.nextSeq (store : CounterStore) (selfId counterpartyId : String) :
    (ℕ × Option ℕ) × CounterStore :=
  let prevSeq := store.lookup (selfId, counterpartyId)
  let seq := prevSeq.getD 0 + 1
  ((seq, prevSeq), store.insert (selfId, counterpartyId) seq)

/-! ## The plugin's state and its inputs -/

/-- `Ledger` is the list of its capsules. -/
structure CapsuleState where
  nodeId : String
  ledger : List Json
  sequenceCounters : CounterStore
  learnedSelfNodeId : LearnedSelfNodeId

def CapsuleState.chainHead (s : CapsuleState) : Option String :=
  s.ledger.getLast?.bind capsuleIdOf

structure HostProvenance where
  servedByNodeId : Option String := none
  hostname : Option String := none
  quantization : Option String := none
  architecture : Option String := none
  contextLength : Option ℕ := none
  parameterSize : Option String := none
  layerCount : Option ℕ := none
  modelIdentityHash : Option String := none
  weightsDigest : Option String := none
  modelCanonicalRef : Option String := none
  modelRevision : Option String := none
  gpu : Option String := none
  vramBytes : Option ℕ := none
  isSoc : Option Bool := none

/-- The latency is given as it is formatted. -/
structure ExchangeRecord where
  model : String
  clientNonce : Option String
  requestBytes : List UInt8
  responseBytes : List UInt8
  latencyMs : String
  exchangeId : Option String
  requestingParty : Option String
  hostProvenance : Option HostProvenance

structure ObservedHostExchange where
  model : String
  exchangeId : Option String
  requestDigest : Option String
  responseDigest : Option String
  toolCallsDigest : Option String
  reasoningDigest : Option String
  usage : Option TokenUsage
  hostProvenance : HostProvenance
  dispatchPath : DispatchPath
  nonce : Option String
  peerCapsuleId : Option String
  peerCapsuleIdProvenance : Option String
  twinBracketId : Option String

/-- What one emission meets in its surroundings: the clock, the fresh nonce, the
measured binary, and whether the counter's file and the ledger could be written.
A number whose file write failed may be used up or not. -/
structure Moment where
  timestamp : String
  storeNonce : String
  binaryAttestation : Option BinaryAttestation
  counterSaves : Bool
  counterKeeps : Bool
  appends : Bool

inductive EmitError where
  | digest
  | counter
  | sealing
  | append
deriving DecidableEq

/-! ## Request and response bodies -/

/-- `Value::get` with a string. -/
def member? (key : String) : Json → Option Json
  | .obj members => members.lookup key
  | _ => none

def asU64 : Json → Option ℕ
  | .int n => if 0 ≤ n ∧ n < 2 ^ 64 then some n.toNat else none
  | _ => none

def pythonReprF64 (crate : Crate) (repr : String) : String :=
  let s := crate.displayF64 repr
  if s.toList.any fun c => c = '.' || c = 'e' || c = 'E' then s else s ++ ".0"

mutual

def stringifyFloats (crate : Crate) : Json → Json
  | .float repr => .str (pythonReprF64 crate repr)
  | .obj members => .obj (stringifyMembers crate members)
  | .arr elems => .arr (stringifyElems crate elems)
  | other => other

def stringifyElems (crate : Crate) : List Json → List Json
  | [] => []
  | e :: es => stringifyFloats crate e :: stringifyElems crate es

def stringifyMembers (crate : Crate) : List (String × Json) → List (String × Json)
  | [] => []
  | (key, value) :: ms => (key, stringifyFloats crate value) :: stringifyMembers crate ms

end

def canonicalBodyDigest (crate : Crate) (bytes : List UInt8) : Option String := do
  crate.jsonDigest (stringifyFloats crate (← crate.decodeRecord bytes))

def parseUsage (crate : Crate) (responseBytes : List UInt8) : Option TokenUsage := do
  let usage ← member? "usage" (← crate.decodeRecord responseBytes)
  let promptTokens ← (member? "prompt_tokens" usage).bind asU64
  let completionTokens ← (member? "completion_tokens" usage).bind asU64
  -- `saturating_add` of two `u64`
  let totalTokens := ((member? "total_tokens" usage).bind asU64).getD
    (min (promptTokens + completionTokens) (2 ^ 64 - 1))
  return ⟨promptTokens, completionTokens, totalTokens⟩

def GENERATION_PARAM_KEYS : List String :=
  ["temperature", "top_p", "top_k", "min_p", "seed", "max_tokens", "max_completion_tokens", "n",
    "presence_penalty", "frequency_penalty", "repeat_penalty", "stop"]

def parseGenerationParameters (crate : Crate) (requestBytes : List UInt8) : List (String × Json) :=
  match crate.decodeRecord requestBytes with
  | some (.obj request) => GENERATION_PARAM_KEYS.filterMap fun key =>
      match request.lookup key with
      | some value => if value.isNull then none else some (key, stringifyFloats crate value)
      | none => none
  | _ => []

def choiceMessages (value : Json) : List Json :=
  match member? "choices" value with
  | some (.arr choices) => choices.filterMap (member? "message")
  | _ => []

def messageToolCalls (message : Json) : List Json :=
  match member? "tool_calls" message with
  | some (.arr calls) => calls
  | _ => []

def messageReasoning (message : Json) : List Json :=
  match member? "reasoning_content" message with
  | some .null => []
  | some (.str "") => []
  | some r => [r]
  | none => []

/-- The digest of a list, absent when the list is empty or has no digest. -/
def listDigest (crate : Crate) (values : List Json) : Option String :=
  if values.isEmpty then none else crate.jsonDigest (.arr values)

def outputSubDigests (crate : Crate) (responseBytes : List UInt8) : Option String × Option String :=
  match crate.decodeRecord responseBytes with
  | none => (none, none)
  | some value =>
      (listDigest crate ((choiceMessages value).flatMap messageToolCalls),
       listDigest crate ((choiceMessages value).flatMap messageReasoning))

def runtimeField (name : String) (att : Option BinaryAttestation) : Json :=
  match att with
  | some a => a.runtimeValue name
  | none => .obj [("name", .str name)]

/-! ## Taking a number, sealing and appending -/

/-- The part under the ledger's mutex, for the input that is built around the
issued number. -/
def sealNumbered (crate : Crate) (moment : Moment) (s : CapsuleState) (counterparty : String)
    (input : ℕ × Option ℕ → CapsuleInput) : Except EmitError Json × CapsuleState :=
  let (number, counters) := s.sequenceCounters.nextSeq s.nodeId counterparty
  let counted := { s with sequenceCounters := counters }
  if moment.counterSaves then
    match crate.sealCapsule (input number) with
    | none => (.error .sealing, counted)
    | some capsule =>
        if moment.appends then
          (.ok capsule, { counted with ledger := s.ledger ++ [capsule] })
        else (.error .append, counted)
  else (.error .counter, if moment.counterKeeps then counted else s)

/-- The members of the provenance that both paths fill alike, from the host's
facts. -/
def servingProvenance (host : HostProvenance) (servedByNodeId requestingParty : String)
    (exchangeId : Option String) (usage : Option TokenUsage) (number : ℕ × Option ℕ) :
    ServingProvenance where
  servedByNodeId := servedByNodeId
  dispatchPath := none
  requestingParty := requestingParty
  exchangeId := exchangeId.getD "unknown"
  quantization := host.quantization.getD "unknown"
  hardwareGpu := host.gpu
  hardwareVramBytes := host.vramBytes
  hardwareDevice := none
  hardwareIsSoc := host.isSoc
  hostname := host.hostname
  architecture := host.architecture
  contextLength := host.contextLength
  parameterSize := host.parameterSize
  layerCount := host.layerCount
  modelIdentityHash := host.modelIdentityHash
  weightsDigest := host.weightsDigest
  modelCanonicalRef := host.modelCanonicalRef
  modelRevision := host.modelRevision
  usage := usage
  seq := number.1
  prevSeq := number.2
  peerCapsuleId := none
  peerCapsuleIdProvenance := none
  twinBracketId := none

def DEVELOPER : String := "capsule-producer/0.3.0"

/-- The members of the input that both paths fill alike. -/
def capsuleInput (moment : Moment) (s : CapsuleState) (model : String) (mesh : MeshPocV1) :
    CapsuleInput where
  actionId := ""
  actionType := "decide"
  operator := "capsule-emit-mesh-poc-rust"
  developer := DEVELOPER
  timestamp := moment.timestamp
  domain := some "action"
  provenance := some "collector"
  modelId := model
  provider := "mesh-llm"
  agentInputDigest := ""
  agentOutputDigest := none
  toolCallsDigest := none
  reasoningDigest := none
  hostBinding := none
  runtime := .null
  computeAttestationExtensions := extensions mesh model
  effectStatus := "confirmed"
  effectType := "inference_completion"
  effectRequestDigest := none
  effectResponseDigest := none
  effectAttestation := ""
  dispositionDecision := "accept"
  dispositionApprover := "policy"
  dispositionHumanDisposed := false
  dispositionVerdictClass := "executed"
  chain := s.chainHead.map fun parent => ⟨parent, "follows"⟩
  storeNonce := moment.storeNonce

/-! ## `emit_for_exchange` -/

/-- `requesting_party.unwrap_or("unknown")`. -/
def ExchangeRecord.counterparty (exchange : ExchangeRecord) : String :=
  exchange.requestingParty.getD "unknown"

def ExchangeRecord.host (exchange : ExchangeRecord) : HostProvenance :=
  exchange.hostProvenance.getD {}

def ExchangeRecord.servedBy (exchange : ExchangeRecord) (learned : Option String) : String :=
  exchange.host.servedByNodeId.getD (learned.getD "unknown")

def ExchangeRecord.meshPoc (crate : Crate) (moment : Moment) (exchange : ExchangeRecord)
    (learned : Option String) (number : ℕ × Option ℕ) : MeshPocV1 where
  clientNonce := exchange.clientNonce.getD "sidecar-generated"
  clientNonceSource :=
    if exchange.clientNonce.isSome then "client_supplied" else "sidecar_generated_fallback"
  modelNameDigest := crate.hexSha256 exchange.model
  servingProvenance := servingProvenance exchange.host (exchange.servedBy learned)
    exchange.counterparty exchange.exchangeId (parseUsage crate exchange.responseBytes) number
  role := "served"
  observationPoint := none
  generationParameters := parseGenerationParameters crate exchange.requestBytes
  latencyMs := exchange.latencyMs
  binaryAttestation := moment.binaryAttestation
  teeAttestation := none

def ExchangeRecord.input (crate : Crate) (moment : Moment) (s : CapsuleState)
    (exchange : ExchangeRecord) (inputDigest outputDigest : String) (number : ℕ × Option ℕ) :
    CapsuleInput :=
  { capsuleInput moment s exchange.model
      (exchange.meshPoc crate moment s.learnedSelfNodeId.value number) with
    actionId := "mesh-poc/capsule-emit-mesh-integration/" ++ inputDigest
    agentInputDigest := inputDigest
    agentOutputDigest := some outputDigest
    toolCallsDigest := (outputSubDigests crate exchange.responseBytes).1
    reasoningDigest := (outputSubDigests crate exchange.responseBytes).2
    runtime := runtimeField "admission-policy-plugin/mesh-llm-host-runtime"
      moment.binaryAttestation
    effectRequestDigest := some inputDigest
    effectResponseDigest := some outputDigest
    effectAttestation := "gate_executed" }

def emitForExchange (crate : Crate) (moment : Moment) (s : CapsuleState)
    (exchange : ExchangeRecord) : Except EmitError Json × CapsuleState :=
  match canonicalBodyDigest crate exchange.requestBytes,
      canonicalBodyDigest crate exchange.responseBytes with
  | some inputDigest, some outputDigest =>
      sealNumbered crate moment s exchange.counterparty
        (exchange.input crate moment s inputDigest outputDigest)
  | _, _ => (.error .digest, s)

/-! ## `emit_for_observed_host_exchange` -/

/-- A locally served event that names its server tells this node who it is. -/
def CapsuleState.learn (s : CapsuleState) (saves : Bool) (observed : ObservedHostExchange) :
    CapsuleState :=
  if roleForDispatchPath observed.dispatchPath = "served" then
    match observed.hostProvenance.servedByNodeId with
    | some servedBy => { s with learnedSelfNodeId := s.learnedSelfNodeId.observe saves servedBy }
    | none => s
  else s

def ObservedHostExchange.servedBy (observed : ObservedHostExchange)
    (learnedSelf : Option String) : String :=
  observed.hostProvenance.servedByNodeId.getD
    (if roleForDispatchPath observed.dispatchPath = "served" then learnedSelf.getD "unknown"
     else "unknown")

/-- What is digested when the host forwarded no response digest. -/
def ObservedHostExchange.outputFacts (observed : ObservedHostExchange) : Json :=
  .obj ([("model", .str observed.model)] ++
    (observed.usage.map fun usage => ("usage", usage.toValue)).toList)

def ObservedHostExchange.outputDigest (crate : Crate) (observed : ObservedHostExchange) :
    Option String :=
  match observed.responseDigest with
  | some rd => some rd
  | none => crate.jsonDigest observed.outputFacts

def ObservedHostExchange.meshPoc (crate : Crate) (moment : Moment)
    (observed : ObservedHostExchange) (learnedSelf : Option String) (number : ℕ × Option ℕ) :
    MeshPocV1 where
  clientNonce := observed.nonce.getD "host-served-no-nonce"
  clientNonceSource :=
    if observed.nonce.isSome then "host_forwarded_nonce" else "host_served_observed"
  modelNameDigest := crate.hexSha256 observed.model
  servingProvenance :=
    { servingProvenance observed.hostProvenance (observed.servedBy learnedSelf) "unknown"
        observed.exchangeId observed.usage number with
      dispatchPath := some (dispatchPathWireValue observed.dispatchPath)
      peerCapsuleId := observed.peerCapsuleId
      peerCapsuleIdProvenance := observed.peerCapsuleIdProvenance
      twinBracketId := observed.twinBracketId }
  role := (roleAndObservationPoint observed.dispatchPath observed.hostProvenance.servedByNodeId
    learnedSelf).1
  observationPoint := (roleAndObservationPoint observed.dispatchPath
    observed.hostProvenance.servedByNodeId learnedSelf).2
  generationParameters := []
  latencyMs := "0.000"
  binaryAttestation := moment.binaryAttestation
  teeAttestation := none

def ObservedHostExchange.input (crate : Crate) (moment : Moment) (s : CapsuleState)
    (observed : ObservedHostExchange) (learnedSelf : Option String) (outputDigest : String)
    (number : ℕ × Option ℕ) : CapsuleInput :=
  let inputDigest := observed.requestDigest.getD ("unknown-request:" ++ observed.model)
  { capsuleInput moment s observed.model (observed.meshPoc crate moment learnedSelf number) with
    actionId := "mesh-poc/capsule-emit-mesh-host-served/" ++ inputDigest
    agentInputDigest := inputDigest
    agentOutputDigest := some outputDigest
    toolCallsDigest := observed.toolCallsDigest
    reasoningDigest := observed.reasoningDigest
    hostBinding := observed.requestDigest.map fun rd =>
      ⟨rd, "mesh-llm/request-body-sha256/v1", "host-log-join"⟩
    runtime := runtimeField "observer/admission-policy-plugin" moment.binaryAttestation
    effectRequestDigest := observed.requestDigest
    effectResponseDigest := some outputDigest
    effectAttestation := "host_served_observed" }

/-- The rest of the function, for the identity it read after learning. -/
def sealObserved (crate : Crate) (moment : Moment) (s : CapsuleState)
    (observed : ObservedHostExchange) (learnedSelf : Option String) :
    Except EmitError Json × CapsuleState :=
  match observed.outputDigest crate with
  | some outputDigest =>
      sealNumbered crate moment s "unknown"
        (observed.input crate moment s learnedSelf outputDigest)
  | none => (.error .digest, s)

def emitForObservedHostExchange (crate : Crate) (moment : Moment) (saves : Bool)
    (s : CapsuleState) (observed : ObservedHostExchange) :
    Except EmitError Json × CapsuleState :=
  let learnt := s.learn saves observed
  sealObserved crate moment learnt observed learnt.learnedSelfNodeId.value

end CapsuleMesh.Plugin
