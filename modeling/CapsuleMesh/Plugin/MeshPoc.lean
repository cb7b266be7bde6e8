import CapsuleMesh.Sequence.Continuity

/-!
# The mesh members of a plugin capsule

`mesh_poc.rs`: the `x-mesh-poc-v1` block, its serving provenance and the compute
attestation members derived from them.  Sealing hands these members to the
capsule unchanged, so what the verifier's `extract_pair_seq` finds in a plugin
capsule is decided here: the provenance names two ends and has no `role`.
-/

namespace CapsuleMesh.Plugin

open Python Sequence

structure TokenUsage where
  promptTokens : ℕ
  completionTokens : ℕ
  totalTokens : ℕ
deriving DecidableEq

def TokenUsage.toValue (usage : TokenUsage) : Json :=
  .obj
    [("prompt_tokens", .int usage.promptTokens),
     ("completion_tokens", .int usage.completionTokens),
     ("total_tokens", .int usage.totalTokens)]

def ofNat? (n : Option ℕ) : Json := Json.ofInt? (n.map Int.ofNat)

def ofBool? : Option Bool → Json
  | some b => .bool b
  | none => .null

structure ServingProvenance where
  servedByNodeId : String
  dispatchPath : Option String
  requestingParty : String
  exchangeId : String
  quantization : String
  hardwareGpu : Option String
  hardwareVramBytes : Option ℕ
  hardwareDevice : Option String
  hardwareIsSoc : Option Bool
  hostname : Option String
  architecture : Option String
  contextLength : Option ℕ
  parameterSize : Option String
  layerCount : Option ℕ
  modelIdentityHash : Option String
  weightsDigest : Option String
  modelCanonicalRef : Option String
  modelRevision : Option String
  usage : Option TokenUsage
  seq : ℕ
  prevSeq : Option ℕ
  peerCapsuleId : Option String
  peerCapsuleIdProvenance : Option String
  twinBracketId : Option String

def ServingProvenance.toValue (sp : ServingProvenance) : Json :=
  .obj
    ([("served_by_node_id", .str sp.servedByNodeId),
      ("dispatch_path", .ofStr? sp.dispatchPath),
      ("requesting_party", .str sp.requestingParty),
      ("exchange_id", .str sp.exchangeId),
      ("hostname", .ofStr? sp.hostname),
      ("quantization", .str sp.quantization),
      ("model", .obj
        [("architecture", .ofStr? sp.architecture),
         ("context_length", ofNat? sp.contextLength),
         ("parameter_size", .ofStr? sp.parameterSize),
         ("layer_count", ofNat? sp.layerCount),
         ("identity_hash", .ofStr? sp.modelIdentityHash),
         ("weights_digest", .ofStr? sp.weightsDigest),
         ("canonical_ref", .ofStr? sp.modelCanonicalRef),
         ("revision", .ofStr? sp.modelRevision)]),
      ("hardware", .obj
        [("gpu", .ofStr? sp.hardwareGpu),
         ("vram_bytes", ofNat? sp.hardwareVramBytes),
         ("device", .ofStr? sp.hardwareDevice),
         ("is_soc", ofBool? sp.hardwareIsSoc)]),
      ("usage", (sp.usage.map TokenUsage.toValue).getD .null),
      ("seq", .int sp.seq),
      ("prev_seq", ofNat? sp.prevSeq),
      ("peer_capsule_id", .ofStr? sp.peerCapsuleId),
      ("peer_capsule_id_provenance", .ofStr? sp.peerCapsuleIdProvenance)] ++
     -- left out, never null, when the exchange was not twinned
     (sp.twinBracketId.map fun id => ("twin_bracket_id", Json.str id)).toList)

/-- A measured serving binary: the block it is sealed as, and what the
`runtime` member repeats of it. -/
structure BinaryAttestation where
  value : Json
  binarySha256 : String
  measurementClass : String
  sipEnabled : Option Bool

def BinaryAttestation.runtimeValue (att : BinaryAttestation) (runtimeName : String) : Json :=
  .obj
    ([("name", .str runtimeName),
      ("runtime_digest", .str att.binarySha256),
      ("measurement_class", .str att.measurementClass)] ++
     (att.sipEnabled.map fun sip => ("platform_integrity", Json.obj
        [("sip_enabled", .bool sip),
         ("source", .obj [("sip_enabled", .str "os_reported")])])).toList)

structure MeshPocV1 where
  clientNonce : String
  clientNonceSource : String
  modelNameDigest : String
  servingProvenance : ServingProvenance
  role : String
  observationPoint : Option String
  generationParameters : List (String × Json)
  latencyMs : String
  binaryAttestation : Option BinaryAttestation
  teeAttestation : Option Json

/-- The slot of an attestation that was not taken. -/
def emptyAttestation (type context : String) : Json :=
  .obj
    [("type", .str type),
     ("measurement_class", .null),
     ("digest", .null),
     ("context", .str context)]

def MeshPocV1.toValue (mesh : MeshPocV1) : Json :=
  .obj
    [("client_nonce", .str mesh.clientNonce),
     ("client_nonce_source", .str mesh.clientNonceSource),
     ("model_name_digest", .str mesh.modelNameDigest),
     ("serving_provenance", mesh.servingProvenance.toValue),
     ("role", .str mesh.role),
     ("observation_point", .ofStr? mesh.observationPoint),
     ("generation_parameters", .obj mesh.generationParameters),
     ("latency_ms", .str mesh.latencyMs),
     ("evidence_refs", .obj
       [("statistical_fingerprint", .obj
          [("type", .str "statistical_fingerprint"), ("digest", .null), ("context", .null)]),
        ("tee_attestation", mesh.teeAttestation.getD (emptyAttestation "tee_attestation"
          "no TEE quote measured (no TDX hardware on this host, or the producer leg has not run here); recorded absent, never fabricated")),
        ("binary_attestation", (mesh.binaryAttestation.map BinaryAttestation.value).getD
          (emptyAttestation "binary_attestation"
            "binary not measured (path unresolvable or file unreadable); recorded absent, never fabricated"))])]

def epistemicTypeForRole (role : String) : Option String :=
  if role = "served" then some "producer_claim"
  else if role = "requested" then some "observed_event"
  else none

/-! ## The members in the order they are committed -/

/-- A fact of the model or the hardware: its member, its value and the source
label that goes with it. -/
abbrev Fact := String × Json × String

def factMembers (facts : List Fact) : List (String × Json) :=
  facts.map fun fact => (fact.1, fact.2.1)

def factSources (facts : List Fact) : Json :=
  .obj (facts.map fun fact => (fact.1, .str fact.2.2))

def modelFacts (mesh : MeshPocV1) : List Fact :=
  let sp := mesh.servingProvenance
  let decoding := ["temperature", "seed"].filterMap fun key =>
    (mesh.generationParameters.lookup key).map fun value => (key, value)
  (sp.modelRevision.map fun rev => ("model_revision", Json.str rev, "self_reported")).toList ++
  (sp.weightsDigest.map fun wd => ("weights_digest", Json.obj
    [("digest_alg", .str "SHA-256"), ("digest", .str wd), ("scope", .str "file")],
    "computed")).toList ++
  (if sp.quantization = "unknown" then []
    else [("quantization", Json.str sp.quantization, "self_reported")]) ++
  (if decoding.isEmpty then [] else [("decoding", Json.obj decoding, "self_reported")])

def hardwareFacts (sp : ServingProvenance) : List Fact :=
  (sp.hardwareGpu.map fun gpu => ("accelerator", Json.str gpu, "os_reported")).toList ++
  (sp.hardwareVramBytes.map fun vram => ("memory_bytes", Json.int vram, "os_reported")).toList

def invocationFacts (sp : ServingProvenance) (modelId : String) : List Fact :=
  [("requested_model_id", .str modelId, "self_reported"),
   ("resolved_model_id", .str modelId, "self_reported")] ++
  (sp.usage.map fun usage => ("usage", usage.toValue, "provider_reported")).toList

def withSources (facts : List Fact) : Json :=
  .obj (factMembers facts ++ [("source", factSources facts)])

def extensions (mesh : MeshPocV1) (modelId : String) : List (String × Json) :=
  let sp := mesh.servingProvenance
  factMembers (modelFacts mesh) ++
  (if (modelFacts mesh).isEmpty then [] else [("source", factSources (modelFacts mesh))]) ++
  (if (hardwareFacts sp).isEmpty then [] else [("hardware", withSources (hardwareFacts sp))]) ++
  [("invocation", withSources (invocationFacts sp modelId))] ++
  ((epistemicTypeForRole mesh.role).map fun type => ("epistemic_type", Json.str type)).toList ++
  [("x-mesh-poc-v1", mesh.toValue)]

/-! ## Reading the block back -/

theorem lookup_extensions (mesh : MeshPocV1) (modelId : String) :
    (extensions mesh modelId).lookup "x-mesh-poc-v1" = some mesh.toValue := by
  unfold extensions
  rw [List.lookup_append, Option.or_eq_some_iff]
  right
  refine ⟨?_, by simp⟩
  -- no member before the block bears its name
  rw [List.lookup_eq_none_iff]
  intro member hmember
  simp only [factMembers, modelFacts, List.mem_append] at hmember
  aesop

/-- The pair under which the verifier counts a record that carries the block. -/
theorem extractPairSeq_of_pocBlock {capsule : Json} {mesh : MeshPocV1}
    (h : pocBlock capsule = .ok mesh.toValue) :
    extractPairSeq capsule = .ok (some
      ⟨orUnknown (some mesh.servingProvenance.servedByNodeId),
       orUnknown (some mesh.servingProvenance.requestingParty),
       mesh.servingProvenance.seq, .issued (mesh.servingProvenance.prevSeq.map Int.ofNat)⟩) := by
  have hget : mesh.toValue.get "serving_provenance" = .ok mesh.servingProvenance.toValue := rfl
  simp only [extractPairSeq, h, hget, Py.ok_bind]
  -- with or without a twin bracket the provenance has no `role`
  cases htwin : mesh.servingProvenance.twinBracketId <;>
    simp [ServingProvenance.toValue, htwin, Json.or_of_truthy, List.lookup_cons, Json.isNull,
      pairEnds, ofNat?, str_or_unknown, Json.pyStr]

end CapsuleMesh.Plugin
