import CapsuleMesh.Python.Bytes

/-!
# The owner certificate of a node

`node_ownership.py`: the certificate mesh-llm issues, its canonical bytes, the
re-check made before it is cited, and the owner block that `build_capsule` seals.
The Ed25519 library and SHA-256 are parameters.
-/

namespace CapsuleMesh.Ownership

open Python

def NODE_OWNERSHIP_VERSION : Int := 1

def SIGNING_DOMAIN_TAG : Bytes := utf8 "mesh-llm-node-ownership-v1:"

def IDENTITY_LIMITATION_CAVEAT : String :=
  "opt-in-self-asserted-owner-identity: this owner->node binding is an " ++
  "OPT-IN mesh-llm feature (off by default) whose owner key is " ++
  "self-generated and self-held. The cert is signed under the owner's OWN " ++
  "key with no third-party-issued credential or trusted root behind it. " ++
  "recheck_ownership_validity() confirms the cert's own signature verifies, " ++
  "the claimed owner_id matches its embedded key, the node_endpoint_id " ++
  "matches this node, and the cert is unexpired — it does NOT prove the " ++
  "owner_id corresponds to any real person or organisation. First-use " ++
  "acceptance of a self-asserted owner MUST NOT be treated as externally " ++
  "verified identity; any account of facts attached to it is only as " ++
  "durable as that self-assertion. Mirrors requester_commitment.IDENTITY_LIMITATION_CAVEAT " ++
  "for the cross-party block."

structure NodeOwnershipClaim where
  version : Int
  certId : String
  ownerId : String
  ownerSignPublicKey : String
  nodeEndpointId : String
  issuedAtUnixMs : Int
  expiresAtUnixMs : Int
  nodeLabel : Option String
  hostnameHint : Option String
deriving DecidableEq

structure SignedNodeOwnership where
  claim : NodeOwnershipClaim
  signature : String
deriving DecidableEq

/-- The cryptography the certificate check calls. -/
structure CertCrypto where
  /-- `Ed25519PublicKey.from_public_bytes(key).verify(signature, message)` does not
  raise `InvalidSignature`. -/
  verify : (key signature message : Bytes) → Bool
  sha256Hex : Bytes → String

def writeString (value : String) : Py Bytes := do
  let encoded := utf8 value
  return (← toBytesLittle encoded.length 8) ++ encoded

def writeOptionalString : Option String → Py Bytes
  | none => .ok [0]
  | some value => do return 1 :: (← writeString value)

def canonicalClaimBytes (claim : NodeOwnershipClaim) : Py Bytes := do
  let ownerKey ← bytesFromHex claim.ownerSignPublicKey
  let nodeId ← bytesFromHex claim.nodeEndpointId
  if ownerKey.length ≠ 32 then
    throw (.valueError "owner_sign_public_key must be 32 bytes")
  if nodeId.length ≠ 32 then
    throw (.valueError "node_endpoint_id must be 32 bytes")
  let version ← toBytesLittle claim.version 4
  let certId ← writeString claim.certId
  let ownerId ← writeString claim.ownerId
  let issuedAt ← toBytesLittle claim.issuedAtUnixMs 8
  let expiresAt ← toBytesLittle claim.expiresAtUnixMs 8
  let nodeLabel ← writeOptionalString claim.nodeLabel
  let hostnameHint ← writeOptionalString claim.hostnameHint
  return SIGNING_DOMAIN_TAG ++ version ++ certId ++ ownerId ++ ownerKey ++ nodeId ++
    issuedAt ++ expiresAt ++ nodeLabel ++ hostnameHint

def ownerCertDigest (crypto : CertCrypto) (ownership : SignedNodeOwnership) : Py String := do
  let claimBytes ← canonicalClaimBytes ownership.claim
  let sigBytes ← bytesFromHex ownership.signature
  return crypto.sha256Hex (claimBytes ++ sigBytes)

def ownerCertReference (crypto : CertCrypto) (ownership : SignedNodeOwnership) : Py Json := do
  let digest ← ownerCertDigest crypto ownership
  return .obj [("type", .str "owner_cert"), ("digest_alg", .str "SHA-256"), ("digest", .str digest)]

structure OwnershipRecheck where
  valid : Bool
  reason : String
  ownerId : Option String
  certId : Option String
  expiresAtUnixMs : Option Int
  nodeLabel : Option String
deriving DecidableEq

/-- The signature over the canonical claim, with the exceptions the source catches
turned into the reason it records. -/
def checkSignature (crypto : CertCrypto) (ownership : SignedNodeOwnership) : Py (Option String) :=
  let checked : Py Bool := do
    let canonical ← canonicalClaimBytes ownership.claim
    let key ← bytesFromHex ownership.claim.ownerSignPublicKey
    let signature ← bytesFromHex ownership.signature
    return crypto.verify key signature canonical
  match checked with
  | .ok true => .ok none
  | .ok false => .ok (some "owner signature over the canonical claim failed to verify")
  | .error (.valueError text) => .ok (some ("malformed cert key/signature: " ++ text))
  | .error error => .error error

def recheckOwnershipValidity (crypto : CertCrypto) (ownership : SignedNodeOwnership)
    (expectedNodeEndpointId : String) (now : Int) : Py OwnershipRecheck :=
  let claim := ownership.claim
  let recheck (valid : Bool) (reason : String) : OwnershipRecheck :=
    ⟨valid, reason, some claim.ownerId, some claim.certId, some claim.expiresAtUnixMs,
      claim.nodeLabel⟩
  if claim.version ≠ NODE_OWNERSHIP_VERSION then
    .ok (recheck false ("unsupported ownership claim version: " ++ toString claim.version))
  else if claim.nodeEndpointId ≠ expectedNodeEndpointId then
    .ok (recheck false ("node_endpoint_id mismatch: cert binds " ++
      pyRepr claim.nodeEndpointId ++ ", this node is " ++ pyRepr expectedNodeEndpointId))
  else do
    match ← checkSignature crypto ownership with
    | some reason => return recheck false reason
    | none =>
        if claim.expiresAtUnixMs ≤ now then
          return recheck false ("cert expired: expires_at_unix_ms=" ++
            toString claim.expiresAtUnixMs ++ " <= now=" ++ toString now)
        else
          return recheck true
            "owner cert re-check passed: self-signature valid, node id matches, unexpired"

/-- `owner_provenance_block`: the owner block of a serving capsule. -/
def ownerProvenanceBlock (crypto : CertCrypto) (ownership : Option SignedNodeOwnership)
    (expectedNodeEndpointId : String) (identityCapsuleId : Option String) (now : Int) : Py Json :=
  match ownership with
  | none =>
      .ok (.obj
        [("owner_status", .str "absent"),
         ("owner_id", .null),
         ("identity_capsule_id", .null),
         ("owner_cert_ref", .null),
         ("recheck_reason",
           .str "no owner cert present (owner identity is opt-in / off by default)"),
         ("identity_limitation", .null)])
  | some ownership => do
      let recheck ← recheckOwnershipValidity crypto ownership expectedNodeEndpointId now
      let certRef ← if recheck.valid then ownerCertReference crypto ownership else pure .null
      return .obj
        [("owner_status", .str (if recheck.valid then "bound" else "invalid")),
         ("owner_id", .ofStr? recheck.ownerId),
         ("cert_id", .ofStr? recheck.certId),
         ("node_endpoint_id", .str expectedNodeEndpointId),
         ("expires_at_unix_ms", .ofInt? recheck.expiresAtUnixMs),
         ("node_label", .ofStr? recheck.nodeLabel),
         ("identity_capsule_id", if recheck.valid then .ofStr? identityCapsuleId else .null),
         ("owner_cert_ref", certRef),
         ("recheck_valid", .bool recheck.valid),
         ("recheck_reason", .str recheck.reason),
         ("identity_limitation", .str IDENTITY_LIMITATION_CAVEAT)]

/-- A certificate that passes the re-check is sealed as bound, under its owner id. -/
theorem ownerProvenanceBlock_bound {crypto : CertCrypto} {ownership : SignedNodeOwnership}
    {endpoint : String} {now : Int} {recheck : OwnershipRecheck} {digest : String}
    (hrecheck : recheckOwnershipValidity crypto ownership endpoint now = .ok recheck)
    (hvalid : recheck.valid = true) (hdigest : ownerCertDigest crypto ownership = .ok digest)
    (identityCapsuleId : Option String) :
    ∃ block, ownerProvenanceBlock crypto (some ownership) endpoint identityCapsuleId now =
        .ok block ∧
      block.get "owner_status" = .ok (.str "bound") ∧
      block.get "owner_id" = .ok (.ofStr? recheck.ownerId) := by
  simp only [ownerProvenanceBlock, hrecheck, Py.ok_bind, hvalid, if_true, ownerCertReference,
    hdigest, Py.pure_eq_ok]
  exact ⟨_, rfl, rfl, rfl⟩

end CapsuleMesh.Ownership
