import CapsuleMesh.Python.Canonical

/-!
# The verifier of a delegation chain

`delegation_chain_verifier.py`: the owner signs a delegation to a plugin key and an
ownership document of the node, and the plugin key signs a capsule.  The verifier
runs its checks in order and stops at the first one that fails.
-/

namespace CapsuleMesh.Delegation

open Python

def DELEGATION_DOMAIN_TAG : Bytes := utf8 "mesh-llm-plugin-signing-delegation-v1:"

def CAPSULE_EMIT_SCOPE : String := "mesh.inference.capsule.sign.v1"

inductive VerifyStep where
  | coseSignature
  | delegationSignature
  | ownerIdDerivation
  | nodeOwnership
  | expiryRevocation
  | releaseAttestation
deriving DecidableEq

inductive RejectionCode where
  | badSignature
  | expired
  | revoked
  | mismatchedNode
  | mismatchedPlugin
  | wrongScope
  | ownerIdMismatch
  | delegationSignatureInvalid
  | nodeOwnershipSignatureInvalid
  | malformed
deriving DecidableEq

structure VerifyResult where
  ok : Bool
  rejection : Option RejectionCode
  step : Option VerifyStep
  detail : String
deriving DecidableEq

def pass (step : Option VerifyStep) : VerifyResult := ⟨true, none, step, "ok"⟩

def reject (code : RejectionCode) (step : Option VerifyStep) (detail : String) : VerifyResult :=
  ⟨false, some code, step, detail⟩

/-- A decoded COSE_Sign1. -/
structure CoseSign1 where
  protectedHeader : Bytes
  payload : Bytes
  signature : Bytes

/-- Ed25519, SHA-256, CBOR and the texts of exceptions. -/
structure Crypto where
  PrivateKey : Type
  publicBytes : PrivateKey → Bytes
  sign : PrivateKey → Bytes → Bytes
  /-- `from_public_bytes` accepts these 32 bytes. -/
  isPoint : Bytes → Bool
  verify : (key signature message : Bytes) → Bool
  sha256Hex : Bytes → String
  parseCose : Bytes → Py CoseSign1
  sigStructure : CoseSign1 → Bytes
  excText : PyError → String

def rawPublicKeyBytes (hexPub : String) : Py Bytes := do
  let raw ← bytesFromHex hexPub
  if raw.length = 32 then return raw
  else throw (.valueError ("Ed25519 public key must be 32 bytes, got " ++ toString raw.length))

def loadEd25519Pubkey (crypto : Crypto) (hexPub : String) : Py Bytes := do
  let raw ← rawPublicKeyBytes hexPub
  if crypto.isPoint raw then return raw else throw (.valueError "invalid public key")

def deriveOwnerId (crypto : Crypto) (hexPub : String) : Py String := do
  return crypto.sha256Hex (← rawPublicKeyBytes hexPub)

/-- The dictionary without some of its keys. -/
def without (keys : List String) : Json → Json
  | .obj members => .obj (members.filter fun m => decide (m.1 ∉ keys))
  | j => j

/-! ## The numbered steps -/

def verifyCoseCapsule (crypto : Crypto) (capsule : Bytes) (delegatedPub : Json) : VerifyResult :=
  let checked : Py Bool := do
    let msg ← crypto.parseCose capsule
    let key ← loadEd25519Pubkey crypto (← delegatedPub.toStr)
    return crypto.verify key msg.signature (crypto.sigStructure msg)
  match checked with
  | .ok true => pass (some .coseSignature)
  | .ok false => reject .badSignature (some .coseSignature)
      "COSE_Sign1 signature did not verify with delegated signing public key"
  | .error e => reject .malformed (some .coseSignature)
      ("malformed COSE capsule: " ++ crypto.excText e)

/-- A `_sig` over a message, under the owner key that the delegation names; `none` when
there is no `_sig`. -/
def checkSigned (crypto : Crypto) (document delegation : Json) (message : Bytes) :
    Py (Option Bool) := do
  let sig ← document.get "_sig"
  if sig.truthy then do
    let key ← loadEd25519Pubkey crypto (← (← delegation.item "owner_sign_public_key").toStr)
    let signature ← bytesFromHex (← sig.toStr)
    return some (crypto.verify key signature message)
  else return none

def verifyDelegationSignature (crypto : Crypto) (delegation : Json) : VerifyResult :=
  let message := DELEGATION_DOMAIN_TAG ++ jcs (without ["_sig"] delegation)
  match checkSigned crypto delegation delegation message with
  | .ok (some true) => pass (some .delegationSignature)
  | .ok (some false) => reject .delegationSignatureInvalid (some .delegationSignature)
      "PluginSigningDelegationV1 signature did not verify with owner public key"
  | .ok none => reject .malformed (some .delegationSignature)
      "delegation document missing _sig field"
  | .error e => reject .malformed (some .delegationSignature)
      ("malformed delegation document: " ++ crypto.excText e)

def verifyOwnerIdDerivation (crypto : Crypto) (delegation : Json) : Py VerifyResult := do
  let expected ← deriveOwnerId crypto (← (← delegation.item "owner_sign_public_key").toStr)
  let actual ← delegation.get "owner_id"
  if actual.pyEq (.str expected) then return pass (some .ownerIdDerivation)
  else
    return reject .ownerIdMismatch (some .ownerIdDerivation) ("owner_id " ++ actual.pyRepr ++
      " does not match derivation from owner public key " ++ pyRepr expected)

/-- The body of an ownership document that its signature and its id are over. -/
def ownershipBytes (nodeOwnership : Json) : Bytes := jcs (without ["_sig", "cert_id"] nodeOwnership)

/-- Steps 4b to 4d. -/
def verifyOwnershipBinding (crypto : Crypto) (nodeOwnership delegation : Json) :
    Py VerifyResult := do
  let step := some VerifyStep.nodeOwnership
  let owner ← nodeOwnership.get "owner_id"
  let delegationOwner ← delegation.get "owner_id"
  if !owner.pyEq delegationOwner then
    return reject .mismatchedNode step ("SignedNodeOwnership.owner_id " ++ owner.pyRepr ++
      " != delegation.owner_id " ++ delegationOwner.pyRepr)
  else do
    let node ← nodeOwnership.get "node_endpoint_id"
    let delegationNode ← delegation.get "node_endpoint_id"
    if !node.pyEq delegationNode then
      return reject .mismatchedNode step ("SignedNodeOwnership.node_endpoint_id " ++ node.pyRepr ++
        " != delegation.node_endpoint_id " ++ delegationNode.pyRepr)
    else do
      let expected := crypto.sha256Hex (ownershipBytes nodeOwnership)
      let certId ← nodeOwnership.get "cert_id"
      if !certId.pyEq (.str expected) then
        return reject .mismatchedNode step ("node_ownership.cert_id " ++ certId.pyRepr ++
          " != SHA-256(signed_bytes) " ++ pyRepr expected)
      else do
        let cited ← delegation.get "node_ownership_cert_id"
        if !cited.pyEq (.str expected) then
          return reject .mismatchedNode step ("delegation.node_ownership_cert_id " ++
            cited.pyRepr ++ " != SHA-256(node_ownership signed bytes) " ++ pyRepr expected)
        else return pass step

def verifyNodeOwnership (crypto : Crypto) (nodeOwnership delegation : Json) : Py VerifyResult :=
  let step := some VerifyStep.nodeOwnership
  match checkSigned crypto nodeOwnership delegation (ownershipBytes nodeOwnership) with
  | .ok (some true) => verifyOwnershipBinding crypto nodeOwnership delegation
  | .ok (some false) => .ok (reject .nodeOwnershipSignatureInvalid step
      "SignedNodeOwnership signature did not verify with owner public key")
  | .ok none => .ok (reject .malformed step "node_ownership missing _sig field")
  | .error e =>
      .ok (reject .malformed step ("malformed node_ownership document: " ++ crypto.excText e))

/-- The parts of a revocation list. -/
structure RevocationList where
  revokedDelegations : List String
  revokedNodes : List String
  revokedOwners : List String

/-- `now_ms > document.get("expires_at_unix_ms")`, with the time. -/
def expiredAt (document : Json) (nowMs : Int) : Py (Option Int) := do
  match ← (← document.get "expires_at_unix_ms").toIntOrNone with
  | none => return none
  | some expires => return if expires < nowMs then some expires else none

def listed (j : Json) (ids : List String) : Bool := ids.any fun id => j.pyEq (.str id)

@[simp] theorem listed_str (id : String) (ids : List String) :
    listed (.str id) ids = decide (id ∈ ids) := by
  rw [Bool.eq_iff_iff]
  simp [listed, Json.pyEq, List.any_eq_true]

def verifyExpiryAndRevocation (delegation nodeOwnership : Json) (revocations : RevocationList)
    (nowMs : Int) : Py VerifyResult := do
  let step := some VerifyStep.expiryRevocation
  match ← expiredAt delegation nowMs with
  | some expires =>
      return reject .expired step ("delegation expired at " ++ toString expires ++ "ms, now=" ++
        toString nowMs ++ "ms")
  | none => do
      let id ← delegation.get "delegation_id"
      let node ← delegation.get "node_endpoint_id"
      let owner ← delegation.get "owner_id"
      if listed id revocations.revokedDelegations then
        return reject .revoked step ("delegation_id " ++ id.pyRepr ++ " is in revocation list")
      else if listed node revocations.revokedNodes then
        return reject .revoked step ("node_endpoint_id " ++ node.pyRepr ++ " is in revocation list")
      else if listed owner revocations.revokedOwners then
        return reject .revoked step ("owner_id " ++ owner.pyRepr ++ " is in revocation list")
      else
        match ← expiredAt nodeOwnership nowMs with
        | some expires =>
          return reject .expired step ("node_ownership expired at " ++ toString expires ++
            "ms, now=" ++ toString nowMs ++ "ms")
        | none => return pass step

def verifyReleaseAttestation (releaseAttestation : Option Json) (delegation : Json) :
    Py VerifyResult :=
  let step := some VerifyStep.releaseAttestation
  match releaseAttestation with
  | none => .ok ⟨true, none, step, "not supplied (optional)"⟩
  | some attestation => do
      let pluginId ← attestation.get "plugin_id"
      let delegated ← delegation.get "plugin_id"
      if pluginId.pyEq delegated then
        return ⟨true, none, step, "present (stub: trust anchor not yet defined by #1331)"⟩
      else return reject .mismatchedPlugin step ("release_attestation.plugin_id " ++
        pluginId.pyRepr ++ " != delegation.plugin_id " ++ delegated.pyRepr)

/-! ## The semantic checks -/

/-- A member of the delegation against what the caller expects. -/
def verifyMember (key : String) (code : RejectionCode) (detail : Json → String) (delegation : Json)
    (expected : String) : Py VerifyResult := do
  let actual ← delegation.get key
  if actual.pyEq (.str expected) then return pass none
  else return reject code none (detail actual)

def verifyScope (delegation : Json) (expectedScope : String) : Py VerifyResult :=
  verifyMember "scope" .wrongScope (fun actual => "delegation scope " ++ actual.pyRepr ++
    " != expected scope " ++ pyRepr expectedScope) delegation expectedScope

def verifyPluginId (delegation : Json) (expectedPluginId : String) : Py VerifyResult :=
  verifyMember "plugin_id" .mismatchedPlugin (fun actual => "delegation.plugin_id " ++
    actual.pyRepr ++ " != expected " ++ pyRepr expectedPluginId) delegation expectedPluginId

def verifyNodeId (delegation : Json) (expectedNodeId : String) : Py VerifyResult :=
  verifyMember "node_endpoint_id" .mismatchedNode (fun actual => "delegation.node_endpoint_id " ++
    actual.pyRepr ++ " != expected " ++ pyRepr expectedNodeId) delegation expectedNodeId

/-! ## The chain -/

/-- What `verify_chain` is called with. -/
structure ChainInput where
  capsule : Bytes
  delegation : Json
  nodeOwnership : Json
  revocations : RevocationList
  expectedScope : String
  expectedPluginId : String
  expectedNodeId : String
  releaseAttestation : Option Json
  nowMs : Int

/-- The capsule's check, with the key that the delegation names. -/
def verifyCapsuleOf (crypto : Crypto) (capsule : Bytes) (delegation : Json) : Py VerifyResult := do
  return verifyCoseCapsule crypto capsule (← delegation.item "delegated_signing_public_key")

/-- The checks in their order. -/
def chainSteps (crypto : Crypto) (input : ChainInput) : List (Py VerifyResult) :=
  [verifyScope input.delegation input.expectedScope,
   verifyPluginId input.delegation input.expectedPluginId,
   verifyNodeId input.delegation input.expectedNodeId,
   verifyCapsuleOf crypto input.capsule input.delegation,
   .ok (verifyDelegationSignature crypto input.delegation),
   verifyOwnerIdDerivation crypto input.delegation,
   verifyNodeOwnership crypto input.nodeOwnership input.delegation,
   verifyExpiryAndRevocation input.delegation input.nodeOwnership input.revocations input.nowMs,
   verifyReleaseAttestation input.releaseAttestation input.delegation]

/-- The results up to the first failure. -/
def runSteps : List (Py VerifyResult) → Py (List VerifyResult)
  | [] => .ok []
  | step :: steps => do
      let result ← step
      if result.ok then return result :: (← runSteps steps) else return [result]

def verifyChain (crypto : Crypto) (input : ChainInput) : Py (List VerifyResult) :=
  runSteps (chainSteps crypto input)

/-- `chain_verdict`: the first failed step, or the last one. -/
def chainVerdict (results : List VerifyResult) : VerifyResult :=
  match results.find? (!·.ok) with
  | some failed => failed
  | none => results.getLast?.getD (reject .malformed none "no steps ran")

def Accepts (crypto : Crypto) (input : ChainInput) : Prop :=
  ∃ results, verifyChain crypto input = .ok results ∧ (chainVerdict results).ok = true

/-- The step returns a result that is in order. -/
def Passes (step : Py VerifyResult) : Prop := ∃ result, step = .ok result ∧ result.ok = true

theorem runSteps_ne_nil {steps : List (Py VerifyResult)} {results : List VerifyResult}
    (hsteps : steps ≠ []) (h : runSteps steps = .ok results) : results ≠ [] := by
  cases steps with
  | nil => exact absurd rfl hsteps
  | cons step steps =>
      rw [runSteps] at h
      obtain ⟨result, -, h⟩ := Py.bind_eq_ok.mp h
      split at h
      · obtain ⟨rest, -, h⟩ := Py.bind_eq_ok.mp h
        cases h
        exact List.cons_ne_nil _ _
      · cases h
        exact List.cons_ne_nil _ _

theorem runSteps_all_iff (steps : List (Py VerifyResult)) :
    (∃ results, runSteps steps = .ok results ∧ ∀ r ∈ results, r.ok = true) ↔
      ∀ step ∈ steps, Passes step := by
  induction steps with
  | nil => simp [runSteps]
  | cons step steps ih =>
      rw [List.forall_mem_cons, ← ih]
      cases step with
      | error e => simp [runSteps, Passes]
      | ok result =>
        cases hok : result.ok with
        | false => simp [runSteps, Passes, hok]
        | true =>
          constructor
          · rintro ⟨results, hresults, hall⟩
            simp only [runSteps, Py.ok_bind, hok, if_true, Py.bind_eq_ok] at hresults
            obtain ⟨rest, hrest, hresults⟩ := hresults
            obtain rfl := Except.ok.inj hresults
            exact ⟨⟨result, rfl, hok⟩, rest, hrest, fun r hr => hall r (by simp [hr])⟩
          · rintro ⟨-, rest, hrest, hall⟩
            refine ⟨result :: rest, by simp [runSteps, hok, hrest], ?_⟩
            exact List.forall_mem_cons.mpr ⟨hok, hall⟩

theorem chainVerdict_ok_iff {results : List VerifyResult} (hne : results ≠ []) :
    (chainVerdict results).ok = true ↔ ∀ r ∈ results, r.ok = true := by
  unfold chainVerdict
  cases hfind : results.find? (!·.ok) with
  | some failed =>
      have hfailed := List.find?_some hfind
      have hmem := List.mem_of_find?_eq_some hfind
      constructor
      · intro hok
        simp [hok] at hfailed
      · intro hall
        simp [hall failed hmem] at hfailed
  | none =>
      have hall : ∀ r ∈ results, r.ok = true := by simpa using hfind
      have hlast := List.getLast?_eq_some_getLast hne
      simp only [hlast, Option.getD_some]
      exact ⟨fun _ => hall, fun _ => hall _ (List.mem_of_getLast? hlast)⟩

/-- The verdict on the steps is in order when each of them passes. -/
theorem verdict_of_steps_iff {steps : List (Py VerifyResult)} (hsteps : steps ≠ []) :
    (∃ results, runSteps steps = .ok results ∧ (chainVerdict results).ok = true) ↔
      ∀ step ∈ steps, Passes step := by
  rw [← runSteps_all_iff]
  apply exists_congr
  intro results
  apply and_congr_right
  intro hresults
  exact chainVerdict_ok_iff (runSteps_ne_nil hsteps hresults)

/-- A chain is accepted when each of its steps passes. -/
theorem accepts_iff {crypto : Crypto} {input : ChainInput} :
    Accepts crypto input ↔
      ∀ step ∈ chainSteps crypto input, ∃ result, step = .ok result ∧ result.ok = true :=
  verdict_of_steps_iff (List.cons_ne_nil _ _)

end CapsuleMesh.Delegation
