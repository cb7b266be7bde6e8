import CapsuleMesh.Delegation.Issuer
import CapsuleMesh.Python.Equality

/-!
# What the issuer's documents say

Each document that the issuer returns, by the state it was returned in, and what the
steps of the verifier make of it.
-/

namespace CapsuleMesh.Delegation

open Python

variable {crypto : Crypto}

namespace Issuer

/-! ## Delegations -/

/-- A delegation as it is returned in a state. -/
structure Issues (clock : ℕ → Int) (s : Issuer crypto) (document : Json)
    (key : crypto.PrivateKey) (ownerId : String) (grant : Grant) : Prop where
  owner : s.ownerSigningKey = some key
  ownerId_eq : deriveOwnerId crypto (pubHex crypto key) = .ok ownerId
  scope_mem : grant.scope ∈ s.registeredScopes
  plugin : ∃ keyHex, validatePluginPubkey crypto keyHex = .ok grant.pluginPub
  validity_le : grant.validityMs ≤ s.maxValidityMs
  document_eq : document =
    s.signedDelegation key ownerId grant (clock s.ticks) (clock (s.ticks + 1))

theorem issueDelegation_eq_ok {clock : ℕ → Int} {s : Issuer crypto} {keyHex scope freshId : String}
    {validityMs : Option Int} {delegationId : Option String} {document : Json}
    (h : (s.issueDelegation clock keyHex scope validityMs delegationId freshId).1 = .ok document) :
    ∃ key ownerId grant, s.Issues clock document key ownerId grant ∧ grant.scope = scope ∧
      validatePluginPubkey crypto keyHex = .ok grant.pluginPub := by
  unfold issueDelegation at h
  split at h
  · cases h
  · rename_i key hkey
    split at h
    · cases h
    · rename_i hscope
      split at h
      · cases h
      · rename_i pluginPub hplugin
        split at h
        · cases h
        · rename_i ownerId hownerId
          obtain rfl := Except.ok.inj h
          exact ⟨key, ownerId, _, ⟨hkey, hownerId, not_not.mp hscope, ⟨keyHex, hplugin⟩,
            min_le_right _ _, rfl⟩, rfl, hplugin⟩

section

variable (s : Issuer crypto) (key : crypto.PrivateKey) (ownerId : String) (grant : Grant)
  (now certNow : Int)

theorem without_sig_signedDelegation :
    without ["_sig"] (s.signedDelegation key ownerId grant now certNow) =
      .obj (s.delegationBody (pubHex crypto key) ownerId grant now certNow) := by
  cases hdigest : s.pluginArtifactDigest <;>
    simp [without, signedDelegation, delegationBody, hdigest]

theorem sig_signedDelegation :
    (s.signedDelegation key ownerId grant now certNow).get "_sig" =
      .ok (.str (hexText (crypto.sign key (DELEGATION_DOMAIN_TAG ++
        jcs (.obj (s.delegationBody (pubHex crypto key) ownerId grant now certNow)))))) := by
  cases hdigest : s.pluginArtifactDigest <;>
    simp [signedDelegation, delegationBody, hdigest, List.lookup_cons]

@[simp] theorem delegation_id_signedDelegation :
    (s.signedDelegation key ownerId grant now certNow).get "delegation_id" =
      .ok (.str grant.delegationId) := rfl

@[simp] theorem owner_id_signedDelegation :
    (s.signedDelegation key ownerId grant now certNow).get "owner_id" = .ok (.str ownerId) := rfl

@[simp] theorem owner_key_signedDelegation :
    (s.signedDelegation key ownerId grant now certNow).item "owner_sign_public_key" =
      .ok (.str (pubHex crypto key)) := rfl

@[simp] theorem node_signedDelegation :
    (s.signedDelegation key ownerId grant now certNow).get "node_endpoint_id" =
      .ok (.str s.nodeEndpointId) := rfl

@[simp] theorem cert_id_signedDelegation :
    (s.signedDelegation key ownerId grant now certNow).get "node_ownership_cert_id" =
      .ok (.str (s.currentCertId (pubHex crypto key) ownerId certNow)) := rfl

@[simp] theorem plugin_id_signedDelegation :
    (s.signedDelegation key ownerId grant now certNow).get "plugin_id" =
      .ok (.str s.pluginId) := rfl

@[simp] theorem plugin_key_signedDelegation :
    (s.signedDelegation key ownerId grant now certNow).item "delegated_signing_public_key" =
      .ok (.str grant.pluginPub) := rfl

@[simp] theorem scope_signedDelegation :
    (s.signedDelegation key ownerId grant now certNow).get "scope" = .ok (.str grant.scope) := rfl

@[simp] theorem expires_signedDelegation :
    (s.signedDelegation key ownerId grant now certNow).get "expires_at_unix_ms" =
      .ok (.int (now + grant.validityMs)) := rfl

end

/-! ## Ownership documents -/

/-- The ownership document for a reading of the clock. -/
def signedOwnership (s : Issuer crypto) (key : crypto.PrivateKey) (ownerId : String) (now : Int) :
    Json :=
  let body := s.ownershipBody (pubHex crypto key) ownerId now
  .obj (body ++ [("cert_id", .str (s.currentCertId (pubHex crypto key) ownerId now)),
    ("_sig", .str (hexText (crypto.sign key (jcs (.obj body)))))])

theorem nodeOwnershipDocument_eq_ok {clock : ℕ → Int} {s : Issuer crypto} {document : Json}
    (h : (s.nodeOwnershipDocument clock).1 = .ok document) :
    ∃ key ownerId, s.ownerSigningKey = some key ∧
      deriveOwnerId crypto (pubHex crypto key) = .ok ownerId ∧
      document = s.signedOwnership key ownerId (clock s.ticks) := by
  unfold nodeOwnershipDocument at h
  split at h
  · cases h
  · rename_i key hkey
    simp only [] at h
    split at h
    · cases h
    · rename_i ownerId hownerId
      exact ⟨key, ownerId, hkey, hownerId, (Except.ok.inj h).symm⟩

section

variable (s : Issuer crypto) (key : crypto.PrivateKey) (ownerId : String) (now : Int)

theorem ownershipBytes_signedOwnership :
    ownershipBytes (s.signedOwnership key ownerId now) =
      jcs (.obj (s.ownershipBody (pubHex crypto key) ownerId now)) := by
  simp [ownershipBytes, without, signedOwnership, ownershipBody]

@[simp] theorem sig_signedOwnership :
    (s.signedOwnership key ownerId now).get "_sig" =
      .ok (.str (hexText (crypto.sign key
        (jcs (.obj (s.ownershipBody (pubHex crypto key) ownerId now)))))) := rfl

@[simp] theorem owner_id_signedOwnership :
    (s.signedOwnership key ownerId now).get "owner_id" = .ok (.str ownerId) := rfl

@[simp] theorem node_signedOwnership :
    (s.signedOwnership key ownerId now).get "node_endpoint_id" = .ok (.str s.nodeEndpointId) := rfl

@[simp] theorem cert_id_signedOwnership :
    (s.signedOwnership key ownerId now).get "cert_id" =
      .ok (.str (s.currentCertId (pubHex crypto key) ownerId now)) := rfl

@[simp] theorem expires_signedOwnership :
    (s.signedOwnership key ownerId now).get "expires_at_unix_ms" =
      .ok (.int (s.ownershipExpiry now)) := rfl

end

end Issuer

/-! ## Operations -/

/-- Whichever operation returns a delegation, it is the one of the state it runs in. -/
theorem step_delegation {clock : ℕ → Int} {s : Issuer crypto} {op : Operation crypto}
    {document : Json} (h : (step clock s op).1 = .delegation document) :
    ∃ key ownerId grant, s.Issues clock document key ownerId grant := by
  have hok : ∀ {x : Except IssuerError Json}, outcomeOf .delegation x = .delegation document →
      x = .ok document := by
    intro x hx
    cases x with
    | ok d => rw [outcomeOf, Outcome.delegation.injEq] at hx; rw [hx]
    | error e => cases hx
  cases op with
  | issueDelegation keyHex scope validityMs delegationId freshId =>
      obtain ⟨key, ownerId, grant, hissues, -⟩ := Issuer.issueDelegation_eq_ok (hok h)
      exact ⟨key, ownerId, grant, hissues⟩
  | renew delegation validityMs freshId =>
      have hrenew := hok h
      split at hrenew
      · obtain ⟨key, ownerId, grant, hissues, -⟩ := Issuer.issueDelegation_eq_ok hrenew
        exact ⟨key, ownerId, grant, hissues⟩
      · cases hrenew
      · cases hrenew
  | reissueOnPluginKeyChange old newKeyHex freshId =>
      have hreissue := hok h
      split at hreissue
      · cases hreissue
      · simp only [] at hreissue
        split at hreissue
        · cases hreissue
        · -- Revoking the old delegation leaves alone what the new one is made of.
          obtain ⟨key, ownerId, grant, hissues, -⟩ := Issuer.issueDelegation_eq_ok hreissue
          exact ⟨key, ownerId, grant, hissues.owner, hissues.ownerId_eq, hissues.scope_mem,
            hissues.plugin, hissues.validity_le, hissues.document_eq⟩
  | revokeDelegation id => cases h
  | revokeNode id => cases h
  | revokeOwner id => cases h
  | rotateNodeEndpoint id =>
      simp only [step, Prod.map_fst] at h
      cases hrotate : (s.rotateNodeEndpoint id).1 <;> rw [hrotate] at h <;> cases h
  | rotateOwnerKey key => cases h
  | nodeOwnershipDocument =>
      simp only [step, Prod.map_fst] at h
      cases hdocument : (s.nodeOwnershipDocument clock).1 <;> rw [hdocument] at h <;> cases h

theorem step_ownership {clock : ℕ → Int} {s : Issuer crypto} {document : Json}
    (h : (step clock s .nodeOwnershipDocument).1 = .ownership document) :
    ∃ key ownerId, s.ownerSigningKey = some key ∧
      deriveOwnerId crypto (pubHex crypto key) = .ok ownerId ∧
      document = s.signedOwnership key ownerId (clock s.ticks) := by
  apply Issuer.nodeOwnershipDocument_eq_ok
  simp only [step, Prod.map_fst] at h
  cases hdocument : (s.nodeOwnershipDocument clock).1 with
  | ok d =>
      rw [hdocument] at h
      rw [(Outcome.ownership.inj h)]
  | error e =>
      rw [hdocument] at h
      cases h

/-! ## Strings in the verifier -/

@[simp] theorem pyEq_str (a b : String) : (Json.str a).pyEq (.str b) = decide (a = b) := by
  simp [Json.pyEq]

end CapsuleMesh.Delegation
