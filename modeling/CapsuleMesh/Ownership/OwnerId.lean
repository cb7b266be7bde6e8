import CapsuleMesh.Delegation.Verifier
import CapsuleMesh.Ownership.ClaimBytes

/-!
# Whose owner id is bound

The re-check ties a certificate to its key and to this node.  The owner id that it names is
signed, and tied to the key only where it is the one that the delegation verifier derives.
-/

namespace CapsuleMesh.Ownership

open Python

/-- The signature check and the hash of the delegation verifier. -/
def certCrypto (crypto : Delegation.Crypto) : CertCrypto := ⟨crypto.verify, crypto.sha256Hex⟩

/-- The owner's signature over the canonical claim verifies under the key in the claim. -/
def SignedByKey (crypto : CertCrypto) (ownership : SignedNodeOwnership) : Prop :=
  ∃ canonical key signature, canonicalClaimBytes ownership.claim = .ok canonical ∧
    bytesFromHex ownership.claim.ownerSignPublicKey = .ok key ∧
    bytesFromHex ownership.signature = .ok signature ∧
    crypto.verify key signature canonical = true

/-- What the re-check confirms. -/
structure Rechecked (crypto : CertCrypto) (ownership : SignedNodeOwnership)
    (expectedNodeEndpointId : String) (now : Int) : Prop where
  version : ownership.claim.version = NODE_OWNERSHIP_VERSION
  node : ownership.claim.nodeEndpointId = expectedNodeEndpointId
  signed : SignedByKey crypto ownership
  unexpired : now < ownership.claim.expiresAtUnixMs

/-- What a bound status has to stand for. -/
structure SoundlyBound (crypto : Delegation.Crypto) (ownership : SignedNodeOwnership)
    (expectedNodeEndpointId : String) (now : Int) : Prop where
  node : ownership.claim.nodeEndpointId = expectedNodeEndpointId
  signed : SignedByKey (certCrypto crypto) ownership
  unexpired : now < ownership.claim.expiresAtUnixMs
  derived : Delegation.deriveOwnerId crypto ownership.claim.ownerSignPublicKey =
    .ok ownership.claim.ownerId

variable {crypto : CertCrypto} {ownership : SignedNodeOwnership} {endpoint : String} {now : Int}

theorem checkSignature_eq_none :
    checkSignature crypto ownership = .ok none ↔ SignedByKey crypto ownership := by
  unfold checkSignature
  constructor
  · intro h
    simp only at h
    split at h
    next hchecked =>
      obtain ⟨canonical, hcanonical, hchecked⟩ := Py.bind_eq_ok.mp hchecked
      obtain ⟨key, hkey, hchecked⟩ := Py.bind_eq_ok.mp hchecked
      obtain ⟨signature, hsignature, hchecked⟩ := Py.bind_eq_ok.mp hchecked
      exact ⟨canonical, key, signature, hcanonical, hkey, hsignature, Except.ok.inj hchecked⟩
    next => cases h
    next => cases h
    next => cases h
  · rintro ⟨canonical, key, signature, hcanonical, hkey, hsignature, hverify⟩
    simp only [hcanonical, hkey, hsignature, hverify, Py.ok_bind, Py.pure_eq_ok]

/-- The re-check finds a certificate valid exactly where it confirms these points. -/
theorem recheckOwnershipValidity_valid_iff :
    (∃ recheck, recheckOwnershipValidity crypto ownership endpoint now = .ok recheck ∧
      recheck.valid = true) ↔ Rechecked crypto ownership endpoint now := by
  unfold recheckOwnershipValidity
  constructor
  · rintro ⟨recheck, h, hvalid⟩
    simp only at h
    split at h
    next =>
      cases h
      cases hvalid
    next hversion =>
      split at h
      next =>
        cases h
        cases hvalid
      next hnode =>
        obtain ⟨found, hfound, h⟩ := Py.bind_eq_ok.mp h
        cases found with
        | some reason =>
          cases h
          cases hvalid
        | none =>
          simp only at h
          split at h
          next =>
            cases h
            cases hvalid
          next hexpires =>
            exact ⟨not_not.mp hversion, not_not.mp hnode, checkSignature_eq_none.mp hfound,
              not_le.mp hexpires⟩
  · intro h
    simp only [h.version, h.node, ne_eq, not_true_eq_false, if_false,
      checkSignature_eq_none.mpr h.signed, Py.ok_bind, not_le.mpr h.unexpired]
    exact ⟨_, rfl, rfl⟩

/-- The block is bound exactly where the re-check confirms the certificate. -/
theorem ownerProvenanceBlock_bound_iff (identityCapsuleId : Option String) :
    (∃ block, ownerProvenanceBlock crypto (some ownership) endpoint identityCapsuleId now =
      .ok block ∧ block.get "owner_status" = .ok (.str "bound")) ↔
      Rechecked crypto ownership endpoint now := by
  rw [← recheckOwnershipValidity_valid_iff]
  constructor
  · rintro ⟨block, h, hstatus⟩
    obtain ⟨recheck, hrecheck, h⟩ := Py.bind_eq_ok.mp h
    refine ⟨recheck, hrecheck, ?_⟩
    cases hvalid : recheck.valid with
    | true => rfl
    | false =>
        rw [hvalid] at h
        cases h
        have hinvalid : Json.str "invalid" = .str "bound" := Except.ok.inj hstatus
        exact absurd (Json.str.inj hinvalid) (by decide)
  · rintro ⟨recheck, hrecheck, hvalid⟩
    have hchecked := recheckOwnershipValidity_valid_iff.mp ⟨recheck, hrecheck, hvalid⟩
    obtain ⟨canonical, -, signature, hcanonical, -, hsignature, -⟩ := hchecked.signed
    have hdigest : ownerCertDigest crypto ownership =
        .ok (crypto.sha256Hex (canonical ++ signature)) := by
      rw [ownerCertDigest, hcanonical, hsignature]
      rfl
    obtain ⟨block, hblock, hstatus, -⟩ :=
      ownerProvenanceBlock_bound hrecheck hvalid hdigest identityCapsuleId
    exact ⟨block, hblock, hstatus⟩

/-- A bound status is sound exactly where a certificate that passes the re-check names the owner
id that is derived from its own key. -/
theorem bound_owner_id_iff (crypto : Delegation.Crypto) (ownership : SignedNodeOwnership)
    (expectedNodeEndpointId : String) (identityCapsuleId : Option String) (now : Int) :
    (∀ block, ownerProvenanceBlock (certCrypto crypto) (some ownership) expectedNodeEndpointId
        identityCapsuleId now = .ok block →
      block.get "owner_status" = .ok (.str "bound") →
        SoundlyBound crypto ownership expectedNodeEndpointId now) ↔
      (Rechecked (certCrypto crypto) ownership expectedNodeEndpointId now →
        Delegation.deriveOwnerId crypto ownership.claim.ownerSignPublicKey =
          .ok ownership.claim.ownerId) := by
  constructor
  · intro h hchecked
    obtain ⟨block, hblock, hstatus⟩ :=
      (ownerProvenanceBlock_bound_iff identityCapsuleId).mpr hchecked
    exact (h block hblock hstatus).derived
  · intro h block hblock hstatus
    have hchecked := (ownerProvenanceBlock_bound_iff identityCapsuleId).mp ⟨block, hblock, hstatus⟩
    exact ⟨hchecked.node, hchecked.signed, hchecked.unexpired, h hchecked⟩

/-! ## Another owner's id -/

/-- A key of one's own under which every signature verifies. -/
def ownKeyCrypto : Delegation.Crypto where
  PrivateKey := Unit
  publicBytes _ := List.replicate 32 170
  sign _ message := message
  isPoint _ := true
  verify _ _ _ := true
  sha256Hex := hexText
  parseCose _ := .error .typeError
  sigStructure _ := []
  excText _ := ""

/-- `plainClaim` names the owner `o` and is signed with a key that `o` is not derived from. -/
theorem foreign_owner_id_bound :
    (∃ block, ownerProvenanceBlock (certCrypto ownKeyCrypto) (some ⟨plainClaim, "ab"⟩)
      plainClaim.nodeEndpointId none 1 = .ok block ∧
        block.get "owner_status" = .ok (.str "bound")) ∧
      ¬ SoundlyBound ownKeyCrypto ⟨plainClaim, "ab"⟩ plainClaim.nodeEndpointId 1 := by
  constructor
  · obtain ⟨canonical, hcanonical⟩ := plainClaim_returns
    apply (ownerProvenanceBlock_bound_iff none).mpr
    exact ⟨rfl, rfl, ⟨canonical, List.replicate 32 170, [171], hcanonical, by decide +kernel,
      by decide +kernel, rfl⟩, by decide⟩
  · intro h
    exact absurd h.derived (by decide +kernel)

end CapsuleMesh.Ownership
