import Mathlib
import CapsuleMesh.Delegation.Documents

/-!
# From the issuer to the verifier

A delegation cites the id of an ownership document, and that id is over a body with
the time of a reading of the clock.  The issuer computes it when it issues the delegation and
again, from a new reading, when it returns the document: the two ids are one exactly
when the two readings are.
-/

namespace CapsuleMesh.Delegation

open Python

/-- Signatures verify under their key, and SHA-256 has no collisions. -/
structure Crypto.Ideal (crypto : Crypto) : Prop where
  publicBytes_length : ∀ key, (crypto.publicBytes key).length = 32
  isPoint_publicBytes : ∀ key, crypto.isPoint (crypto.publicBytes key) = true
  sign_ne_nil : ∀ key message, crypto.sign key message ≠ []
  verify_sign : ∀ key message,
    crypto.verify (crypto.publicBytes key) (crypto.sign key message) message = true
  sha256Hex_injective : Function.Injective crypto.sha256Hex

variable {crypto : Crypto}

/-! ## Reading a number off a canonical text -/

theorem comma_notMem_repr (n : Int) : ',' ∉ n.repr.toList := by
  have hnat : ∀ m : ℕ, ',' ∉ m.repr.toList := by
    intro m hm
    rw [Nat.toList_repr] at hm
    exact absurd (Nat.isDigit_of_mem_toDigits (by decide) (by decide) hm) (by decide)
  rw [Int.repr_eq_if]
  split
  · exact hnat _
  · simpa using hnat _

/-- Where the times stand in the text of an ownership body. -/
theorem canonical_ownershipBody (s : Issuer crypto) (ownerPub ownerId : String) :
    ∃ head mid rest : String, ∀ now,
      (Json.obj (s.ownershipBody ownerPub ownerId now)).canonical =
        head ++ ((s.ownershipExpiry now).repr ++
          ("," ++ (mid ++ (now.repr ++ ("," ++ rest))))) := by
  refine ⟨"\x7b" ++ dumpsStr "expires_at_unix_ms" ++ ":", dumpsStr "issued_at_unix_ms" ++ ":",
    dumpsStr "node_endpoint_id" ++ ":" ++ dumpsStr s.nodeEndpointId ++ "," ++
      (dumpsStr "owner_id" ++ ":" ++ dumpsStr ownerId ++ "," ++
        (dumpsStr "owner_sign_public_key" ++ ":" ++ dumpsStr ownerPub)) ++ "\x7d", fun now => ?_⟩
  simp [Json.canonical, Json.canonicalMembers, Issuer.ownershipBody, List.insertionSort,
    List.orderedInsert, commaJoin, String.append_assoc]

/-- The id of an ownership document determines the reading of the clock in it. -/
theorem currentCertId_inj (hideal : crypto.Ideal) {s : Issuer crypto} {ownerPub ownerId : String}
    {now now' : Int} :
    s.currentCertId ownerPub ownerId now = s.currentCertId ownerPub ownerId now' ↔ now = now' := by
  constructor
  · intro h
    have htext := utf8_injective (hideal.sha256Hex_injective h)
    obtain ⟨head, mid, rest, hcanonical⟩ := canonical_ownershipBody s ownerPub ownerId
    rw [hcanonical, hcanonical, String.append_right_inj] at htext
    have hlist := congrArg String.toList htext
    simp only [String.toList_append] at hlist
    obtain ⟨-, hlist⟩ := append_sep_inj (comma_notMem_repr _) (comma_notMem_repr _) hlist
    obtain ⟨htime, -⟩ := append_sep_inj (comma_notMem_repr _) (comma_notMem_repr _)
      (List.append_cancel_left hlist)
    exact Int.repr_injective (String.toList_inj.mp htime)
  · rintro rfl
    rfl

/-! ## The steps of the verifier -/

theorem loadEd25519Pubkey_hexText {raw : Bytes} (hlength : raw.length = 32)
    (hpoint : crypto.isPoint raw = true) : loadEd25519Pubkey crypto (hexText raw) = .ok raw := by
  simp [loadEd25519Pubkey, rawPublicKeyBytes, hlength, hpoint]

section

variable (hideal : crypto.Ideal)

include hideal

theorem loadEd25519Pubkey_pubHex (key : crypto.PrivateKey) :
    loadEd25519Pubkey crypto (pubHex crypto key) = .ok (crypto.publicBytes key) :=
  loadEd25519Pubkey_hexText (hideal.publicBytes_length key) (hideal.isPoint_publicBytes key)

theorem hexText_sign_ne (key : crypto.PrivateKey) (message : Bytes) :
    hexText (crypto.sign key message) ≠ "" := by
  intro h
  apply hideal.sign_ne_nil key message
  apply hexText_injective
  rw [h]
  rfl

theorem checkSigned_of_signed {document delegation : Json} {key : crypto.PrivateKey}
    {message : Bytes}
    (hsig : document.get "_sig" = .ok (.str (hexText (crypto.sign key message))))
    (hkey : delegation.item "owner_sign_public_key" = .ok (.str (pubHex crypto key))) :
    checkSigned crypto document delegation message = .ok (some true) := by
  simp [checkSigned, hsig, hkey, hexText_sign_ne hideal, loadEd25519Pubkey_pubHex hideal,
    hideal.verify_sign]

variable (s t : Issuer crypto) (key : crypto.PrivateKey) (ownerId : String) (grant : Issuer.Grant)
  (now certNow docNow : Int)

theorem verifyDelegationSignature_signed :
    verifyDelegationSignature crypto (s.signedDelegation key ownerId grant now certNow) =
      pass (some .delegationSignature) := by
  rw [verifyDelegationSignature, Issuer.without_sig_signedDelegation, checkSigned_of_signed hideal
    (s.sig_signedDelegation key ownerId grant now certNow)
    (s.owner_key_signedDelegation key ownerId grant now certNow)]

omit hideal in
theorem verifyOwnerIdDerivation_signed
    (hownerId : deriveOwnerId crypto (pubHex crypto key) = .ok ownerId) :
    verifyOwnerIdDerivation crypto (s.signedDelegation key ownerId grant now certNow) =
      .ok (pass (some .ownerIdDerivation)) := by
  simp [verifyOwnerIdDerivation, hownerId]

/-- The documents of one identity agree in all but the reading that they cite. -/
theorem verifyNodeOwnership_signed (hnode : t.nodeEndpointId = s.nodeEndpointId) :
    (∃ result, verifyNodeOwnership crypto (t.signedOwnership key ownerId docNow)
        (s.signedDelegation key ownerId grant now certNow) = .ok result ∧ result.ok = true) ↔
      s.currentCertId (pubHex crypto key) ownerId certNow =
        t.currentCertId (pubHex crypto key) ownerId docNow := by
  have hsigned : checkSigned crypto (t.signedOwnership key ownerId docNow)
      (s.signedDelegation key ownerId grant now certNow)
      (ownershipBytes (t.signedOwnership key ownerId docNow)) = .ok (some true) := by
    rw [t.ownershipBytes_signedOwnership]
    exact checkSigned_of_signed hideal (t.sig_signedOwnership key ownerId docNow)
      (s.owner_key_signedDelegation key ownerId grant now certNow)
  have hid : crypto.sha256Hex (ownershipBytes (t.signedOwnership key ownerId docNow)) =
      t.currentCertId (pubHex crypto key) ownerId docNow := by
    rw [t.ownershipBytes_signedOwnership]
    rfl
  simp only [verifyNodeOwnership, hsigned, verifyOwnershipBinding, hid,
    Issuer.owner_id_signedOwnership, Issuer.owner_id_signedDelegation,
    Issuer.node_signedOwnership, Issuer.node_signedDelegation, Issuer.cert_id_signedOwnership,
    Issuer.cert_id_signedDelegation, Py.ok_bind, Py.pure_eq_ok, pyEq_str, hnode, decide_true,
    Bool.not_true, Bool.false_eq_true, if_false]
  by_cases hcert : s.currentCertId (pubHex crypto key) ownerId certNow =
      t.currentCertId (pubHex crypto key) ownerId docNow
  · simp [hcert, pass]
  · simp [hcert, reject]

end

theorem verifyExpiryAndRevocation_signed {s t : Issuer crypto} {key : crypto.PrivateKey}
    {ownerId : String} {grant : Issuer.Grant} {now certNow docNow nowMs : Int}
    {revocations : RevocationList} (hid : grant.delegationId ∉ revocations.revokedDelegations)
    (hnode : s.nodeEndpointId ∉ revocations.revokedNodes)
    (howner : ownerId ∉ revocations.revokedOwners) (hunexpired : nowMs ≤ now + grant.validityMs) :
    (∃ result, verifyExpiryAndRevocation (s.signedDelegation key ownerId grant now certNow)
        (t.signedOwnership key ownerId docNow) revocations nowMs = .ok result ∧
        result.ok = true) ↔ nowMs ≤ t.ownershipExpiry docNow := by
  by_cases hexpiry : nowMs ≤ t.ownershipExpiry docNow
  · simp [verifyExpiryAndRevocation, expiredAt, Json.toIntOrNone, hid, hnode, howner,
      Int.not_lt.mpr hunexpired, Int.not_lt.mpr hexpiry, hexpiry, pass]
  · simp [verifyExpiryAndRevocation, expiredAt, Json.toIntOrNone, hid, hnode, howner,
      Int.not_lt.mpr hunexpired, hexpiry, Int.not_le.mp hexpiry, reject]

/-! ## Runs without a rotation -/

/-- The state without what the operations other than rotations change. -/
def Issuer.identity (s : Issuer crypto) : Issuer crypto :=
  { s with
    revokedDelegations := []
    revokedNodes := []
    revokedOwners := []
    ownerSigningCount := 0
    ticks := 0 }

theorem Issuer.fields_of_identity {s t : Issuer crypto} (h : t.identity = s.identity) :
    t.ownerSigningKey = s.ownerSigningKey ∧ t.nodeEndpointId = s.nodeEndpointId ∧
      t.maxValidityMs = s.maxValidityMs ∧
      t.nodeOwnershipExpiresAtUnixMs = s.nodeOwnershipExpiresAtUnixMs := by
  simp only [Issuer.identity, Issuer.mk.injEq] at h
  obtain ⟨howner, hnode, -, -, -, hmax, -, hfixed, -⟩ := h
  exact ⟨howner, hnode, hmax, hfixed⟩

def Operation.rotates : Operation crypto → Bool
  | .rotateNodeEndpoint _ => true
  | .rotateOwnerKey _ => true
  | _ => false

theorem issueDelegation_identity (clock : ℕ → Int) (s : Issuer crypto)
    (keyHex scope freshId : String) (validityMs : Option Int) (delegationId : Option String) :
    (s.issueDelegation clock keyHex scope validityMs delegationId freshId).2.identity =
      s.identity := by
  unfold Issuer.issueDelegation
  repeat' split
  all_goals rfl

theorem step_identity (clock : ℕ → Int) (s : Issuer crypto) {op : Operation crypto}
    (h : op.rotates = false) : (step clock s op).2.identity = s.identity := by
  cases op with
  | issueDelegation keyHex scope validityMs delegationId freshId =>
      exact issueDelegation_identity clock s keyHex scope freshId validityMs delegationId
  | renew delegation validityMs freshId =>
      simp only [step, Prod.map_snd, Issuer.renew]
      split
      · exact issueDelegation_identity clock s _ _ _ _ _
      · rfl
      · rfl
  | reissueOnPluginKeyChange old newKeyHex freshId =>
      simp only [step, Prod.map_snd, Issuer.reissueOnPluginKeyChange]
      split
      · rfl
      · split
        · rfl
        · exact issueDelegation_identity clock _ _ _ _ _ _
  | revokeDelegation _ | revokeNode _ | revokeOwner _ => rfl
  | rotateNodeEndpoint _ | rotateOwnerKey _ => cases h
  | nodeOwnershipDocument =>
      simp only [step, Prod.map_snd, Issuer.nodeOwnershipDocument]
      repeat' split
      all_goals rfl

theorem runState_identity (clock : ℕ → Int) (s : Issuer crypto) {ops : List (Operation crypto)}
    (h : ∀ op ∈ ops, op.rotates = false) : (runState clock s ops).identity = s.identity := by
  induction ops generalizing s with
  | nil => rfl
  | cons op ops ih =>
      obtain ⟨hop, hops⟩ := List.forall_mem_cons.mp h
      rw [runState, List.foldl_cons, ← runState, ih _ hops, step_identity clock s hop]

/-- One of the states is reached from the other without a rotation. -/
def Unrotated (clock : ℕ → Int) (s t : Issuer crypto) : Prop :=
  ∃ ops : List (Operation crypto), (∀ op ∈ ops, op.rotates = false) ∧
    (t = runState clock s ops ∨ s = runState clock t ops)

theorem Unrotated.identity_eq {clock : ℕ → Int} {s t : Issuer crypto} (h : Unrotated clock s t) :
    t.identity = s.identity := by
  obtain ⟨ops, hops, rfl | rfl⟩ := h
  · exact runState_identity clock s hops
  · exact (runState_identity clock t hops).symm

/-! ## The round trip -/

/-- A delegation presented for its own plugin, node and scope, with a capsule that the
plugin key signed, while it is neither expired nor revoked. -/
structure Presents (crypto : Crypto) (input : ChainInput) (pluginKey : crypto.PrivateKey) :
    Prop where
  scope : input.delegation.get "scope" = .ok (.str input.expectedScope)
  plugin : input.delegation.get "plugin_id" = .ok (.str input.expectedPluginId)
  node : input.delegation.get "node_endpoint_id" = .ok (.str input.expectedNodeId)
  pluginKey_eq : input.delegation.item "delegated_signing_public_key" =
    .ok (.str (pubHex crypto pluginKey))
  capsule : ∃ msg, crypto.parseCose input.capsule = .ok msg ∧
    msg.signature = crypto.sign pluginKey (crypto.sigStructure msg)
  release : input.releaseAttestation = none
  unexpired : ∀ expires, input.delegation.get "expires_at_unix_ms" = .ok (.int expires) →
    input.nowMs ≤ expires
  id_unrevoked : ∀ id, input.delegation.get "delegation_id" = .ok (.str id) →
    id ∉ input.revocations.revokedDelegations
  node_unrevoked : input.expectedNodeId ∉ input.revocations.revokedNodes
  owner_unrevoked : ∀ ownerId, input.delegation.get "owner_id" = .ok (.str ownerId) →
    ownerId ∉ input.revocations.revokedOwners

theorem verifyMember_self {key : String} {code : RejectionCode} {detail : Json → String}
    {delegation : Json} {expected : String} (h : delegation.get key = .ok (.str expected)) :
    verifyMember key code detail delegation expected = .ok (pass none) := by
  simp [verifyMember, h]

theorem verifyCoseCapsule_signed (hideal : crypto.Ideal) {input : ChainInput}
    {pluginKey : crypto.PrivateKey} (h : Presents crypto input pluginKey) :
    verifyCoseCapsule crypto input.capsule (.str (pubHex crypto pluginKey)) =
      pass (some .coseSignature) := by
  obtain ⟨msg, hmsg, hsignature⟩ := h.capsule
  simp [verifyCoseCapsule, hmsg, loadEd25519Pubkey_pubHex hideal, hsignature, hideal.verify_sign]

/-- Of the steps of the verifier, the cited certificate id and the expiry of the
ownership document remain to be checked. -/
theorem accepts_signed_iff (hideal : crypto.Ideal) {s t : Issuer crypto}
    (hnode : t.nodeEndpointId = s.nodeEndpointId) {key : crypto.PrivateKey} {ownerId : String}
    (hownerId : deriveOwnerId crypto (pubHex crypto key) = .ok ownerId) {grant : Issuer.Grant}
    {now certNow docNow : Int} {input : ChainInput}
    (hd : input.delegation = s.signedDelegation key ownerId grant now certNow)
    (hdocument : input.nodeOwnership = t.signedOwnership key ownerId docNow)
    {pluginKey : crypto.PrivateKey} (hpresents : Presents crypto input pluginKey) :
    Accepts crypto input ↔
      s.currentCertId (pubHex crypto key) ownerId certNow =
          t.currentCertId (pubHex crypto key) ownerId docNow ∧
        input.nowMs ≤ t.ownershipExpiry docNow := by
  have hnodeId := hpresents.node
  have hunexpired := hpresents.unexpired
  have hid := hpresents.id_unrevoked
  have howner := hpresents.owner_unrevoked
  have hnodes := hpresents.node_unrevoked
  rw [hd] at hnodeId hunexpired hid howner
  simp only [Issuer.node_signedDelegation, Except.ok.injEq, Json.str.injEq] at hnodeId
  rw [← hnodeId] at hnodes
  have hcose : verifyCapsuleOf crypto input.capsule input.delegation =
      .ok (pass (some .coseSignature)) := by
    rw [verifyCapsuleOf, hpresents.pluginKey_eq, Py.ok_bind,
      verifyCoseCapsule_signed hideal hpresents]
    rfl
  have hpass : ∀ r : VerifyResult, r.ok = true →
      ((∃ result, (.ok r : Py VerifyResult) = .ok result ∧ result.ok = true) ↔ True) :=
    fun r hr => iff_true_intro ⟨r, rfl, hr⟩
  rw [accepts_iff]
  simp only [chainSteps, List.forall_mem_cons, hcose, hpresents.release, verifyReleaseAttestation,
    verifyScope, verifyPluginId, verifyNodeId, verifyMember_self hpresents.scope,
    verifyMember_self hpresents.plugin, verifyMember_self hpresents.node]
  rw [hd, hdocument, verifyDelegationSignature_signed hideal,
    verifyOwnerIdDerivation_signed _ _ _ _ _ _ hownerId,
    verifyNodeOwnership_signed hideal _ _ _ _ _ _ _ _ hnode,
    verifyExpiryAndRevocation_signed (hid _ rfl) hnodes (howner _ rfl) (hunexpired _ rfl)]
  simp only [hpass _ (rfl : (pass _).ok = true), true_and]
  refine and_congr_right fun _ => ⟨fun h => h.1, fun h => ⟨h, ⟨_, rfl, rfl⟩, by simp⟩⟩

/-- A delegation is accepted with the ownership document of its issuer exactly when the
clock shows, as the document is returned, what it showed as the delegation cited it. -/
theorem accepts_iff_same_reading (hideal : crypto.Ideal) {clock : ℕ → Int}
    (hclock : Monotone clock) {s t : Issuer crypto} (hrun : Unrotated clock s t)
    {op : Operation crypto} {input : ChainInput}
    (hdelegation : (step clock s op).1 = .delegation input.delegation)
    (hownership : (step clock t .nodeOwnershipDocument).1 = .ownership input.nodeOwnership)
    {pluginKey : crypto.PrivateKey} (hpresents : Presents crypto input pluginKey) :
    Accepts crypto input ↔
      clock (s.ticks + 1) = clock t.ticks ∧
        ∀ expires, t.nodeOwnershipExpiresAtUnixMs = some expires → input.nowMs ≤ expires := by
  obtain ⟨key, ownerId, grant, hissues⟩ := step_delegation hdelegation
  obtain ⟨key', ownerId', hkey', hownerId', hdocument⟩ := step_ownership hownership
  obtain ⟨hkeys, hnode, hmax, hfixed⟩ := Issuer.fields_of_identity hrun.identity_eq
  obtain rfl : key = key' := by
    rw [hkeys, hissues.owner] at hkey'
    exact Option.some.inj hkey'
  obtain rfl : ownerId = ownerId' := Except.ok.inj (hissues.ownerId_eq.symm.trans hownerId')
  have hcert : t.currentCertId (pubHex crypto key) ownerId (clock t.ticks) =
      s.currentCertId (pubHex crypto key) ownerId (clock t.ticks) := by
    simp only [Issuer.currentCertId, Issuer.ownershipBody, Issuer.ownershipExpiry, hnode, hmax,
      hfixed]
  rw [accepts_signed_iff hideal hnode hissues.ownerId_eq hissues.document_eq hdocument hpresents,
    hcert, currentCertId_inj hideal]
  refine and_congr_right fun hreading => ?_
  cases hfix : t.nodeOwnershipExpiresAtUnixMs with
  | some expires => simp [Issuer.ownershipExpiry, hfix]
  | none =>
      -- Without a fixed expiry the document outlives the delegation.
      have hnow : input.nowMs ≤ clock s.ticks + grant.validityMs := by
        apply hpresents.unexpired
        rw [hissues.document_eq]
        rfl
      have hlater : clock s.ticks ≤ clock (s.ticks + 1) := hclock (Nat.le_succ s.ticks)
      have hvalidity := hissues.validity_le
      simp only [Issuer.ownershipExpiry, hfix, Option.getD_none, hmax, reduceCtorEq,
        false_imp_iff, implies_true, iff_true]
      omega

/-! ## A clock that advances -/

/-- Keys of one byte; a signature is the key and the message, a digest the bytes in hex. -/
def plainCrypto : Crypto where
  PrivateKey := UInt8
  publicBytes key := List.replicate 32 key
  sign key message := key :: message
  isPoint _ := true
  verify key signature message := decide (key.head?.map (· :: message) = some signature)
  sha256Hex := hexText
  parseCose capsule := .ok ⟨[], [], capsule⟩
  sigStructure msg := msg.protectedHeader ++ msg.payload
  excText _ := ""

theorem plainCrypto_ideal : plainCrypto.Ideal where
  publicBytes_length _ := List.length_replicate
  isPoint_publicBytes _ := rfl
  sign_ne_nil _ _ := List.cons_ne_nil _ _
  verify_sign _ _ := decide_eq_true rfl
  sha256Hex_injective := hexText_injective

def plainKeyHex (key : UInt8) : String := pubHex plainCrypto key

theorem rawPublicKeyBytes_plain (key : UInt8) :
    rawPublicKeyBytes (plainKeyHex key) = .ok (List.replicate 32 key) := by
  simp [rawPublicKeyBytes, plainKeyHex, pubHex, plainCrypto]

theorem validatePluginPubkey_plain (key : UInt8) :
    validatePluginPubkey plainCrypto (plainKeyHex key) = .ok (plainKeyHex key) := by
  simp only [validatePluginPubkey, loadEd25519Pubkey, rawPublicKeyBytes_plain, Py.ok_bind]
  rfl

def host : Issuer plainCrypto where
  ownerSigningKey := some (1 : UInt8)
  nodeEndpointId := plainKeyHex 170
  pluginId := "net.example.capsule-emit"
  pluginVersion := "1.0.0"
  registeredScopes := [CAPSULE_EMIT_SCOPE]
  maxValidityMs := 1000
  pluginArtifactDigest := none
  nodeOwnershipExpiresAtUnixMs := none
  revokedDelegations := []
  revokedNodes := []
  revokedOwners := []
  ownerSigningCount := 0
  ticks := 0

def hostIssues : Operation plainCrypto :=
  .issueDelegation (plainKeyHex 3) CAPSULE_EMIT_SCOPE none none "deleg-00"

def hostOwnerId : String := hexText (List.replicate 32 1)

def hostGrant : Issuer.Grant := ⟨"deleg-00", plainKeyHex 3, CAPSULE_EMIT_SCOPE, 1000⟩

/-- The chain that is presented when the clock reads `now`, `certNow` and `docNow`. -/
def hostChain (now certNow docNow : Int) : ChainInput where
  capsule := [3]
  delegation := host.signedDelegation (1 : UInt8) hostOwnerId hostGrant now certNow
  nodeOwnership := host.signedOwnership (1 : UInt8) hostOwnerId docNow
  revocations := ⟨[], [], []⟩
  expectedScope := CAPSULE_EMIT_SCOPE
  expectedPluginId := "net.example.capsule-emit"
  expectedNodeId := plainKeyHex 170
  releaseAttestation := none
  nowMs := now

theorem deriveOwnerId_host : deriveOwnerId plainCrypto (plainKeyHex 1) = .ok hostOwnerId := by
  simp only [deriveOwnerId, rawPublicKeyBytes_plain, Py.ok_bind]
  rfl

theorem step_hostIssues (clock : ℕ → Int) :
    (step clock host hostIssues).1 =
        .delegation (hostChain (clock 0) (clock 1) (clock 2)).delegation ∧
      (step clock host hostIssues).2 = { host with ticks := 2, ownerSigningCount := 1 } ∧
      (step clock (step clock host hostIssues).2 .nodeOwnershipDocument).1 =
        .ownership (hostChain (clock 0) (clock 1) (clock 2)).nodeOwnership := by
  have hissue : host.issueDelegation clock (plainKeyHex 3) CAPSULE_EMIT_SCOPE none none "deleg-00" =
      (.ok (host.signedDelegation (1 : UInt8) hostOwnerId hostGrant (clock 0) (clock 1)),
        { host with ticks := 2, ownerSigningCount := 1 }) := by
    simp only [Issuer.issueDelegation, host, validatePluginPubkey_plain, List.mem_singleton,
      not_true_eq_false, if_false]
    rw [show pubHex plainCrypto (1 : UInt8) = plainKeyHex 1 from rfl, deriveOwnerId_host]
    rfl
  refine ⟨?_, ?_, ?_⟩
  · simp only [step, hostIssues, hissue]
    rfl
  · simp only [step, hostIssues, hissue]
    rfl
  · simp only [step, hostIssues, hissue, Prod.map_fst, Prod.map_snd, id_eq]
    simp only [Issuer.nodeOwnershipDocument, host]
    rw [show pubHex plainCrypto (1 : UInt8) = plainKeyHex 1 from rfl, deriveOwnerId_host]
    rfl

theorem presents_hostChain (now certNow docNow : Int) :
    Presents plainCrypto (hostChain now certNow docNow) (3 : UInt8) where
  scope := rfl
  plugin := rfl
  node := rfl
  pluginKey_eq := rfl
  capsule := ⟨⟨[], [], [3]⟩, rfl, rfl⟩
  release := rfl
  unexpired expires h := by
    obtain rfl : now + 1000 = expires := Json.int.inj (Except.ok.inj h)
    exact Int.le_add_of_nonneg_right (by decide)
  id_unrevoked _ _ := by simp [hostChain]
  node_unrevoked := by simp [hostChain]
  owner_unrevoked _ _ := by simp [hostChain]

/-- With a millisecond between two readings, the delegation that was just issued and the
document that is returned next do not belong together. -/
theorem advancing_clock_rejects :
    let clock : ℕ → Int := fun n => n
    let input := hostChain 0 1 2
    Monotone clock ∧ (step clock host hostIssues).1 = .delegation input.delegation ∧
      (step clock (step clock host hostIssues).2 .nodeOwnershipDocument).1 =
        .ownership input.nodeOwnership ∧
      Presents plainCrypto input (3 : UInt8) ∧ ¬Accepts plainCrypto input := by
  intro clock input
  obtain ⟨hdelegation, -, hownership⟩ := step_hostIssues clock
  refine ⟨fun m n h => Int.ofNat_le.mpr h, hdelegation, hownership, presents_hostChain 0 1 2, ?_⟩
  intro haccepts
  have hstep := accepts_iff.mp haccepts
    (verifyNodeOwnership plainCrypto input.nodeOwnership input.delegation) (by simp [chainSteps])
  have hcert := (verifyNodeOwnership_signed plainCrypto_ideal host host (1 : UInt8) hostOwnerId
    hostGrant 0 1 2 rfl).mp hstep
  rw [currentCertId_inj plainCrypto_ideal] at hcert
  omega

theorem accepts_iff_same_reading_stopped :
    let clock : ℕ → Int := fun _ => 7
    let input := hostChain 7 7 7
    (step clock host hostIssues).1 = .delegation input.delegation ∧
      Presents plainCrypto input (3 : UInt8) ∧ Accepts plainCrypto input := by
  intro clock input
  obtain ⟨hdelegation, -, hownership⟩ := step_hostIssues clock
  refine ⟨hdelegation, presents_hostChain 7 7 7, ?_⟩
  refine (accepts_iff_same_reading plainCrypto_ideal (monotone_const : Monotone clock)
    ⟨[hostIssues], by simp [hostIssues, Operation.rotates], .inl rfl⟩ hdelegation hownership
    (presents_hostChain 7 7 7)).mpr ⟨rfl, ?_⟩
  intro expires hexpires
  have hidentity : (runState clock host [hostIssues]).identity = host.identity :=
    step_identity clock host rfl
  rw [(Issuer.fields_of_identity hidentity).2.2.2] at hexpires
  cases hexpires

end CapsuleMesh.Delegation
