import CapsuleMesh.Delegation.Verifier

/-!
# The issuer of delegations

`delegation_issuer.py`.  The issuer holds the owner key and the node's identity; its
clock is a sequence of readings, of which it takes the next one at each call.  Issuing
reads the clock twice: for the delegation itself and for the id of the ownership
document that it cites.
-/

namespace CapsuleMesh.Delegation

open Python

inductive IssuerError where
  | unregisteredScope (text : String)
  | invalidPublicKey (text : String)
  | ownerIdentityUnavailable
  | python (e : PyError)
deriving DecidableEq

structure Issuer (crypto : Crypto) where
  ownerSigningKey : Option crypto.PrivateKey
  nodeEndpointId : String
  pluginId : String
  pluginVersion : String
  registeredScopes : List String
  maxValidityMs : Int
  pluginArtifactDigest : Option String
  nodeOwnershipExpiresAtUnixMs : Option Int
  revokedDelegations : List String
  revokedNodes : List String
  revokedOwners : List String
  ownerSigningCount : ℕ
  /-- The readings of the clock so far. -/
  ticks : ℕ

variable {crypto : Crypto}

def pubHex (crypto : Crypto) (key : crypto.PrivateKey) : String := hexText (crypto.publicBytes key)

/-- `_validate_plugin_pubkey`: the key in lower-case hex. -/
def validatePluginPubkey (crypto : Crypto) (hexPub : String) : Except IssuerError String :=
  match loadEd25519Pubkey crypto hexPub with
  | .ok raw => .ok (hexText raw)
  | .error e => .error (.invalidPublicKey ("invalid plugin public key: " ++ crypto.excText e))

namespace Issuer

def revocationList (s : Issuer crypto) : RevocationList :=
  ⟨s.revokedDelegations, s.revokedNodes, s.revokedOwners⟩

/-! ## Documents -/

def ownershipExpiry (s : Issuer crypto) (now : Int) : Int :=
  s.nodeOwnershipExpiresAtUnixMs.getD (now + s.maxValidityMs)

/-- The signed body of an ownership document. -/
def ownershipBody (s : Issuer crypto) (ownerPub ownerId : String) (now : Int) :
    List (String × Json) :=
  [("owner_id", .str ownerId),
   ("owner_sign_public_key", .str ownerPub),
   ("node_endpoint_id", .str s.nodeEndpointId),
   ("issued_at_unix_ms", .int now),
   ("expires_at_unix_ms", .int (s.ownershipExpiry now))]

/-- `_current_cert_id`, at a reading of the clock. -/
def currentCertId (s : Issuer crypto) (ownerPub ownerId : String) (now : Int) : String :=
  crypto.sha256Hex (jcs (.obj (s.ownershipBody ownerPub ownerId now)))

def nodeOwnershipDocument (clock : ℕ → Int) (s : Issuer crypto) :
    Except IssuerError Json × Issuer crypto :=
  match s.ownerSigningKey with
  | none => (.error .ownerIdentityUnavailable, s)
  | some key =>
      let ownerPub := pubHex crypto key
      match deriveOwnerId crypto ownerPub with
      | .error e => (.error (.python e), { s with ticks := s.ticks + 1 })
      | .ok ownerId =>
        let body := s.ownershipBody ownerPub ownerId (clock s.ticks)
        let signedBytes := jcs (.obj body)
        let sig := hexText (crypto.sign key signedBytes)
        (.ok (.obj (body ++
          [("cert_id", .str (crypto.sha256Hex signedBytes)), ("_sig", .str sig)])),
         { s with ticks := s.ticks + 1, ownerSigningCount := s.ownerSigningCount + 1 })

/-- The fields of a delegation that the issuer chooses for this call. -/
structure Grant where
  delegationId : String
  pluginPub : String
  scope : String
  validityMs : Int

/-- The signed body of a delegation. -/
def delegationBody (s : Issuer crypto) (ownerPub ownerId : String) (grant : Grant)
    (now certNow : Int) : List (String × Json) :=
  [("delegation_id", .str grant.delegationId),
   ("owner_id", .str ownerId),
   ("owner_sign_public_key", .str ownerPub),
   ("node_endpoint_id", .str s.nodeEndpointId),
   ("node_ownership_cert_id", .str (s.currentCertId ownerPub ownerId certNow)),
   ("plugin_id", .str s.pluginId),
   ("plugin_version", .str s.pluginVersion),
   ("delegated_signing_public_key", .str grant.pluginPub),
   ("scope", .str grant.scope),
   ("issued_at_unix_ms", .int now),
   ("expires_at_unix_ms", .int (now + grant.validityMs))] ++
    (s.pluginArtifactDigest.map fun digest => ("plugin_artifact_digest", Json.str digest)).toList

def signedDelegation (s : Issuer crypto) (key : crypto.PrivateKey) (ownerId : String)
    (grant : Grant) (now certNow : Int) : Json :=
  let body := s.delegationBody (pubHex crypto key) ownerId grant now certNow
  let sig := crypto.sign key (DELEGATION_DOMAIN_TAG ++ jcs (.obj body))
  .obj (body ++ [("_sig", .str (hexText sig))])

/-! ## Operations -/

def unregistered (s : Issuer crypto) (scope : String) : IssuerError :=
  .unregisteredScope ("scope " ++ pyRepr scope ++ " is not registered; registered scopes: " ++
    (Json.arr ((s.registeredScopes.insertionSort (· ≤ ·)).map .str)).pyRepr)

def issueDelegation (clock : ℕ → Int) (s : Issuer crypto) (keyHex scope : String)
    (validityMs : Option Int) (delegationId : Option String) (freshId : String) :
    Except IssuerError Json × Issuer crypto :=
  match s.ownerSigningKey with
  | none => (.error .ownerIdentityUnavailable, s)
  | some key =>
      if scope ∉ s.registeredScopes then (.error (s.unregistered scope), s)
      else
        match validatePluginPubkey crypto keyHex with
        | .error e => (.error e, s)
        | .ok pluginPub =>
          match deriveOwnerId crypto (pubHex crypto key) with
          | .error e => (.error (.python e), { s with ticks := s.ticks + 1 })
          | .ok ownerId =>
            let grant : Grant :=
              { delegationId := (delegationId.filter (· ≠ "")).getD freshId
                pluginPub := pluginPub
                scope := scope
                validityMs := min (validityMs.getD s.maxValidityMs) s.maxValidityMs }
            (.ok (s.signedDelegation key ownerId grant (clock s.ticks) (clock (s.ticks + 1))),
             { s with ticks := s.ticks + 2, ownerSigningCount := s.ownerSigningCount + 1 })

/-- The strings that `renew` and `reissue_on_plugin_key_change` take from a delegation.  Each
document that an issuer returned holds texts there; any other value, which the code passes on,
is left out. -/
def stringItem (delegation : Json) (key : String) : Except IssuerError String :=
  (do (← delegation.item key).toStr : Py String).mapError .python

def renew (clock : ℕ → Int) (s : Issuer crypto) (delegation : Json) (validityMs : Option Int)
    (freshId : String) : Except IssuerError Json × Issuer crypto :=
  match stringItem delegation "delegated_signing_public_key", stringItem delegation "scope" with
  | .ok keyHex, .ok scope => s.issueDelegation clock keyHex scope validityMs none freshId
  | .error e, _ => (.error e, s)
  | _, .error e => (.error e, s)

def revokeDelegation (s : Issuer crypto) (id : String) : Issuer crypto :=
  { s with revokedDelegations := id :: s.revokedDelegations }

def reissueOnPluginKeyChange (clock : ℕ → Int) (s : Issuer crypto) (old : Json)
    (newKeyHex freshId : String) : Except IssuerError Json × Issuer crypto :=
  match stringItem old "delegation_id" with
  | .error e => (.error e, s)
  | .ok id =>
      let revoked := s.revokeDelegation id
      match stringItem old "scope" with
      | .error e => (.error e, revoked)
      | .ok scope => revoked.issueDelegation clock newKeyHex scope none none freshId

def rotateNodeEndpoint (s : Issuer crypto) (newNodeEndpointId : String) :
    Except IssuerError Unit × Issuer crypto :=
  match validatePluginPubkey crypto newNodeEndpointId with
  | .error e => (.error e, s)
  | .ok id => (.ok (), { s with nodeEndpointId := id })

theorem issueDelegation_revocationList (clock : ℕ → Int) (s : Issuer crypto)
    (keyHex scope freshId : String) (validityMs : Option Int) (delegationId : Option String) :
    (s.issueDelegation clock keyHex scope validityMs delegationId freshId).2.revocationList =
      s.revocationList := by
  rw [issueDelegation]
  split
  · rfl
  · split_ifs
    · split
      · rfl
      · split <;> rfl
    · rfl

end Issuer

inductive Operation (crypto : Crypto) where
  | issueDelegation (keyHex scope : String) (validityMs : Option Int)
      (delegationId : Option String) (freshId : String)
  | renew (delegation : Json) (validityMs : Option Int) (freshId : String)
  | reissueOnPluginKeyChange (old : Json) (newKeyHex freshId : String)
  | revokeDelegation (id : String)
  | revokeNode (id : String)
  | revokeOwner (id : String)
  | rotateNodeEndpoint (id : String)
  | rotateOwnerKey (key : crypto.PrivateKey)
  | nodeOwnershipDocument

inductive Outcome where
  | delegation (document : Json)
  | ownership (document : Json)
  | done
  | raised (e : IssuerError)

def outcomeOf {α : Type} (wrap : α → Outcome) : Except IssuerError α → Outcome
  | .ok a => wrap a
  | .error e => .raised e

def step (clock : ℕ → Int) (s : Issuer crypto) : Operation crypto → Outcome × Issuer crypto
  | .issueDelegation keyHex scope validityMs delegationId freshId =>
      (s.issueDelegation clock keyHex scope validityMs delegationId freshId).map
        (outcomeOf .delegation) id
  | .renew delegation validityMs freshId =>
      (s.renew clock delegation validityMs freshId).map (outcomeOf .delegation) id
  | .reissueOnPluginKeyChange old newKeyHex freshId =>
      (s.reissueOnPluginKeyChange clock old newKeyHex freshId).map (outcomeOf .delegation) id
  | .revokeDelegation id => (.done, s.revokeDelegation id)
  | .revokeNode id => (.done, { s with revokedNodes := id :: s.revokedNodes })
  | .revokeOwner id => (.done, { s with revokedOwners := id :: s.revokedOwners })
  | .rotateNodeEndpoint endpoint =>
      (s.rotateNodeEndpoint endpoint).map (outcomeOf fun _ => .done) id
  | .rotateOwnerKey key => (.done, { s with ownerSigningKey := some key })
  | .nodeOwnershipDocument => (s.nodeOwnershipDocument clock).map (outcomeOf .ownership) id

/-- The state after a sequence of operations. -/
def runState (clock : ℕ → Int) (s : Issuer crypto) (ops : List (Operation crypto)) :
    Issuer crypto :=
  ops.foldl (fun s op => (step clock s op).2) s

end CapsuleMesh.Delegation
