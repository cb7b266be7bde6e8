import CapsuleMesh.Delegation.RoundTrip

/-!
# Stale delegations

A delegation outlives the state it was issued in.  Whatever the issuer does next, its
current ownership document and revocation list only go with the delegations of the owner
and node it has now, and with none that it ever revoked.
-/

namespace CapsuleMesh.Delegation

open Python

variable {crypto : Crypto}

/-! ## What a run revokes -/

inductive Revocation where
  | delegation (id : String)
  | node (id : String)
  | owner (id : String)
deriving DecidableEq

/-- What an operation revokes, whether or not it goes on to raise. -/
def Operation.revokes : Operation crypto → Option Revocation
  | .revokeDelegation id => some (.delegation id)
  | .revokeNode id => some (.node id)
  | .revokeOwner id => some (.owner id)
  | .reissueOnPluginKeyChange old _ _ =>
      match Issuer.stringItem old "delegation_id" with
      | .ok id => some (.delegation id)
      | .error _ => none
  | _ => none

theorem Operation.eq_revokeNode {op : Operation crypto} {text : String}
    (h : op.revokes = some (.node text)) : op = .revokeNode text := by
  cases op with
  | revokeNode id =>
      obtain rfl := Revocation.node.inj (Option.some.inj h)
      rfl
  | reissueOnPluginKeyChange old newKeyHex freshId =>
      rw [Operation.revokes] at h
      split at h <;> cases h
  | _ => cases h

namespace RevocationList

def add (revocations : RevocationList) : Option Revocation → RevocationList
  | none => revocations
  | some (.delegation id) =>
      { revocations with revokedDelegations := id :: revocations.revokedDelegations }
  | some (.node id) => { revocations with revokedNodes := id :: revocations.revokedNodes }
  | some (.owner id) => { revocations with revokedOwners := id :: revocations.revokedOwners }

def Has (revocations : RevocationList) : Revocation → Prop
  | .delegation id => id ∈ revocations.revokedDelegations
  | .node id => id ∈ revocations.revokedNodes
  | .owner id => id ∈ revocations.revokedOwners

theorem has_add_self (revocations : RevocationList) (r : Revocation) :
    (revocations.add (some r)).Has r := by
  cases r <;> exact List.mem_cons_self

theorem Has.add {revocations : RevocationList} {r : Revocation} (h : revocations.Has r)
    (new : Option Revocation) : (revocations.add new).Has r := by
  cases new with
  | none => exact h
  | some new =>
      cases new <;> cases r <;> first
        | exact h
        | exact List.mem_cons_of_mem _ h

end RevocationList

theorem step_revocationList (clock : ℕ → Int) (s : Issuer crypto) (op : Operation crypto) :
    (step clock s op).2.revocationList = s.revocationList.add op.revokes := by
  cases op with
  | issueDelegation keyHex scope validityMs delegationId freshId =>
      exact Issuer.issueDelegation_revocationList clock s keyHex scope freshId validityMs delegationId
  | renew delegation validityMs freshId =>
      simp only [step, Prod.map_snd, Issuer.renew]
      split
      · exact Issuer.issueDelegation_revocationList clock s _ _ _ _ _
      · rfl
      · rfl
  | reissueOnPluginKeyChange old newKeyHex freshId =>
      simp only [step, Prod.map_snd, Issuer.reissueOnPluginKeyChange, Operation.revokes]
      cases Issuer.stringItem old "delegation_id" with
      | error e => rfl
      | ok id =>
        -- The old delegation is revoked before anything else can raise.
        cases Issuer.stringItem old "scope" with
        | error e => rfl
        | ok scope => exact Issuer.issueDelegation_revocationList clock _ _ _ _ _ _
  | revokeDelegation _ | revokeNode _ | revokeOwner _ | rotateOwnerKey _ => rfl
  | rotateNodeEndpoint id =>
      simp only [step, Prod.map_snd, Issuer.rotateNodeEndpoint]
      split <;> rfl
  | nodeOwnershipDocument =>
      simp only [step, Prod.map_snd, Issuer.nodeOwnershipDocument]
      repeat' split
      all_goals rfl

theorem has_runState (clock : ℕ → Int) {s : Issuer crypto} {r : Revocation}
    (ops : List (Operation crypto)) (h : s.revocationList.Has r) :
    (runState clock s ops).revocationList.Has r := by
  induction ops generalizing s with
  | nil => exact h
  | cons op ops ih =>
      apply ih
      rw [step_revocationList]
      exact h.add _

/-- A revocation is on the list of every later state. -/
theorem has_of_revokes (clock : ℕ → Int) (s : Issuer crypto) {ops : List (Operation crypto)}
    {op : Operation crypto} (hop : op ∈ ops) {r : Revocation} (h : op.revokes = some r) :
    (runState clock s ops).revocationList.Has r := by
  obtain ⟨before, after, rfl⟩ := List.append_of_mem hop
  rw [runState, List.foldl_append, List.foldl_cons]
  apply has_runState
  rw [step_revocationList, h]
  exact RevocationList.has_add_self _ r

/-! ## What an accepted chain says -/

/-- The text is the id of the node, or one that the issuer would keep as that id. -/
def SpellsNode (crypto : Crypto) (text node : String) : Prop :=
  text = node ∨ validatePluginPubkey crypto text = .ok node

/-- The revocation is of this delegation, its node or its owner. -/
def Revocation.Names (crypto : Crypto) (delegation : Json) : Revocation → Prop
  | .delegation id => delegation.get "delegation_id" = .ok (.str id)
  | .node text => ∃ node, delegation.get "node_endpoint_id" = .ok (.str node) ∧
      SpellsNode crypto text node
  | .owner id => delegation.get "owner_id" = .ok (.str id)

/-- A revocation names the delegation by the very text that its document holds. -/
def Revocation.OnList (delegation : Json) : Revocation → Prop
  | .delegation id => delegation.get "delegation_id" = .ok (.str id)
  | .node id => delegation.get "node_endpoint_id" = .ok (.str id)
  | .owner id => delegation.get "owner_id" = .ok (.str id)

theorem verifyExpiryAndRevocation_passes {delegation nodeOwnership : Json}
    {revocations : RevocationList} {nowMs : Int} {result : VerifyResult}
    (h : verifyExpiryAndRevocation delegation nodeOwnership revocations nowMs = .ok result)
    (hok : result.ok = true) {r : Revocation} (hnames : r.OnList delegation) :
    ¬revocations.Has r := by
  unfold verifyExpiryAndRevocation at h
  obtain ⟨expired, -, h⟩ := Py.bind_eq_ok.mp h
  cases expired with
  | some expires =>
      obtain rfl := Except.ok.inj h
      cases hok
  | none =>
      obtain ⟨id, hid, h⟩ := Py.bind_eq_ok.mp h
      obtain ⟨node, hnode, h⟩ := Py.bind_eq_ok.mp h
      obtain ⟨owner, howner, h⟩ := Py.bind_eq_ok.mp h
      split at h
      · obtain rfl := Except.ok.inj h
        cases hok
      · rename_i hid'
        split at h
        · obtain rfl := Except.ok.inj h
          cases hok
        · rename_i hnode'
          split at h
          · obtain rfl := Except.ok.inj h
            cases hok
          · rename_i howner'
            cases r with
            | delegation _ =>
              obtain rfl := Except.ok.inj (hid.symm.trans hnames)
              simpa [RevocationList.Has] using hid'
            | node _ =>
              obtain rfl := Except.ok.inj (hnode.symm.trans hnames)
              simpa [RevocationList.Has] using hnode'
            | owner _ =>
              obtain rfl := Except.ok.inj (howner.symm.trans hnames)
              simpa [RevocationList.Has] using howner'

/-- Steps 4b and 4c compare the owner and the node of the two documents. -/
theorem verifyNodeOwnership_passes {nodeOwnership delegation : Json}
    {owner delegationOwner node delegationNode : String} {result : VerifyResult}
    (h : verifyNodeOwnership crypto nodeOwnership delegation = .ok result)
    (hok : result.ok = true) (howner : nodeOwnership.get "owner_id" = .ok (.str owner))
    (howner' : delegation.get "owner_id" = .ok (.str delegationOwner))
    (hnode : nodeOwnership.get "node_endpoint_id" = .ok (.str node))
    (hnode' : delegation.get "node_endpoint_id" = .ok (.str delegationNode)) :
    delegationOwner = owner ∧ delegationNode = node := by
  unfold verifyNodeOwnership at h
  simp only [] at h
  split at h
  · simp only [verifyOwnershipBinding, howner, howner', hnode, hnode', Py.ok_bind, pyEq_str] at h
    split at h
    · obtain rfl := Except.ok.inj h
      cases hok
    · rename_i hownerEq
      split at h
      · obtain rfl := Except.ok.inj h
        cases hok
      · rename_i hnodeEq
        simp only [Bool.not_eq_true', decide_eq_false_iff_not, not_not] at hownerEq hnodeEq
        exact ⟨hownerEq.symm, hnodeEq.symm⟩
  all_goals
    obtain rfl := Except.ok.inj h
    cases hok

/-- Different owner keys have different owner ids. -/
theorem publicBytes_eq_of_ownerId (hinj : Function.Injective crypto.sha256Hex)
    {key key' : crypto.PrivateKey} {ownerId : String}
    (h : deriveOwnerId crypto (pubHex crypto key) = .ok ownerId)
    (h' : deriveOwnerId crypto (pubHex crypto key') = .ok ownerId) :
    crypto.publicBytes key = crypto.publicBytes key' := by
  have hbytes : ∀ {k : crypto.PrivateKey}, deriveOwnerId crypto (pubHex crypto k) = .ok ownerId →
      crypto.sha256Hex (crypto.publicBytes k) = ownerId := by
    intro k hk
    obtain ⟨raw, hraw, hid⟩ := Py.bind_eq_ok.mp hk
    obtain ⟨decoded, hdecoded, hraw⟩ := Py.bind_eq_ok.mp hraw
    rw [pubHex, bytesFromHex_hexText] at hdecoded
    obtain rfl := Except.ok.inj hdecoded
    split at hraw
    · obtain rfl := Except.ok.inj hraw
      exact Except.ok.inj hid
    · cases hraw
  exact hinj ((hbytes h).trans (hbytes h').symm)

/-! ## The issuer's current documents -/

/-- A delegation names the owner and the node of a state. -/
structure Issuer.NamedIn (s : Issuer crypto) (delegation : Json) : Prop where
  owner : ∃ key ownerId, s.ownerSigningKey = some key ∧
    deriveOwnerId crypto (pubHex crypto key) = .ok ownerId ∧
    delegation.item "owner_sign_public_key" = .ok (.str (pubHex crypto key)) ∧
    delegation.get "owner_id" = .ok (.str ownerId)
  node : delegation.get "node_endpoint_id" = .ok (.str s.nodeEndpointId)

/-- What the rotations change, as others see it. -/
def Issuer.publicIdentity (s : Issuer crypto) : Option Bytes × String :=
  (s.ownerSigningKey.map crypto.publicBytes, s.nodeEndpointId)

/-- Where nothing that the operations revoke is listed, something is revoked all the same only by
a `revoke_node` that spells the id of the node another way. -/
theorem unrevoked_iff {ops : List (Operation crypto)} {delegation : Json} {node : String}
    (hnode : delegation.get "node_endpoint_id" = .ok (.str node))
    (hunlisted : ∀ op ∈ ops, ∀ r, op.revokes = some r → ¬r.OnList delegation) :
    (∀ op ∈ ops, ∀ r, op.revokes = some r → ¬r.Names crypto delegation) ↔
      ∀ text, .revokeNode text ∈ ops → validatePluginPubkey crypto text = .ok node →
        text = node := by
  constructor
  · intro hunrevoked text htext hspells
    exact absurd ⟨_, hnode, .inr hspells⟩ (hunrevoked _ htext (.node text) rfl)
  · intro hspelling op hop r hr hnames
    cases r with
    | delegation _ | owner _ => exact hunlisted op hop _ hr hnames
    | node text =>
      obtain ⟨node', hget, hspells⟩ := hnames
      obtain rfl : node = node' := Json.str.inj (Except.ok.inj (hnode.symm.trans hget))
      have hrevokes : op = .revokeNode text := Operation.eq_revokeNode hr
      have htext : text = node := hspells.elim id (hspelling text (hrevokes ▸ hop))
      exact hunlisted op hop _ hr (htext ▸ hget)

/-- Whatever the issuer does before and after a delegation, its current documents are
accepted with it only when the owner and the node are still the ones it was issued under
and it was not replaced.  Nothing in the run revoked it exactly when each `revoke_node` that means
its node spells the id as the issuer keeps it. -/
theorem accepted_is_current (hinj : Function.Injective crypto.sha256Hex) {clock : ℕ → Int}
    {start s : Issuer crypto} {before after : List (Operation crypto)} {op : Operation crypto}
    (hs : s = runState clock start (before ++ op :: after)) {input : ChainInput}
    (hdelegation : (step clock (runState clock start before) op).1 = .delegation input.delegation)
    (hownership : (step clock s .nodeOwnershipDocument).1 = .ownership input.nodeOwnership)
    (hrevocations : input.revocations = s.revocationList) (haccepts : Accepts crypto input) :
    s.NamedIn input.delegation ∧
      (runState clock start before).publicIdentity = s.publicIdentity ∧
      (∀ newKeyHex freshId,
        .reissueOnPluginKeyChange input.delegation newKeyHex freshId ∉ before ++ op :: after) ∧
      ((∀ op' ∈ before ++ op :: after, ∀ r, op'.revokes = some r →
          ¬r.Names crypto input.delegation) ↔
        ∀ text, .revokeNode text ∈ before ++ op :: after →
          validatePluginPubkey crypto text = .ok s.nodeEndpointId → text = s.nodeEndpointId) := by
  obtain ⟨key, ownerId, grant, hissues⟩ := step_delegation hdelegation
  obtain ⟨key', ownerId', hkey', hownerId', hdocument⟩ := step_ownership hownership
  rw [accepts_iff] at haccepts
  obtain ⟨ownership, hownershipStep, hownershipOk⟩ := haccepts
    (verifyNodeOwnership crypto input.nodeOwnership input.delegation) (by simp [chainSteps])
  obtain ⟨expiry, hexpiryStep, hexpiryOk⟩ := haccepts
    (verifyExpiryAndRevocation input.delegation input.nodeOwnership input.revocations input.nowMs)
    (by simp [chainSteps])
  have hd := hissues.document_eq
  obtain ⟨howner, hnode⟩ := verifyNodeOwnership_passes hownershipStep hownershipOk
    (hdocument ▸ Issuer.owner_id_signedOwnership _ _ _ _)
    (hd ▸ Issuer.owner_id_signedDelegation _ _ _ _ _ _)
    (hdocument ▸ Issuer.node_signedOwnership _ _ _ _)
    (hd ▸ Issuer.node_signedDelegation _ _ _ _ _ _)
  subst howner
  have hkeys := publicBytes_eq_of_ownerId hinj hissues.ownerId_eq hownerId'
  have hunlisted : ∀ op' ∈ before ++ op :: after, ∀ r, op'.revokes = some r →
      ¬r.OnList input.delegation := by
    intro op' hop' r hr honList
    apply verifyExpiryAndRevocation_passes hexpiryStep hexpiryOk honList
    rw [hrevocations, hs]
    exact has_of_revokes clock start hop' hr
  have hnodeOf : input.delegation.get "node_endpoint_id" = .ok (.str s.nodeEndpointId) := by
    rw [hd, ← hnode]
    exact Issuer.node_signedDelegation _ _ _ _ _ _
  refine ⟨⟨⟨key', ownerId, hkey', hownerId', ?_, ?_⟩, hnodeOf⟩, ?_, ?_, ?_⟩
  · rw [hd, pubHex, ← hkeys]
    exact Issuer.owner_key_signedDelegation _ _ _ _ _ _
  · rw [hd]
    exact Issuer.owner_id_signedDelegation _ _ _ _ _ _
  · rw [Issuer.publicIdentity, Issuer.publicIdentity, hissues.owner, hkey', hnode,
      Option.map_some, Option.map_some, hkeys]
  · intro newKeyHex freshId hreissue
    refine hunlisted _ hreissue (.delegation grant.delegationId) ?_ ?_ <;> rw [hd] <;> rfl
  · exact unrevoked_iff hnodeOf hunlisted

/-- The ownership document does not depend on what is revoked. -/
theorem ownership_of_revocations (clock : ℕ → Int) (s : Issuer crypto)
    (delegations nodes owners : List String) :
    (step clock { s with
        revokedDelegations := delegations
        revokedNodes := nodes
        revokedOwners := owners } .nodeOwnershipDocument).1 =
      (step clock s .nodeOwnershipDocument).1 := by
  simp only [step, Prod.map_fst, Issuer.nodeOwnershipDocument]
  cases howner : s.ownerSigningKey with
  | none => rfl
  | some key =>
      dsimp only
      cases deriveOwnerId crypto (pubHex crypto key) <;> rfl

/-- The delegation of the host is accepted with every list that leaves out its own texts. -/
theorem accepts_hostChain_of_unlisted {revocations : RevocationList}
    (hid : "deleg-00" ∉ revocations.revokedDelegations)
    (hnode : host.nodeEndpointId ∉ revocations.revokedNodes)
    (howner : hostOwnerId ∉ revocations.revokedOwners) :
    Accepts plainCrypto { hostChain 7 7 7 with revocations } := by
  have hpresents : Presents plainCrypto { hostChain 7 7 7 with revocations } (3 : UInt8) :=
    { presents_hostChain 7 7 7 with
      id_unrevoked := by
        intro id h
        obtain rfl : "deleg-00" = id := Json.str.inj (Except.ok.inj h)
        exact hid
      node_unrevoked := hnode
      owner_unrevoked := by
        intro id h
        obtain rfl : hostOwnerId = id := Json.str.inj (Except.ok.inj h)
        exact howner }
  rw [accepts_signed_iff (s := host) (t := host) plainCrypto_ideal rfl deriveOwnerId_host rfl
    rfl hpresents]
  exact ⟨rfl, (by decide : (7 : Int) ≤ 7 + 1000)⟩

theorem accepted_is_current_host :
    let clock : ℕ → Int := fun _ => 7
    let ops := [hostIssues, .revokeDelegation "deleg-99", .revokeNode (plainKeyHex 4)]
    let input := { hostChain 7 7 7 with revocations := ⟨["deleg-99"], [plainKeyHex 4], []⟩ }
    (runState clock host ops).revocationList = input.revocations ∧ Accepts plainCrypto input ∧
      (runState clock host ops).NamedIn input.delegation ∧
      ∀ op ∈ ops, ∀ r, op.revokes = some r → ¬r.Names plainCrypto input.delegation := by
  intro clock ops input
  obtain ⟨hdelegation, hissued, hownership⟩ := step_hostIssues clock
  have hstate : runState clock host ops = { (step clock host hostIssues).2 with
      revokedDelegations := ["deleg-99"]
      revokedNodes := [plainKeyHex 4]
      revokedOwners := [] } := by
    rw [runState, List.foldl_cons, hissued]
    rfl
  rw [← ownership_of_revocations clock _ ["deleg-99"] [plainKeyHex 4] [], ← hstate] at hownership
  have hrevocations : (runState clock host ops).revocationList = input.revocations := by
    rw [hstate]
    rfl
  have hother : plainKeyHex 4 ≠ host.nodeEndpointId := by decide
  have haccepts : Accepts plainCrypto input :=
    accepts_hostChain_of_unlisted (by decide) (by simpa using hother.symm) List.not_mem_nil
  have hops : runState clock host ops = runState clock host
      ([] ++ hostIssues :: [.revokeDelegation "deleg-99", .revokeNode (plainKeyHex 4)]) := rfl
  obtain ⟨hnamed, -, -, hiff⟩ := @accepted_is_current plainCrypto hexText_injective clock host _
    _ _ _ hops input hdelegation hownership hrevocations.symm haccepts
  refine ⟨hrevocations, haccepts, hnamed, hiff.mpr fun text htext hspells => ?_⟩
  obtain rfl : text = plainKeyHex 4 := by simpa [hostIssues] using htext
  rw [validatePluginPubkey_plain] at hspells
  exact Except.ok.inj hspells

/-- The text that the node was given under, with capital digits. -/
def capitalNodeId : String := String.ofList (List.replicate (2 * 32) 'A')

theorem fromHexFrom_capitals (n position : ℕ) :
    fromHexFrom position (List.replicate (2 * n) 'A') = .ok (List.replicate n 170) := by
  induction n generalizing position with
  | zero => rfl
  | succ n ih =>
      have hblank : ¬isHexSpace 'A' = true := by decide
      have hdigit : hexDigit? 'A' = some 10 := by decide
      rw [Nat.mul_succ, fromHexFrom.eq_def]
      simp only [List.replicate_succ]
      rw [if_neg hblank]
      split
      · simp_all
      · simp_all
      · rename_i hi d ds hfound hcons
        obtain ⟨rfl, rfl⟩ := List.cons.inj hcons
        obtain rfl := Option.some.inj (hfound.symm.trans hdigit)
        simp only [hdigit, ih]
        rfl

theorem bytesFromHex_capitals (n : ℕ) :
    bytesFromHex (String.ofList (List.replicate (2 * n) 'A')) = .ok (List.replicate n 170) := by
  rw [bytesFromHex, String.toList_ofList, fromHexFrom_capitals]

theorem validatePluginPubkey_capitals :
    validatePluginPubkey plainCrypto capitalNodeId = .ok host.nodeEndpointId := by
  have hbytes : bytesFromHex capitalNodeId = .ok (List.replicate 32 170) :=
    bytesFromHex_capitals 32
  have hraw : rawPublicKeyBytes capitalNodeId = .ok (List.replicate 32 170) := by
    rw [rawPublicKeyBytes, hbytes, Py.ok_bind, if_pos List.length_replicate, Py.pure_eq_ok]
  have hpoint : plainCrypto.isPoint (List.replicate 32 170) = true := rfl
  have hload : loadEd25519Pubkey plainCrypto capitalNodeId = .ok (List.replicate 32 170) := by
    rw [loadEd25519Pubkey, hraw, Py.ok_bind, if_pos hpoint, Py.pure_eq_ok]
  rw [validatePluginPubkey, hload]
  exact congrArg Except.ok rfl

/-- A node is revoked by the text that it was given under, and its delegation still accepted. -/
theorem node_revoked_as_given_accepted :
    let clock : ℕ → Int := fun _ => 7
    let ops := [.rotateNodeEndpoint capitalNodeId, hostIssues, .revokeNode capitalNodeId]
    let input := { hostChain 7 7 7 with revocations := ⟨[], [capitalNodeId], []⟩ }
    (step clock host (.rotateNodeEndpoint capitalNodeId)) = (.done, host) ∧
      (step clock host hostIssues).1 = .delegation input.delegation ∧
      (step clock (runState clock host ops) .nodeOwnershipDocument).1 =
        .ownership input.nodeOwnership ∧
      (runState clock host ops).revocationList = input.revocations ∧
      Accepts plainCrypto input ∧
      (Operation.revokeNode capitalNodeId : Operation plainCrypto).revokes =
        some (.node capitalNodeId) ∧
      (Revocation.node capitalNodeId).Names plainCrypto input.delegation := by
  intro clock ops input
  have hspells := validatePluginPubkey_capitals
  have hrotates : step clock host (.rotateNodeEndpoint capitalNodeId) = (.done, host) := by
    simp only [step, Issuer.rotateNodeEndpoint, hspells]
    rfl
  obtain ⟨hdelegation, hissued, hownership⟩ := step_hostIssues clock
  have hstate : runState clock host ops = { (step clock host hostIssues).2 with
      revokedDelegations := []
      revokedNodes := [capitalNodeId]
      revokedOwners := [] } := by
    rw [runState, List.foldl_cons, hrotates, List.foldl_cons, hissued]
    rfl
  rw [← ownership_of_revocations clock _ [] [capitalNodeId] [], ← hstate] at hownership
  refine ⟨hrotates, hdelegation, hownership, by rw [hstate]; rfl, ?_, rfl, ?_⟩
  · exact accepts_hostChain_of_unlisted List.not_mem_nil (by decide) List.not_mem_nil
  · exact ⟨_, rfl, .inr hspells⟩

end CapsuleMesh.Delegation
