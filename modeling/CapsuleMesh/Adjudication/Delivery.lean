import CapsuleMesh.Adjudication.Twin

/-!
# The delivery door

`handle_delivery` of `adjudication_delivery.py`: a posted adjudication is refused as
malformed, declined by policy, or appended to the ledger of the node it cites.  The
body's parser, `verify` and the digest of the body are parameters; a refusal is kept
without its signature.
-/

namespace CapsuleMesh.Adjudication

open Python Sidecar

def adjudicationBlock (capsule : Json) : Py Json := do
  return (← (← attestationOf capsule).get "adjudication").or (.obj [])

/-- The values of the keys that end in `_capsule_id`, when they are non-empty strings. -/
def citedIn : List (String × Json) → List String
  | [] => []
  | (key, .str id) :: members =>
      if "_capsule_id".toList.isSuffixOf key.toList ∧ id ≠ "" then id :: citedIn members
      else citedIn members
  | _ :: members => citedIn members

def citedCapsuleIds (capsule : Json) : Py (List String) := do
  match ← adjudicationBlock capsule with
  | .obj members => return citedIn members
  | _ => throw .attributeError

/-- `_owner_id`. -/
def ownerId (capsule : Json) : Py Json := do
  ((← (← attestationOf capsule).get "owner").or (.obj [])).get "owner_id"

inductive RefusalReason where
  | requestMalformed
  | policyDeclined
deriving DecidableEq

/-- `status_for_refusal_reason`. -/
def RefusalReason.status : RefusalReason → Option String
  | .requestMalformed => none
  | .policyDeclined => some "WITHHELD"

inductive DeliveryAnswer where
  | received
  | refused (requestDigest : String) (reason : RefusalReason) (issuedAt : String)
      (status : Option String)
deriving DecidableEq

/-- What the door calls outside this module. -/
structure Door where
  /-- `json.loads(body)`, `none` when it raises. -/
  loads : Bytes → Option Json
  verify : Json → Bool
  sha256Hex : Bytes → String
  /-- `is_store_ledger`: the ledger is a store and no flat file. -/
  isStore : Bool
  /-- Appending this record would rotate the active segment, which the one-off open
  refuses to do. -/
  rotates : (records : List Json) → (capsule : Json) → Bool

def idText (record : Json) : Option String :=
  (record.item "capsule_id").toOption.bind Json.str?

/-- A record of the ledger has the id of this one. -/
def holdsId (records : List Json) (capsule : Json) : Bool :=
  (idText capsule).isSome && (records.map idText).contains (idText capsule)

/-- `append_capsule`: a store refuses a second record of one id. -/
def appendCapsule (door : Door) (records : List Json) (capsule : Json) : Py (List Json) :=
  if door.isStore && holdsId records capsule then .error .integrityError
  else if door.rotates records capsule then .error .runtimeError
  else .ok (records ++ [capsule])

/-- The ledger takes the record. -/
def Takes (door : Door) (records : List Json) (capsule : Json) : Prop :=
  (door.isStore = true → holdsId records capsule = false) ∧ door.rotates records capsule = false

theorem appendCapsule_eq_ok {door : Door} {records after : List Json} {capsule : Json} :
    appendCapsule door records capsule = .ok after ↔
      Takes door records capsule ∧ after = records ++ [capsule] := by
  unfold appendCapsule Takes
  cases door.isStore <;> cases holdsId records capsule <;> cases door.rotates records capsule <;>
    simp [eq_comm]

/-- A dictionary key must be hashable. -/
def hashable : Json → Bool
  | .arr _ => false
  | .obj _ => false
  | _ => true

/-- `{e["capsule_id"]: e for e in own_records}`, its entries in insertion order. -/
def ownEntries : List Json → Py (List (Json × Json))
  | [] => .ok []
  | e :: es => do
      let id ← e.item "capsule_id"
      if hashable id then return (id, e) :: (← ownEntries es) else throw .typeError

/-- The entry under a string key; the last one written is the one kept. -/
def entryAt (entries : List (Json × Json)) (id : String) : Option Json :=
  (entries.reverse.find? fun entry => entry.1.str? = some id).map Prod.snd

/-- `next((own_entries[cid] for cid in cited if cid in own_entries), None)`. -/
def ownHalf (entries : List (Json × Json)) (cited : List String) : Option Json :=
  cited.findSome? (entryAt entries)

def refuse (door : Door) (body : Bytes) (now : String) (reason : RefusalReason) : DeliveryAnswer :=
  .refused (door.sha256Hex body) reason now reason.status

/-- The policy and the append, once the own half that is cited was found. -/
def receive (door : Door) (records : List Json) (body : Bytes) (now : String)
    (capsule half : Json) : Py (DeliveryAnswer × List Json) := do
  let own ← ownerId half
  let verdict ← (← adjudicationBlock capsule).get "verdict"
  if own.truthy && verdict.str? = some (VERDICT_CONTRADICTED_PREFIX ++ own.pyStr) then
    return (refuse door body now .policyDeclined, records)
  else return (.received, ← appendCapsule door records capsule)

/-- `handle_delivery` against a ledger, with the ledger it leaves. -/
def handleDelivery (door : Door) (records : List Json) (body : Bytes) (now : String) :
    Py (DeliveryAnswer × List Json) :=
  let malformed := (refuse door body now .requestMalformed, records)
  match door.loads body with
  | some (.obj members) =>
      let capsule := Json.obj members
      if ¬ ((members.lookup "capsule_id").getD .null).truthy then .ok malformed
      else if ¬ door.verify capsule then .ok malformed
      else do
        let cited ← citedCapsuleIds capsule
        if cited.isEmpty then return malformed
        else
          let entries ← ownEntries records
          match ownHalf entries cited with
          | none => return malformed
          | some half => receive door records body now capsule half
  | _ => .ok malformed

/-- A body the door does not refuse as malformed: a verified capsule that cites the
record `half` of this ledger. -/
structure Delivers (door : Door) (records : List Json) (body : Bytes) (members : List (String × Json))
    (half : Json) : Prop where
  loads : door.loads body = some (.obj members)
  capsuleId : ((members.lookup "capsule_id").getD .null).truthy = true
  verified : door.verify (.obj members) = true
  cites : ∃ cited entries, citedCapsuleIds (.obj members) = .ok cited ∧ cited.isEmpty = false ∧
    ownEntries records = .ok entries ∧ ownHalf entries cited = some half

theorem handleDelivery_eq_receive {door : Door} {records : List Json} {body : Bytes}
    {members : List (String × Json)} {half : Json}
    (h : Delivers door records body members half) (now : String) :
    handleDelivery door records body now = receive door records body now (.obj members) half := by
  obtain ⟨cited, entries, hcited, hne, hentries, hhalf⟩ := h.cites
  have hne : cited ≠ [] := by simpa using hne
  simp [handleDelivery, h.loads, h.capsuleId, h.verified, hcited, hne, hentries, hhalf]

/-! ## The owner that was sealed and the owner that is read -/

section Owner

variable {emit : Emit} {digests : Digests} {owner : String} {capsule : Json}

/-- The owner id in `x-mesh-poc-v1`, where `build_capsule` puts the owner block. -/
def sealedOwnerId (capsule : Json) : Py Json := do
  let poc := (← (← attestationOf capsule).get "x-mesh-poc-v1").or (.obj [])
  ((← poc.get "owner").or (.obj [])).get "owner_id"

/-- A serving capsule of a sidecar whose certificate was bound to this owner. -/
def SealedUnder (emit : Emit) (digests : Digests) (owner : String) (capsule : Json) : Prop :=
  ∃ cfg args number prior relationHead block,
    emitServing emit digests cfg args number prior relationHead = .ok capsule ∧
    ownerBlock digests cfg args = .ok block ∧
    block.get "owner_status" = .ok (.str "bound") ∧
    block.get "owner_id" = .ok (.str owner)

/-- The attestation of a sealed capsule holds the owner in its `x-mesh-poc-v1` block
and nowhere else. -/
theorem SealedUnder.attestationOf (hemit : EmitContract emit)
    (h : SealedUnder emit digests owner capsule) :
    ∃ members poc block, Adjudication.attestationOf capsule = .ok (.obj members) ∧
      members.lookup "owner" = none ∧ members.lookup "x-mesh-poc-v1" = some (.obj poc) ∧
      poc.lookup "owner" = some block ∧ block.get "owner_id" = .ok (.str owner) := by
  obtain ⟨cfg, args, number, prior, relationHead, block, hseal, hblock, -, hid⟩ := h
  obtain ⟨ea, hcapsule, -, -, -, hatt⟩ := emitServing_ok hseal
  obtain ⟨members, parameters, modelId, reconciliation, block', hobj, hpoc, hnone, hblock', -⟩ :=
    computeAttestation_ok hatt
  obtain ⟨fields, rfl, attestation, hmodel, hcompute⟩ := hemit.compute hcapsule
  obtain rfl : block = block' := Except.ok.inj (hblock.symm.trans hblock')
  refine ⟨members, _, block, ?_, hnone, hpoc, rfl, hid⟩
  simp [Adjudication.attestationOf, hmodel, hcompute, hobj]

theorem SealedUnder.sealedOwnerId (hemit : EmitContract emit)
    (h : SealedUnder emit digests owner capsule) :
    Adjudication.sealedOwnerId capsule = .ok (.str owner) := by
  obtain ⟨members, poc, block, hatt, -, hpoc, hblock, hid⟩ := h.attestationOf hemit
  have hblockne : block.truthy = true := by
    cases block with
    | obj ms =>
        cases ms with
        | nil => cases hid
        | cons m ms => rfl
    | _ => cases hid
  simp [Adjudication.sealedOwnerId, hatt, hpoc, hblock, hid, Json.or_of_truthy hblockne]

/-- The half that adjudication builds from a sealed capsule has no owner. -/
theorem SealedUnder.fromCapsuleAndDisclosure (hemit : EmitContract emit)
    (h : SealedUnder emit digests owner capsule) (disclosed : Json) (weights : Option String) :
    ∃ half, Adjudication.fromCapsuleAndDisclosure capsule disclosed weights = .ok half ∧
      half.ownerId = .null := by
  obtain ⟨members, poc, block, hatt, howner, -, -, -⟩ := h.attestationOf hemit
  refine ⟨⟨capsule, disclosed, .null, weights, (members.lookup "decoding").getD .null⟩, ?_, rfl⟩
  simp [Adjudication.fromCapsuleAndDisclosure, hatt, howner, Json.or]

theorem SealedUnder.ownerId (hemit : EmitContract emit)
    (h : SealedUnder emit digests owner capsule) : Adjudication.ownerId capsule = .ok .null := by
  obtain ⟨members, poc, block, hatt, howner, -, -, -⟩ := h.attestationOf hemit
  simp [Adjudication.ownerId, hatt, howner, Json.or]

/-- The owner id that was sealed is read by neither reader: two capsules of one owner
are never found to be same-owner twins, and every verdict against the owner that
cites such a capsule is recorded where the ledger takes it. -/
theorem sealed_owner_never_read (hemit : EmitContract emit)
    (h : SealedUnder emit digests owner capsule) :
    Adjudication.sealedOwnerId capsule = .ok (.str owner) ∧
    (∀ disclosed weights half,
      Adjudication.fromCapsuleAndDisclosure capsule disclosed weights = .ok half →
      half.ownerId ≠ .str owner) ∧
    Adjudication.ownerId capsule ≠ .ok (.str owner) ∧
    (∀ capsule' disclosed disclosed' weights weights' half half' verify options outcome,
      SealedUnder emit digests owner capsule' →
      Adjudication.fromCapsuleAndDisclosure capsule disclosed weights = .ok half →
      Adjudication.fromCapsuleAndDisclosure capsule' disclosed' weights' = .ok half' →
      adjudicate digests verify half half' options = .ok outcome →
      outcome.noVerdictReason ≠ some .sameOwnerTwin) ∧
    (∀ door records body members now, Delivers door records body members capsule →
      (adjudicationBlock (.obj members) >>= fun block => block.get "verdict") =
        .ok (.str (VERDICT_CONTRADICTED_PREFIX ++ owner)) →
      Takes door records (.obj members) →
      handleDelivery door records body now = .ok (.received, records ++ [.obj members])) := by
  have hhalf : ∀ disclosed weights half,
      Adjudication.fromCapsuleAndDisclosure capsule disclosed weights = .ok half →
      half.ownerId = .null := by
    intro disclosed weights half hfrom
    obtain ⟨half', hfrom', hnull⟩ := h.fromCapsuleAndDisclosure hemit disclosed weights
    obtain rfl : half = half' := Except.ok.inj (hfrom.symm.trans hfrom')
    exact hnull
  refine ⟨h.sealedOwnerId hemit, ?_, ?_, ?_, ?_⟩
  · intro disclosed weights half hfrom
    rw [hhalf disclosed weights half hfrom]
    exact Json.noConfusion
  · rw [h.ownerId hemit]
    intro hread
    cases hread
  · intro capsule' disclosed disclosed' weights weights' half half' verify options outcome _
      hfrom _ hok
    obtain ⟨-, hreason⟩ := adjudicate_of_ownerId_null (hhalf disclosed weights half hfrom) hok
    rcases hreason with hreason | hreason | hreason <;> rw [hreason] <;> decide
  · intro door records body members now hdelivers hverdict htakes
    rw [handleDelivery_eq_receive hdelivers]
    obtain ⟨block, hblock, hget⟩ := Py.bind_eq_ok.mp hverdict
    have happend := appendCapsule_eq_ok.mpr ⟨htakes, rfl⟩
    simp [receive, h.ownerId hemit, hblock, hget, happend]

end Owner

/-! ## Two capsules of one owner -/

def boundEndpoint : String := String.ofList (List.replicate 64 '0')

def boundOwnership : Ownership.SignedNodeOwnership where
  claim :=
    { version := 1
      certId := "cert"
      ownerId := "owner"
      ownerSignPublicKey := boundEndpoint
      nodeEndpointId := boundEndpoint
      issuedAtUnixMs := 0
      expiresAtUnixMs := 1
      nodeLabel := none
      hostnameHint := none }
  signature := ""

/-- A requester sidecar with an unexpired certificate for its own endpoint. -/
def boundConfig : NodeConfig :=
  { plainConfig "node" .requester with
    nodeOwnership := some boundOwnership
    ownerNodeEndpointId := some boundEndpoint }

def boundArgs (uuid : String) : BuildArgs :=
  { plainArgs uuid with responseDigest := some "digest" }

def boundCapsule (uuid : String) : Json :=
  (emitServing plainEmit plainDigests boundConfig (boundArgs uuid) (1, none) none none).toOption.getD
    .null

/-- A verdict against the owner of `boundCapsule "a"`. -/
def contradiction : List (String × Json) :=
  [("capsule_id", .str "verdict"),
   ("model_attestation", .obj [("compute_attestation", .obj [("adjudication", .obj
     [("half_a_capsule_id", .str "id:mesh-poc/node/a"),
      ("verdict", .str "contradicted:owner")])])])]

/-- The body that carries it. -/
def contradictionBody : Bytes :=
  utf8 ("\x7b\"capsule_id\": \"verdict\", \"model_attestation\": \x7b\"compute_attestation\": " ++
    "\x7b\"adjudication\": \x7b\"half_a_capsule_id\": \"id:mesh-poc/node/a\", " ++
    "\"verdict\": \"contradicted:owner\"\x7d\x7d\x7d\x7d")

def contradictionDoor : Door where
  loads := fun body => if body = contradictionBody then some (.obj contradiction) else none
  verify := fun _ => true
  sha256Hex := fun _ => "sha256"
  isStore := true
  rotates := fun _ _ => false

def disclosedAnswer : Json :=
  .obj [("response_body", .obj [("id", .str "answer")]), ("response_text", .str "yes")]

theorem boundCapsule_sealedUnder (uuid : String) :
    SealedUnder plainEmit plainDigests "owner" (boundCapsule uuid) := by
  have hrecheck : Ownership.recheckOwnershipValidity plainDigests.cert boundOwnership
      boundEndpoint 0 = .ok ⟨true,
        "owner cert re-check passed: self-signature valid, node id matches, unexpired",
        some "owner", some "cert", some 1, none⟩ := by decide +kernel
  have hdigest : Ownership.ownerCertDigest plainDigests.cert boundOwnership = .ok "sha256" := by
    decide +kernel
  obtain ⟨block, hblock, hstatus, hid⟩ :=
    Ownership.ownerProvenanceBlock_bound hrecheck rfl hdigest none
  have hblock : ownerBlock plainDigests boundConfig (boundArgs uuid) = .ok block := hblock
  obtain ⟨attestation, hatt⟩ : ∃ attestation,
      computeAttestation plainDigests boundConfig (boundArgs uuid) (1, none) = .ok attestation := by
    simp only [computeAttestation, hblock]
    exact ⟨_, rfl⟩
  have hseal : emitServing plainEmit plainDigests boundConfig (boundArgs uuid) (1, none) none none =
      .ok (boundCapsule uuid) := by
    simp only [boundCapsule, emitServing, emitArgs, hatt]
    rfl
  exact ⟨_, _, _, _, _, block, hseal, hblock, hstatus, hid⟩

theorem sealed_owner_never_read_boundCapsule :
    Adjudication.sealedOwnerId (boundCapsule "a") = .ok (.str "owner") ∧
    Adjudication.ownerId (boundCapsule "a") ≠ .ok (.str "owner") := by
  have h := sealed_owner_never_read plainEmit_contract (boundCapsule_sealedUnder "a")
  exact ⟨h.1, h.2.2.1⟩

/-- Two capsules of the owner `"owner"` are reported as twins of unknown owners, and a
verdict against that owner is received. -/
theorem same_owner_unnoticed :
    SealedUnder plainEmit plainDigests "owner" (boundCapsule "a") ∧
    SealedUnder plainEmit plainDigests "owner" (boundCapsule "b") ∧
    (fromCapsuleAndDisclosure (boundCapsule "a") disclosedAnswer none).map
      (fun half => half.ownerId.str?) = .ok none ∧
    (Adjudication.ownerId (boundCapsule "a")).map Json.str? = .ok none ∧
    (do
      let halfA ← Adjudicating.ofPy
        (fromCapsuleAndDisclosure (boundCapsule "a") disclosedAnswer none)
      let halfB ← Adjudicating.ofPy
        (fromCapsuleAndDisclosure (boundCapsule "b") disclosedAnswer none)
      adjudicate plainDigests (fun _ => true) halfA halfB {}).toOption.map
        AdjudicationOutcome.noVerdictReason = some (some .ownerAbsent) ∧
    (handleDelivery contradictionDoor [boundCapsule "a"] contradictionBody "now").map
      (fun result => (result.1, result.2.length)) = .ok (.received, 2) := by
  refine ⟨boundCapsule_sealedUnder "a", boundCapsule_sealedUnder "b", ?_, ?_, ?_, ?_⟩
  · decide +kernel
  · decide +kernel
  · decide +kernel
  · decide +kernel

end CapsuleMesh.Adjudication
