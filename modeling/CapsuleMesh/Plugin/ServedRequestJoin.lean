import CapsuleMesh.Plugin.ProvenanceFold

/-!
# The join of a served and a requesting half

`served_request_join.py`: the join capsule is minted from two halves, signed by the joiner as a COSE
statement over its canonical text, and checked by a stranger who is handed the capsule and the bytes of a
statement.  The COSE package and the capsule package are parameters.
-/

namespace CapsuleMesh.ServedRequestJoin

open Python ProvenanceFold

def CITATION_PURPOSE_RESPONDS_TO : String := "responds_to"

def JOIN_CHAIN_RELATION : String := "confirms"

def JOIN_SCHEMA : String := "capsule-emit-mesh/served-request-join/v1"

def JOIN_CONTENT_TYPE : String :=
  "application/vnd.agent-action-capsule+json; profile=" ++ JOIN_SCHEMA

def JOIN_ASSERTION_CAVEAT : String :=
  "one-party-join-assertion: this join is signed by the JOINER named in " ++
  "asserted_by_node_id alone. verify_served_request_join_signature() " ++
  "confirms that node's signature is real, covers these exact bytes, and " ++
  "was issued as this capsule's own capsule_id -- it does NOT and cannot " ++
  "prove the provider agrees with, countersigned, or was even aware this " ++
  "join exists. A verified join signature means 'the joiner stands behind " ++
  "this citation', never 'both parties agree these halves belong " ++
  "together'. join_served_request() additionally refuses to mint unless " ++
  "the joiner is the node the requester half itself names as the " ++
  "requesting party (JoinerNotRequesterError) -- so this label can never " ++
  "read as if a stranger asserted someone else's exchange -- but the " ++
  "requester half's own requesting_party is itself self-attested, exactly " ++
  "as requester_commitment.IDENTITY_LIMITATION_CAVEAT / " ++
  "requester_identity_binding.IDENTITY_LIMITATION_CAVEAT already disclose: " ++
  "cross-checking both halves' independently-authenticated identities " ++
  "against EACH OTHER, rather than trusting either producer's own " ++
  "self-attested name for itself, remains open."

/-! ## Minting -/

inductive JoinRefusal where
  | python (error : PyError)
  | unverifiableHalf (label : String)
  | roleMismatch (label : String) (role : Json)
  | joinerNotRequester (requestingParty : Json)
  | exchangeIdMismatch (provider requester : Json)
  | joinUnverifiable

def ofPython {α : Type} (x : Py α) : Except JoinRefusal α := x.mapError .python

/-- A member of the serving provenance of a half. -/
def provenanceField (half : Json) (key : String) : Py Json := do
  (← servingProvenance half).get key

def assertedByNodeId (joined : Json) : Py Json := do
  let join := (← (← computeAttestation joined).get "served_request_join").or (.obj [])
  join.get "asserted_by_node_id"

def canonicalJoinPayload (joined : Json) : Bytes := jcs joined

def verifyHalf (tools : JoinTools) (label : String) (half : Json) : Except JoinRefusal Unit :=
  if tools.verify half then .ok () else .error (.unverifiableHalf label)

def requireRole (label : String) (half : Json) : Except JoinRefusal Unit := do
  let role ← ofPython (provenanceField half "role")
  if role.pyEq (.str label) then return () else .error (.roleMismatch label role)

/-- `_with_references`. -/
def withReferences (tools : JoinTools) (sealed : List (String × Json)) (references : List Json) :
    Py (List (String × Json)) := do
  let joined := Json.setMember "references" (.arr references) sealed
  let capsuleId ← tools.computeCapsuleId (.obj joined)
  return Json.setMember "capsule_id" (.str capsuleId) joined

def joinAttestation (exchangeId : Json) (joinerNodeId : String) : Json :=
  .obj [("served_request_join", .obj
    [("schema", .str JOIN_SCHEMA),
     ("exchange_id", exchangeId),
     ("asserted_by_node_id", .str joinerNodeId),
     ("assertion_limitation", .str JOIN_ASSERTION_CAVEAT)])]

/-- The join capsule of two halves that fit. -/
def mintJoin (tools : JoinTools) (provider requester exchangeId : Json)
    (joinerNodeId operator developer : String) : Py (List (String × Json)) := do
  let requesterId ← requester.item "capsule_id"
  let sealed ← tools.emit {
    actionType := "fyi"
    operator := operator
    developer := developer
    computeAttestation := joinAttestation exchangeId joinerNodeId
    disposition := .obj
      [("decision", .str "accept"), ("approver", .str "policy"), ("human_disposed", .bool false),
       ("verdict_class", .str "executed")]
    priorCapsuleId := requesterId
    chainRelation := JOIN_CHAIN_RELATION
    domain := "action"
    provenance := "collector"
    toolName := "served_request_join" }
  let providerId ← provider.item "capsule_id"
  withReferences tools sealed [buildReference providerId CITATION_PURPOSE_RESPONDS_TO]

def joinServedRequest (tools : JoinTools) (provider requester : Json)
    (joinerNodeId operator developer : String) : Except JoinRefusal Json := do
  verifyHalf tools "provider" provider
  verifyHalf tools "requester" requester
  requireRole "provider" provider
  requireRole "requester" requester
  let requestingParty ← ofPython (provenanceField requester "requesting_party")
  if !requestingParty.pyEq (.str joinerNodeId) then .error (.joinerNotRequester requestingParty)
  else
    let providerExchangeId ← ofPython (provenanceField provider "exchange_id")
    let requesterExchangeId ← ofPython (provenanceField requester "exchange_id")
    if !providerExchangeId.truthy || !providerExchangeId.pyEq requesterExchangeId then
      .error (.exchangeIdMismatch providerExchangeId requesterExchangeId)
    else
      let joined ← ofPython
        (mintJoin tools provider requester requesterExchangeId joinerNodeId operator developer)
      if tools.verify (.obj joined) then return .obj joined else .error .joinUnverifiable

/-! ## Signing and checking -/

/-- What parsing a statement under a public key gives. -/
structure ParsedStatement where
  signatureVerified : Bool
  payload : Bytes
  subject : Option String
  issuer : Option String

/-- The COSE package under one key pair: `build` signs with it, and `read` is what a statement of that
form says under the public key. -/
structure CoseTools where
  build : (payload : Bytes) → (issuer : String) → (subject : Json) → (contentType : String) → Py Bytes
  isStatement : Bytes → Bool
  read : Bytes → ParsedStatement

/-- `scitt_cose.parse_signed_statement`, which raises on bytes that are no statement. -/
def CoseTools.parseSignedStatement (cose : CoseTools) (statement : Bytes) : Py ParsedStatement :=
  if cose.isStatement statement then .ok (cose.read statement)
  else .error (.valueError "not a COSE_Sign1 statement")

inductive SignRefusal where
  | python (error : PyError)
  | signerMismatch (assertedBy : Json)

def signServedRequestJoin (cose : CoseTools) (joined : Json) (signingNodeId : String) :
    Except SignRefusal Bytes := do
  let assertedBy ← (assertedByNodeId joined).mapError .python
  if !assertedBy.pyEq (.str signingNodeId) then .error (.signerMismatch assertedBy)
  else
    let capsuleId ← (joined.item "capsule_id").mapError .python
    (cose.build (canonicalJoinPayload joined) signingNodeId capsuleId JOIN_CONTENT_TYPE).mapError
      .python

def verifyServedRequestJoinSignature (cose : CoseTools) (joined : Json) (signedStatement : Bytes) :
    Py (Bool × String) := do
  let parsed ← cose.parseSignedStatement signedStatement
  if !parsed.signatureVerified then
    return (false, "join signature does not verify under the supplied public key")
  else if parsed.payload ≠ canonicalJoinPayload joined then
    return (false, "join signature covers different bytes than this capsule")
  else
    let capsuleId ← joined.get "capsule_id"
    if !(Json.ofStr? parsed.subject).pyEq capsuleId then
      return (false, "signed subject " ++ (Json.ofStr? parsed.subject).pyRepr ++
        " != this capsule's own capsule_id " ++ capsuleId.pyRepr)
    else
      let assertedBy ← assertedByNodeId joined
      if !(Json.ofStr? parsed.issuer).pyEq assertedBy then
        return (false, "signature issuer " ++ (Json.ofStr? parsed.issuer).pyRepr ++
          " does not match this join's own asserted_by_node_id claim " ++ assertedBy.pyRepr ++
          " -- the plaintext 'who asserts this' label does not match who actually signed")
      else
        return (true, "join signature verified: " ++ assertedBy.pyRepr ++
          " signed these exact bytes, subject == this capsule's own capsule_id")

/-! ## What a valid signature says -/

theorem ofStr?_pyEq_iff {text : Option String} {j : Json} :
    (Json.ofStr? text).pyEq j = true ↔ j = Json.ofStr? text := by
  cases text with
  | none =>
      constructor
      · exact Json.eq_null_of_null_pyEq
      · rintro rfl
        rfl
  | some s =>
      constructor
      · exact Json.eq_str_of_str_pyEq
      · rintro rfl
        exact decide_eq_true rfl

section

variable (cose : CoseTools) (joined : Json) (statement : Bytes)

/-- The statement is signed, over this capsule and under its id. -/
structure CoversCapsule : Prop where
  signed : (cose.read statement).signatureVerified = true
  payload : (cose.read statement).payload = canonicalJoinPayload joined
  subject : joined.get "capsule_id" = .ok (Json.ofStr? (cose.read statement).subject)

/-- It covers the capsule, and its issuer is the node that the capsule names. -/
structure SignedByAsserter : Prop extends CoversCapsule cose joined statement where
  parsed : cose.isStatement statement = true
  issuer : assertedByNodeId joined = .ok (Json.ofStr? (cose.read statement).issuer)

/-- The blocks on the way to the assertion can be read. -/
def NamesAsserter : Prop := ∃ nodeId, assertedByNodeId joined = .ok nodeId

variable {cose joined statement}

theorem verify_of_not_statement (h : cose.isStatement statement = false) :
    verifyServedRequestJoinSignature cose joined statement =
      .error (.valueError "not a COSE_Sign1 statement") := by
  rw [verifyServedRequestJoinSignature, CoseTools.parseSignedStatement, h]
  rfl

/-- A statement that does not cover the capsule is refused without a look at who asserts it. -/
theorem verify_of_not_covers {members : List (String × Json)} (hparsed : cose.isStatement statement = true)
    (h : ¬CoversCapsule cose (.obj members) statement) :
    ∃ reason, verifyServedRequestJoinSignature cose (.obj members) statement = .ok (false, reason) := by
  rw [verifyServedRequestJoinSignature, CoseTools.parseSignedStatement, hparsed, if_pos rfl, Py.ok_bind]
  split
  next => exact ⟨_, rfl⟩
  next hsigned =>
      split
      next => exact ⟨_, rfl⟩
      next hpayload =>
          rw [Json.get_obj, Py.ok_bind]
          split
          next => exact ⟨_, rfl⟩
          next hsubject =>
              exfalso
              rw [Bool.not_eq_true, Bool.not_eq_false'] at hsigned hsubject
              apply h
              refine ⟨hsigned, not_not.mp hpayload, ?_⟩
              rw [Json.get_obj, ofStr?_pyEq_iff.mp hsubject]

theorem verify_of_covers {members : List (String × Json)} (hparsed : cose.isStatement statement = true)
    (h : CoversCapsule cose (.obj members) statement) :
    (∃ e, assertedByNodeId (.obj members) = .error e ∧
      verifyServedRequestJoinSignature cose (.obj members) statement = .error e) ∨
    ∃ nodeId reason, assertedByNodeId (.obj members) = .ok nodeId ∧
      verifyServedRequestJoinSignature cose (.obj members) statement =
        .ok ((Json.ofStr? (cose.read statement).issuer).pyEq nodeId, reason) := by
  have hsubject := ofStr?_pyEq_iff.mpr (Except.ok.inj ((Json.get_obj members _).symm.trans h.subject))
  rw [verifyServedRequestJoinSignature, CoseTools.parseSignedStatement, hparsed, if_pos rfl, Py.ok_bind,
    h.signed, if_neg (by simp), if_neg (by rw [h.payload, ne_eq, not_not]), Json.get_obj, Py.ok_bind,
    hsubject, if_neg (by simp)]
  cases hasserted : assertedByNodeId (.obj members) with
  | error e => exact .inl ⟨e, rfl, rfl⟩
  | ok nodeId =>
      right
      refine ⟨nodeId, ?_⟩
      simp only [Py.ok_bind]
      cases (Json.ofStr? (cose.read statement).issuer).pyEq nodeId with
      | true => exact ⟨_, trivial, rfl⟩
      | false => exact ⟨_, trivial, rfl⟩

/-- The verifier returns, and accepts only what is signed by the asserter, exactly on the bytes of a
statement; what it covers has to name an asserter. -/
theorem verify_sound_iff (members : List (String × Json)) (statement : Bytes) :
    (∃ verdict, verifyServedRequestJoinSignature cose (.obj members) statement = .ok verdict ∧
      (verdict.1 = true → SignedByAsserter cose (.obj members) statement)) ↔
    cose.isStatement statement = true ∧
      (CoversCapsule cose (.obj members) statement → NamesAsserter (.obj members)) := by
  cases hparsed : cose.isStatement statement with
  | false =>
      rw [verify_of_not_statement hparsed]
      constructor
      · rintro ⟨verdict, h, -⟩
        cases h
      · rintro ⟨h, -⟩
        cases h
  | true =>
      rw [and_iff_right rfl]
      by_cases hcovers : CoversCapsule cose (.obj members) statement
      · obtain ⟨e, hraises, hverify⟩ | ⟨nodeId, reason, hnamed, hverify⟩ :=
          verify_of_covers hparsed hcovers
        · rw [hverify]
          constructor
          · rintro ⟨verdict, h, -⟩
            cases h
          · intro h
            obtain ⟨nodeId, hnamed⟩ := h hcovers
            cases hraises.symm.trans hnamed
        · rw [hverify]
          apply iff_of_true
          · refine ⟨_, rfl, ?_⟩
            intro hissuer
            refine ⟨hcovers, hparsed, ?_⟩
            rw [hnamed, ofStr?_pyEq_iff.mp hissuer]
          · intro _
            exact ⟨nodeId, hnamed⟩
      · obtain ⟨reason, hverify⟩ := verify_of_not_covers hparsed hcovers
        rw [hverify]
        apply iff_of_true
        · refine ⟨_, rfl, ?_⟩
          intro h
          cases h
        · intro h
          exact absurd h hcovers

end

/-! ## A minted join -/

/-- The package seals the attestation it is given, into a value of Python. -/
structure Seals (tools : JoinTools) (floatRepr : String → String) : Prop where
  compute : ∀ {args sealed}, tools.emit args = .ok sealed →
    ∃ attestation, sealed.lookup "model_attestation" = some (.obj attestation) ∧
      attestation.lookup "compute_attestation" = some args.computeAttestation
  proper : ∀ {args sealed}, args.computeAttestation.Proper floatRepr →
    args.disposition.Proper floatRepr → args.priorCapsuleId.Proper floatRepr →
      tools.emit args = .ok sealed → (Json.obj sealed).Proper floatRepr

/-- What is built under a key verifies under it, and says what it was built from. -/
def CoseTools.Signs (cose : CoseTools) : Prop :=
  ∀ payload issuer subject contentType, ∃ statement,
    cose.build payload issuer (.str subject) contentType = .ok statement ∧
      cose.isStatement statement = true ∧
        cose.read statement = ⟨true, payload, some subject, some issuer⟩

/-- A join that asserts `nodeId`, under an id of its own. -/
structure Asserts (nodeId : String) (joined : Json) : Prop where
  asserted : assertedByNodeId joined = .ok (.str nodeId)
  capsuleId : ∃ id, joined.item "capsule_id" = .ok (.str id) ∧ joined.get "capsule_id" = .ok (.str id)

section

variable {floatRepr : String → String}

theorem mem_setMember {key : String} {value : Json} {members : List (String × Json)}
    {m : String × Json} (h : m ∈ Json.setMember key value members) : m = (key, value) ∨ m ∈ members := by
  induction members with
  | nil => exact .inl (List.mem_singleton.mp h)
  | cons first rest ih =>
      rw [Json.setMember] at h
      split at h
      next hkey =>
          obtain rfl | h := List.mem_cons.mp h
          · exact .inl (by rw [hkey])
          · exact .inr (List.mem_cons_of_mem _ h)
      next =>
          obtain rfl | h := List.mem_cons.mp h
          · exact .inr List.mem_cons_self
          · exact (ih h).imp_right (List.mem_cons_of_mem _)

theorem keys_setMember (key : String) (value : Json) (members : List (String × Json)) :
    (Json.setMember key value members).map Prod.fst = members.map Prod.fst ∨
      key ∉ members.map Prod.fst ∧
        (Json.setMember key value members).map Prod.fst = members.map Prod.fst ++ [key] := by
  induction members with
  | nil => exact .inr ⟨List.not_mem_nil, rfl⟩
  | cons first rest ih =>
      rw [Json.setMember]
      split
      next => exact .inl rfl
      next hkey =>
          obtain h | ⟨hnot, h⟩ := ih
          · exact .inl (by rw [List.map_cons, List.map_cons, h])
          · refine .inr ⟨?_, by rw [List.map_cons, List.map_cons, h, List.cons_append]⟩
            rw [List.map_cons, List.mem_cons, not_or]
            exact ⟨fun hsame => hkey hsame.symm, hnot⟩

theorem proper_setMember {key : String} {value : Json} {members : List (String × Json)}
    (hvalue : value.Proper floatRepr) (h : (Json.obj members).Proper floatRepr) :
    (Json.obj (Json.setMember key value members)).Proper floatRepr := by
  obtain ⟨hkeys, hmembers⟩ := Json.proper_obj.mp h
  apply Json.proper_obj.mpr
  constructor
  · obtain hsame | ⟨hnot, hmore⟩ := keys_setMember key value members
    · rwa [hsame]
    · rw [hmore, ← List.concat_eq_append]
      exact hkeys.concat hnot
  · intro m hm
    obtain rfl | hm := mem_setMember hm
    · exact hvalue
    · exact hmembers m hm

theorem proper_lookup {key : String} {value : Json} {members : List (String × Json)}
    (h : (Json.obj members).Proper floatRepr) (hlookup : members.lookup key = some value) :
    value.Proper floatRepr := by
  obtain ⟨before, after, rfl, -⟩ := List.lookup_eq_some_iff.mp hlookup
  exact (Json.proper_obj.mp h).2 (key, value) (List.mem_append_right _ List.mem_cons_self)

theorem proper_item {key : String} {value j : Json} (h : j.Proper floatRepr)
    (hitem : j.item key = .ok value) : value.Proper floatRepr := by
  cases j with
  | obj members =>
      rw [Json.item] at hitem
      split at hitem
      next found hfound =>
          obtain rfl := Except.ok.inj hitem
          exact proper_lookup h hfound
      next => cases hitem
  | _ => cases hitem

theorem proper_get {key : String} {value j : Json} (h : j.Proper floatRepr)
    (hget : j.get key = .ok value) : value.Proper floatRepr := by
  cases j with
  | obj members =>
      rw [Json.get_obj] at hget
      obtain rfl := Except.ok.inj hget
      cases hlookup : members.lookup key with
      | none => exact .null
      | some value => exact proper_lookup h hlookup
  | _ => cases hget

theorem proper_or {j default : Json} (h : j.Proper floatRepr) (hdefault : default.Proper floatRepr) :
    (j.or default).Proper floatRepr := by
  rw [Json.or]
  split
  next => exact h
  next => exact hdefault

theorem proper_empty : (Json.obj []).Proper floatRepr := Json.proper_obj.mpr ⟨List.nodup_nil, by simp⟩

theorem proper_block {j value : Json} {key : String} (h : j.Proper floatRepr)
    (hblock : (do return (← j.get key).or (.obj [])) = (.ok value : Py Json)) :
    value.Proper floatRepr := by
  obtain ⟨found, hfound, hblock⟩ := Py.bind_eq_ok.mp hblock
  obtain rfl := Except.ok.inj hblock
  exact proper_or (proper_get h hfound) proper_empty

theorem proper_computeAttestation {half value : Json} (h : half.Proper floatRepr)
    (hcompute : computeAttestation half = .ok value) : value.Proper floatRepr := by
  obtain ⟨model, hmodel, hcompute⟩ := Py.bind_eq_ok.mp hcompute
  exact proper_block (proper_or (proper_get h hmodel) proper_empty) hcompute

theorem proper_provenanceField {half value : Json} {key : String} (h : half.Proper floatRepr)
    (hfield : provenanceField half key = .ok value) : value.Proper floatRepr := by
  obtain ⟨provenance, hprovenance, hget⟩ := Py.bind_eq_ok.mp hfield
  obtain ⟨poc, hpoc, hprovenance⟩ := Py.bind_eq_ok.mp hprovenance
  obtain ⟨attestation, hattestation, hpoc⟩ := Py.bind_eq_ok.mp hpoc
  have hblock := proper_block (proper_computeAttestation h hattestation) hpoc
  exact proper_get (proper_block hblock hprovenance) hget

theorem proper_joinAttestation {exchangeId : Json} (h : exchangeId.Proper floatRepr) (nodeId : String) :
    (joinAttestation exchangeId nodeId).Proper floatRepr := by
  simp [joinAttestation, h]

/-- What is minted asserts the joiner, and is a value of Python. -/
theorem mintJoin_eq_ok {tools : JoinTools} (hseals : Seals tools floatRepr)
    {provider requester exchangeId : Json} {joinerNodeId operator developer : String}
    {joined : List (String × Json)} (hprovider : provider.Proper floatRepr)
    (hrequester : requester.Proper floatRepr) (hexchange : exchangeId.Proper floatRepr)
    (h : mintJoin tools provider requester exchangeId joinerNodeId operator developer = .ok joined) :
    Asserts joinerNodeId (.obj joined) ∧ (Json.obj joined).Proper floatRepr := by
  obtain ⟨requesterId, hrequesterId, h⟩ := Py.bind_eq_ok.mp h
  obtain ⟨sealed, hsealed, h⟩ := Py.bind_eq_ok.mp h
  obtain ⟨providerId, hproviderId, h⟩ := Py.bind_eq_ok.mp h
  obtain ⟨capsuleId, -, h⟩ := Py.bind_eq_ok.mp h
  obtain rfl := Except.ok.inj h
  obtain ⟨attestation, hmodel, hcompute⟩ := hseals.compute hsealed
  constructor
  · constructor
    · have hlookup : (Json.setMember "capsule_id" (.str capsuleId) (Json.setMember "references"
          (.arr [buildReference providerId CITATION_PURPOSE_RESPONDS_TO]) sealed)).lookup
            "model_attestation" = some (.obj attestation) := by
        rw [Json.lookup_setMember_ne (by decide), Json.lookup_setMember_ne (by decide), hmodel]
      have hne : attestation ≠ [] := by
        rintro rfl
        cases hcompute
      have hblock : (Json.obj attestation).or (.obj []) = .obj attestation := by
        rw [Json.or, Json.truthy_obj, if_pos]
        simpa using hne
      have hread : computeAttestation (.obj (Json.setMember "capsule_id" (.str capsuleId)
          (Json.setMember "references"
            (.arr [buildReference providerId CITATION_PURPOSE_RESPONDS_TO]) sealed))) =
              .ok (joinAttestation exchangeId joinerNodeId) := by
        rw [computeAttestation, Json.get_obj, hlookup, Py.ok_bind]
        simp only [Option.getD_some, hblock, Json.get_obj, hcompute]
        rfl
      rw [assertedByNodeId, hread]
      rfl
    · refine ⟨capsuleId, ?_, ?_⟩
      · rw [Json.item, Json.lookup_setMember_self]
      · rw [Json.get_obj, Json.lookup_setMember_self]
        rfl
  · apply proper_setMember (.str capsuleId)
    apply proper_setMember
    · have hid := proper_item hprovider hproviderId
      simp [buildReference, hid]
    · apply hseals.proper (proper_joinAttestation hexchange joinerNodeId) _
        (proper_item hrequester hrequesterId) hsealed
      simp

/-- What `join_served_request` returns asserts the joiner, and is a value of Python. -/
theorem joinServedRequest_eq_ok {tools : JoinTools} (hseals : Seals tools floatRepr)
    {provider requester joined : Json} {joinerNodeId operator developer : String}
    (hprovider : provider.Proper floatRepr) (hrequester : requester.Proper floatRepr)
    (h : joinServedRequest tools provider requester joinerNodeId operator developer = .ok joined) :
    Asserts joinerNodeId joined ∧ joined.Proper floatRepr := by
  obtain ⟨-, -, h⟩ := Library.Raising.bind_eq_ok.mp h
  obtain ⟨-, -, h⟩ := Library.Raising.bind_eq_ok.mp h
  obtain ⟨-, -, h⟩ := Library.Raising.bind_eq_ok.mp h
  obtain ⟨-, -, h⟩ := Library.Raising.bind_eq_ok.mp h
  obtain ⟨party, -, h⟩ := Library.Raising.bind_eq_ok.mp h
  split at h
  next => cases h
  next =>
      obtain ⟨providerExchangeId, -, h⟩ := Library.Raising.bind_eq_ok.mp h
      obtain ⟨exchangeId, hexchangeId, h⟩ := Library.Raising.bind_eq_ok.mp h
      split at h
      next => cases h
      next =>
          obtain ⟨minted, hminted, h⟩ := Library.Raising.bind_eq_ok.mp h
          split at h
          next =>
              obtain rfl := Except.ok.inj h
              exact mintJoin_eq_ok hseals hprovider hrequester (proper_provenanceField hrequester
                (Library.Raising.mapError_eq_ok.mp hexchangeId))
                (Library.Raising.mapError_eq_ok.mp hminted)
          next => cases h

end

/-! ## Signed by the joiner -/

theorem verify_of_signed {cose : CoseTools} {nodeId : String} {members : List (String × Json)}
    {statement : Bytes} {id : String} (hasserts : Asserts nodeId (.obj members))
    (hid : (Json.obj members).get "capsule_id" = .ok (.str id))
    (hparsed : cose.isStatement statement = true)
    (hread : cose.read statement = ⟨true, canonicalJoinPayload (.obj members), some id, some nodeId⟩) :
    ∃ reason, verifyServedRequestJoinSignature cose (.obj members) statement = .ok (true, reason) := by
  have hcovers : CoversCapsule cose (.obj members) statement := by
    refine ⟨by rw [hread], by rw [hread], ?_⟩
    rw [hid, hread]
    rfl
  obtain ⟨e, hraises, -⟩ | ⟨named, reason, hnamed, hverify⟩ := verify_of_covers hparsed hcovers
  · cases hasserts.asserted.symm.trans hraises
  · obtain rfl := Except.ok.inj (hasserts.asserted.symm.trans hnamed)
    refine ⟨reason, hverify.trans ?_⟩
    have hsame : (Json.ofStr? (some nodeId)).pyEq (.str nodeId) = true := ofStr?_pyEq_iff.mpr rfl
    rw [hread, hsame]

/-- The joiner's statement over a minted join verifies, for the capsule as it was minted. -/
theorem sign_of_asserts {cose : CoseTools} (hsigns : cose.Signs) {nodeId : String} {joined : Json}
    (hasserts : Asserts nodeId joined) :
    ∃ statement, signServedRequestJoin cose joined nodeId = .ok statement ∧
      ∃ reason, verifyServedRequestJoinSignature cose joined statement = .ok (true, reason) := by
  obtain ⟨id, hitem, hget⟩ := hasserts.capsuleId
  obtain ⟨statement, hbuild, hparsed, hread⟩ :=
    hsigns (canonicalJoinPayload joined) nodeId id JOIN_CONTENT_TYPE
  have hsame : (Json.str nodeId).pyEq (.str nodeId) = true := decide_eq_true rfl
  refine ⟨statement, ?_, ?_⟩
  · rw [signServedRequestJoin, hasserts.asserted, hitem]
    change (if !(Json.str nodeId).pyEq (.str nodeId) then _ else
      (cose.build (canonicalJoinPayload joined) nodeId (.str id) JOIN_CONTENT_TYPE).mapError _) = _
    rw [hsame, if_neg (by simp), hbuild]
    rfl
  · cases joined with
    | obj members => exact verify_of_signed hasserts hget hparsed hread
    | _ => cases hget

/-- The verifier is right exactly on the bytes of statements, and what a joiner mints and signs verifies,
also once it has been written and read back. -/
theorem joins_checked_iff {floatRepr : String → String} {tools : JoinTools} {cose : CoseTools}
    (hseals : Seals tools floatRepr) (hsigns : cose.Signs) :
    (∀ members statement,
      (∃ verdict, verifyServedRequestJoinSignature cose (.obj members) statement = .ok verdict ∧
        (verdict.1 = true → SignedByAsserter cose (.obj members) statement)) ↔
      cose.isStatement statement = true ∧
        (CoversCapsule cose (.obj members) statement → NamesAsserter (.obj members))) ∧
    ∀ {provider requester joined : Json} {joinerNodeId operator developer : String},
      provider.Proper floatRepr → requester.Proper floatRepr →
      joinServedRequest tools provider requester joinerNodeId operator developer = .ok joined →
        ∃ statement, signServedRequestJoin cose joined joinerNodeId = .ok statement ∧
          (∃ reason, verifyServedRequestJoinSignature cose joined statement = .ok (true, reason)) ∧
          ∃ back reason, loads floatRepr joined.dumps = .ok back ∧
            verifyServedRequestJoinSignature cose back statement = .ok (true, reason) := by
  constructor
  · exact verify_sound_iff
  · intro provider requester joined joinerNodeId operator developer hprovider hrequester hjoined
    obtain ⟨hasserts, hproper⟩ := joinServedRequest_eq_ok hseals hprovider hrequester hjoined
    obtain ⟨statement, hsigned, reason, hverify⟩ := sign_of_asserts hsigns hasserts
    exact ⟨statement, hsigned, ⟨reason, hverify⟩, joined, reason, loads_dumps hproper, hverify⟩

/-! ## A pair of halves and some other bytes -/

/-- Statements that are read by their tag. -/
def tagCose : CoseTools where
  build payload issuer subject _ :=
    match subject with
    | .str subject =>
        .ok (0xD2 :: utf8 (Json.arr [.str (hexText payload), .str subject, .str issuer]).dumps)
    | _ => .error .typeError
  isStatement statement := statement.head? == some 0xD2
  read statement :=
    match decodeUtf8 statement.tail >>= loads id with
    | .ok (.arr [.str payload, .str subject, .str issuer]) =>
        match bytesFromHex payload with
        | .ok payload => ⟨true, payload, some subject, some issuer⟩
        | .error _ => ⟨false, [], none, none⟩
    | _ => ⟨false, [], none, none⟩

theorem tagCose_signs : tagCose.Signs := by
  intro payload issuer subject contentType
  refine ⟨_, rfl, rfl, ?_⟩
  have hloads : loads id (Json.arr [.str (hexText payload), .str subject, .str issuer]).dumps =
      .ok (.arr [.str (hexText payload), .str subject, .str issuer]) :=
    loads_dumps (by simp)
  simp only [tagCose, List.tail_cons, decodeUtf8_utf8, Py.ok_bind, hloads, bytesFromHex_hexText]

theorem garbage_statement_raises :
    ¬∃ verdict, verifyServedRequestJoinSignature tagCose
      (.obj [("capsule_id", .str "join"), ("model_attestation", .obj [("compute_attestation",
        joinAttestation (.str "x") "requester-node")])]) [0, 1, 2] = .ok verdict := by
  rw [verify_of_not_statement rfl]
  rintro ⟨verdict, h⟩
  cases h

/-- A package that seals what it is given, and finds every capsule sound. -/
def plainTools : JoinTools where
  verify _ := true
  emit args := .ok
    [("capsule_id", .str "sealed"), ("action_type", .str args.actionType),
      ("model_attestation", .obj [("compute_attestation", args.computeAttestation)]),
      ("disposition", args.disposition),
      ("chain", .obj [("parent_capsule_id", args.priorCapsuleId), ("relation", .str args.chainRelation)])]
  computeCapsuleId _ := .ok "join"

theorem plainTools_seals : Seals plainTools id where
  compute h := by
    obtain rfl := Except.ok.inj h
    exact ⟨_, rfl, rfl⟩
  proper hcompute hdisposition hprior h := by
    obtain rfl := Except.ok.inj h
    simp [hcompute, hdisposition, hprior]

def halfOf (role capsuleId : String) : Json :=
  .obj [("capsule_id", .str capsuleId), ("model_attestation", .obj [("compute_attestation", .obj
    [("x-mesh-poc-v1", .obj [("serving_provenance", .obj [("role", .str role),
      ("exchange_id", .str "x"), ("requesting_party", .str "requester-node")])])])])]

theorem proper_halfOf (role capsuleId : String) : (halfOf role capsuleId).Proper id := by
  simp [halfOf]

theorem joined_halves_verify :
    ∃ joined statement, joinServedRequest plainTools (halfOf "provider" "served")
        (halfOf "requester" "asked") "requester-node" "" "" = .ok joined ∧
      signServedRequestJoin tagCose joined "requester-node" = .ok statement ∧
        ∃ back reason, loads id joined.dumps = .ok back ∧
          verifyServedRequestJoinSignature tagCose back statement = .ok (true, reason) := by
  obtain ⟨joined, hjoined⟩ : ∃ joined, joinServedRequest plainTools (halfOf "provider" "served")
      (halfOf "requester" "asked") "requester-node" "" "" = .ok joined := ⟨_, rfl⟩
  obtain ⟨statement, hsigned, -, hback⟩ := (joins_checked_iff plainTools_seals tagCose_signs).2
    (proper_halfOf "provider" "served") (proper_halfOf "requester" "asked") hjoined
  exact ⟨joined, statement, hjoined, hsigned, hback⟩

end CapsuleMesh.ServedRequestJoin
