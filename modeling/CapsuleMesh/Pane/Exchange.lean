import Mathlib.Data.Prod.Lex
import CapsuleMesh.Sidecar.Halves

/-!
# The list of exchanges

`capsule_exchange_tab.py` with what it uses of `capsule_mesh_view.py` and
`assurance_map.py`: the records of one exchange become one row, and the chips of a row
come from the verification of its first record.  The sentences of the verdict are left
out, their marks are kept.  A field the source annotates as a string raises here when
it holds anything else.
-/

namespace CapsuleMesh.Pane

open Python Sequence Sidecar

/-! ## Verification -/

/-- A finding of `verify_store`, or of the signature check after it. -/
inductive FindingCode where
  | capsuleIdMismatch
  | capsuleIdUncomputable
  | chainParentMalformed
  | chainParentMissing
  | producerSignatureInvalid
  | other (name : String)
deriving DecidableEq

structure VerificationResult where
  ok : Bool
  codes : List FindingCode

def VerificationResult.withError (result : VerificationResult) (code : FindingCode) :
    VerificationResult :=
  ⟨false, result.codes ++ [code]⟩

/-- The checks outside this repository.  `verify_store` looks at a record on its own,
apart from the question whether its chain parent is among the records it was given. -/
structure Verifier where
  verifyRecord : (record : Json) → (parentPresent : Bool) → VerificationResult
  verifyCapsuleSignature : Json → Bool
  detachedStatementVerified : Option String → Option Bool
  missing : ∀ record present,
    .chainParentMissing ∈ (verifyRecord record present).codes ↔ present = false
  malformed : ∀ record present,
    .chainParentMalformed ∈ (verifyRecord record present).codes → parentOf record = none

/-- The chain parent that a record names is one of these records. -/
def parentPresent (records : List Json) (record : Json) : Bool :=
  match parentOf record with
  | none => true
  | some parent => records.any fun r => decide (capsuleIdOf r = some parent)

/-- The producer's signature, inline or detached. -/
def checkSignature (verifier : Verifier) (record : Json) (result : VerificationResult) :
    VerificationResult :=
  match record with
  | .obj members =>
      if (members.lookup "signature").isSome ∧ (members.lookup "key_id").isSome then
        if verifier.verifyCapsuleSignature record then result
        else result.withError .producerSignatureInvalid
      else if verifier.detachedStatementVerified (capsuleIdOf record) = some true then result
      else result.withError .producerSignatureInvalid
  | _ => { result with ok := false }

def verifyOne (verifier : Verifier) (records : List Json) (record : Json) : VerificationResult :=
  checkSignature verifier record (verifier.verifyRecord record (parentPresent records record))

/-- `verify_results_for`, for records that are there. -/
def verifyResultsFor (verifier : Verifier) (records : List Json) : List VerificationResult :=
  records.map (verifyOne verifier records)

abbrev VerifyMap := List (String × VerificationResult)

/-- The entry of one record, when it has an id. -/
def verifyEntry (record : Json) (result : VerificationResult) : Option (String × VerificationResult) :=
  match capsuleIdOf record with
  | some id => if id ≠ "" then some (id, result) else none
  | none => none

def buildVerifyMap (verifier : Verifier) (records : List Json) : VerifyMap :=
  (records.zip (verifyResultsFor verifier records)).filterMap fun (record, result) =>
    verifyEntry record result

/-- The last entry under an id is the one kept. -/
def VerifyMap.get (entries : VerifyMap) (id : String) : Option VerificationResult :=
  entries.reverse.lookup id

/-! ## Chips -/

inductive ChipState where
  | pass
  | fail
  | notPresent
  | notChecked
  | inconclusive
deriving DecidableEq

structure Chip where
  state : ChipState
  text : String
deriving DecidableEq

/-- The nine properties. -/
structure AssuranceMap where
  contentBinding : Chip
  producerSignature : Chip
  localInclusion : Chip
  checkpointSignature : Chip
  externalRegistration : Chip
  continuity : Chip
  identityAuthority : Chip
  captureCoverage : Chip
  outcomeCorroboration : Chip
deriving DecidableEq

def AssuranceMap.chips (m : AssuranceMap) : List Chip :=
  [m.contentBinding, m.producerSignature, m.localInclusion, m.checkpointSignature,
    m.externalRegistration, m.continuity, m.identityAuthority, m.captureCoverage,
    m.outcomeCorroboration]

def TWIN_ADJUDICATION_PENDING_REASON : String :=
  "twin_adjudicator.py exists on main (PR #84 merged) but is not wired into this per-exchange " ++
  "view yet -- a comparison needs the served weights/logprobs this view does not have on hand"

def WITNESS_REVERIFY_PENDING_REASON : String :=
  "the presence-only witness line above is real and unchanged; RE-VERIFYING the receipt is " ++
  "possible now that [mesh-e2-witness-checkpoints] (PR #87) is merged, but this per-exchange " ++
  "view does not yet thread the checkpoint chain through to call it"

/-- A chip that verification decides: it fails over one of these findings. -/
def verifiedChip (codes : List FindingCode) (pass fail : String) : Option VerificationResult → Chip
  | none => ⟨.notChecked, "verify did not run for this record"⟩
  | some result => if result.codes.any (· ∈ codes) then ⟨.fail, fail⟩ else ⟨.pass, pass⟩

def contentBindingChip : Option VerificationResult → Chip :=
  verifiedChip [.capsuleIdMismatch, .capsuleIdUncomputable]
    "capsule_id recomputes from this record" "capsule_id does not recompute from this record"

def producerSignatureChip : Option VerificationResult → Chip :=
  verifiedChip [.producerSignatureInvalid] "self-attested signature verifies offline"
    "no verifiable producer signature (inline or detached)"

def continuityChip : Option VerificationResult → Chip :=
  verifiedChip [.chainParentMalformed, .chainParentMissing] "hash-chain parent intact"
    "hash-chain parent missing or malformed"

/-- The members of an owner block. -/
structure IdentityChain where
  nodeId : Json
  ownerStatus : Json
  ownerId : Json
  identityCapsuleId : Json
  ownerCertRef : Json
  identityLimitation : Json

def absentOwner : Json :=
  .obj [("owner_status", .str "absent"), ("owner_id", .null), ("identity_capsule_id", .null),
    ("owner_cert_ref", .null), ("identity_limitation", .null)]

def identityChainFor (record : Json) : Py IdentityChain := do
  let poc ← pocBlock record
  let provenance ← readProvenance record
  let owner := (← poc.get "owner").or absentOwner
  return {
    nodeId := provenance.servedByNodeId.or provenance.requestingParty
    ownerStatus := ← owner.get "owner_status"
    ownerId := ← owner.get "owner_id"
    identityCapsuleId := ← owner.get "identity_capsule_id"
    ownerCertRef := ← owner.get "owner_cert_ref"
    identityLimitation := ← owner.get "identity_limitation" }

/-- The chip of an owner status; `dict.get` hashes it first. -/
def identityAuthorityChip (ownerStatus : Json) : Py Chip := do
  let _ ← ownerStatus.key
  match ownerStatus with
  | .str "bound" => return ⟨.pass, "owner cert present and re-checks"⟩
  | .str "invalid" => return ⟨.fail, "owner cert present but fails re-check"⟩
  | _ => return ⟨.notPresent, "no owner cert offered"⟩

def buildAssuranceMap (record : Json) (result : Option VerificationResult)
    (hasWitnessCheckpoint : Bool) : Py AssuranceMap := do
  let chain ← identityChainFor record
  let identity ← identityAuthorityChip chain.ownerStatus
  let effect ← effectBlock record
  let requestDigest ← effect.get "request_digest"
  let responseDigest ← effect.get "response_digest"
  return {
    contentBinding := contentBindingChip result
    producerSignature := producerSignatureChip result
    continuity := continuityChip result
    localInclusion :=
      if hasWitnessCheckpoint then ⟨.notChecked, "a checkpoint was supplied to this view, " ++
        "but per-record inclusion is not verified here yet"⟩
      else ⟨.notPresent, "no checkpoint supplied to this view"⟩
    checkpointSignature :=
      if hasWitnessCheckpoint then ⟨.notChecked, WITNESS_REVERIFY_PENDING_REASON⟩
      else ⟨.notPresent, "no checkpoint supplied to this view"⟩
    externalRegistration :=
      if hasWitnessCheckpoint then ⟨.notChecked, WITNESS_REVERIFY_PENDING_REASON⟩
      else ⟨.notPresent, "no checkpoint supplied to this view; registered (+ " ++
        "continuity-witnessed once a checkpoint-aware witness signs) is not reachable until " ++
        "[capsule-anchor-checkpoint-aware-witness] deploys"⟩
    identityAuthority := identity
    captureCoverage :=
      if requestDigest.truthy && responseDigest.truthy then
        ⟨.pass, "request/response digests captured for this half"⟩
      else ⟨.notPresent, "this half did not capture both request/response digests"⟩
    outcomeCorroboration := ⟨.notPresent, TWIN_ADJUDICATION_PENDING_REASON⟩ }

/-- `_DIGEST_MATCH_TO_MAP_STATE`. -/
def chipStateOfMatch : MatchState → ChipState
  | .verified => .pass
  | .failed => .fail
  | .absent => .notPresent
  | .presentUnverified => .notChecked

/-- `has_issue`, without a promise line. -/
def hasIssue (states : List ChipState) : Bool := states.any (· = .fail)

/-! ## Roles -/

inductive RoleLabel where
  | requested
  | served
  | conflict
  | unknown
deriving DecidableEq

inductive SourceLog where
  | sidecar
  | plugin
  | other
deriving DecidableEq

def lifecycleBlock (record : Json) : Py Json := do
  let attestation ← record.getD "model_attestation" (.obj [])
  let compute ← attestation.getD "compute_attestation" (.obj [])
  let lifecycle ← compute.getD "x-mesh-lifecycle-v1" (.obj [])
  return lifecycle.or (.obj [])

/-- The role that a record states itself. -/
def explicitRole : Json → Option RoleLabel
  | .str "requested" => some .requested
  | .str "served" => some .served
  | .str "conflict" => some .conflict
  | .str "unknown" => some .unknown
  | _ => none

def SERVED_OBSERVATION_POINTS : List String :=
  ["gateway_ingress", "serving_host_ingress", "backend_dispatch", "client_egress"]

def defaultRole : SourceLog → RoleLabel
  | .sidecar => .served
  | .plugin => .served
  | .other => .unknown

def labelRole (record : Json) (source : SourceLog) : Py RoleLabel := do
  let role ← (← pocBlock record).get "role"
  let _ ← role.key
  match explicitRole role with
  | some label => return label
  | none => do
      let point ← (← lifecycleBlock record).get "observation_point"
      let _ ← point.key
      if point.str?.any (· ∈ SERVED_OBSERVATION_POINTS) then return .served
      else return defaultRole source

/-- `half_by_role`. -/
def halfByRole (source : SourceLog) : List Json → Py (List Json × List Json)
  | [] => .ok ([], [])
  | record :: records => do
      let role ← labelRole record source
      let (requested, served) ← halfByRole source records
      match role with
      | .requested => return (record :: requested, served)
      | .served => return (requested, record :: served)
      | _ => return (requested, served)

/-- `value[:n]` is defined for strings and lists. -/
def sliceable : Json → Py Unit
  | .str _ => .ok ()
  | .arr _ => .ok ()
  | _ => .error .typeError

def crossPartyRef (poc : Json) (field : String) : Py Json := do
  let crossParty ← poc.get "cross_party"
  if crossParty.truthy then crossParty.get field else return .null

/-- Whether `label_counterparty` names anyone. -/
def namesCounterparty (record : Json) : Py Bool := do
  let poc ← pocBlock record
  let initiator ← crossPartyRef poc "initiator_ref"
  let counterparty ← crossPartyRef poc "counterparty_ref"
  let provenance := (← poc.get "serving_provenance").or (.obj [])
  let servedBy ← provenance.get "served_by_node_id"
  let requestingParty ← provenance.get "requesting_party"
  let role ← poc.get "role"
  if initiator.truthy then do
    sliceable initiator
    return true
  else if counterparty.truthy then do
    sliceable counterparty
    return true
  else if servedBy.truthy ∧ servedBy.str? ≠ some "unknown" ∧ role.str? = some "requested" then do
    sliceable servedBy
    return true
  else if requestingParty.truthy ∧ requestingParty.str? ≠ some "unknown" then do
    sliceable requestingParty
    return true
  else return false

/-! ## One exchange -/

/-- `record.get("capsule_id")`. -/
def capsuleId (record : Json) : Py (Option String) := do
  match ← record.get "capsule_id" with
  | .null => return none
  | id => return some (← id.toStr)

/-- `record.get(field) or ""`. -/
def textOr (record : Json) (field : String) : Py String := do
  let value ← record.get field
  if value.truthy then value.toStr else return ""

/-- The exchange an id names, unless it is falsy or `"unknown"`. -/
def knownExchange (exchangeId : Json) : Py (Option String) := do
  if exchangeId.truthy then
    let id ← exchangeId.toStr
    return if id = "unknown" then none else some id
  else return none

def exchangeKeyFor (record : Json) : Py (Option String) := do
  match ← knownExchange (← exchangeIdFor record) with
  | some id => return some id
  | none => do
      let digest ← (← effectBlock record).get "request_digest"
      return if digest.truthy then some ("digest:" ++ digest.pyStr) else none

/-- The key by which the records of an exchange are sorted, with the record. -/
def sortKey (record : Json) : Py ((String × String) × Json) := do
  return ((← textOr record "timestamp", ← textOr record "capsule_id"), record)

def sortRecords (records : List Json) : Py (List Json) := do
  let keyed ← records.mapM sortKey
  return (keyed.insertionSort fun a b => toLex a.1 ≤ toLex b.1).map Prod.snd

def inExchange (exchangeId : String) : List Json → Py (List Json)
  | [] => .ok []
  | record :: records => do
      let id ← exchangeIdFor record
      let matching ← inExchange exchangeId records
      return if id.str? = some exchangeId then record :: matching else matching

def recordsForExchange (records : List Json) (exchangeId : Json) : Py (List Json) := do
  match ← knownExchange exchangeId with
  | none => return []
  | some id => sortRecords (← inExchange id records)

/-- The group of a view holds the record itself. -/
def withRecord (group : List Json) (record : Json) : Py (List Json) := do
  let id ← capsuleId record
  let ids ← group.mapM capsuleId
  if id ∈ ids then return group else sortRecords (group ++ [record])

/-- The first record under another id. -/
def firstOther (id : Option String) : List Json → Py (Option Json)
  | [] => .ok none
  | record :: records => do
      if (← capsuleId record) = id then firstOther id records else return some record

def sequencePosition (id : Option String) : ℕ → List Json → Py ℕ
  | _, [] => .error (.valueError "record is not a member of records_in_exchange")
  | position, record :: records => do
      if (← capsuleId record) = id then return position
      else sequencePosition id (position + 1) records

inductive Mark where
  | good
  | warn
  | bad
deriving DecidableEq

/-- The marks of the three lines of `build_verdict`; no witness verdict is at hand. -/
def verdictMarks (provenance : Provenance) (verifyOk : Option Bool) (named : Bool) : List Mark :=
  [if provenance.model.truthy ∧ verifyOk ≠ some false then .good else .warn, .warn,
    if named then .good else .warn]

structure ExchangeView where
  capsuleId : Option String
  exchangeId : Json
  role : RoleLabel
  verdict : List Mark
  position : ℕ
  groupSize : ℕ
  requesterHalf : Option String
  providerHalf : Option String
  digestMatch : MatchGrade
  thisHalf : IdentityChain
  counterpart : Option IdentityChain
  properties : AssuranceMap
  hasIssue : Bool

def headId : List Json → Py (Option String)
  | [] => .ok none
  | record :: _ => capsuleId record

def chainOfCounterpart : Option Json → Py (Option IdentityChain)
  | none => .ok none
  | some record => do return some (← identityChainFor record)

def buildExchangeView (record : Json) (allRecords : List Json) (source : SourceLog)
    (verifyMap : VerifyMap) (hasWitnessCheckpoint : Bool) : Py ExchangeView := do
  let id ← capsuleId record
  let result := id.bind verifyMap.get
  let exchangeId ← exchangeIdFor record
  let group ← withRecord (← recordsForExchange allRecords exchangeId) record
  let (requested, served) ← halfByRole source group
  let role ← labelRole record source
  let counterpart ← firstOther id (if role = .requested then served else requested)
  let (halfA, halfB) := if role = .requested then (some record, counterpart)
    else (counterpart, some record)
  let provenance ← readProvenance record
  let named ← namesCounterparty record
  let digest ← digestMatchGrade halfA halfB
  let properties ← buildAssuranceMap record result hasWitnessCheckpoint
  let position ← sequencePosition id 1 group
  let requesterHalf ← headId requested
  let providerHalf ← headId served
  let thisHalf ← identityChainFor record
  let theirHalf ← chainOfCounterpart counterpart
  return {
    capsuleId := id
    exchangeId := exchangeId
    role := role
    verdict := verdictMarks provenance (result.map VerificationResult.ok) named
    position := position
    groupSize := group.length
    requesterHalf := requesterHalf
    providerHalf := providerHalf
    digestMatch := digest
    thisHalf := thisHalf
    counterpart := theirHalf
    properties := properties
    hasIssue :=
      Pane.hasIssue (properties.chips.map Chip.state ++ [chipStateOfMatch digest.state]) }

/-! ## Rows -/

inductive RoleTag where
  | served
  | asked
deriving DecidableEq

/-- `_STATE_RANK` over the states of a digest match. -/
def rankOfMatch : MatchState → ℕ
  | .failed => 3
  | .presentUnverified => 2
  | .absent => 1
  | .verified => 0

def rankOfMark : Mark → ℕ
  | .bad => 3
  | .warn => 2
  | .good => 0

/-- The verdict lines that count while the witness line is pending. -/
def countedMarks : List Mark → List Mark
  | first :: witness :: rest => if witness = .bad then first :: witness :: rest else first :: rest
  | marks => marks

def worstState (view : ExchangeView) : MatchState :=
  let worst := ((countedMarks view.verdict).map rankOfMark).foldl max
    (rankOfMatch view.digestMatch.state)
  if 3 ≤ worst then .failed else if 2 ≤ worst then .presentUnverified else .verified

/-- One column of a row. -/
structure Side where
  state : MatchState
  capsuleId : Option String
  role : Option RoleLabel
  text : Option String
deriving DecidableEq

def sideOf (source : SourceLog) (absentText : String) : Option Json → Py Side
  | none => .ok ⟨.absent, none, none, some absentText⟩
  | some record => do
      return ⟨.presentUnverified, ← capsuleId record, some (← labelRole record source), none⟩

structure ExchangeRow where
  exchangeKey : String
  roleTag : RoleTag
  headerState : MatchState
  properties : Option AssuranceMap
  hasIssue : Bool
  mine : Side
  theirs : Side
  unilateral : Bool
  timestamp : Option String
  view : Option ExchangeView

def viewOf (group : List Json) (source : SourceLog) (verifyMap : VerifyMap) :
    Option Json → Py (Option ExchangeView)
  | none => .ok none
  | some anchor => do
      return some (← buildExchangeView anchor group source verifyMap false)

def roleTagOf (source : SourceLog) (mine theirs : Option Json) : Py RoleTag :=
  match mine, theirs with
  | some record, _ => do
      return if (← labelRole record source) = .served then .served else .asked
  | none, some record => do
      return if (← labelRole record source) = .served then .asked else .served
  | none, none => .ok .asked

def timestampOf : Option Json → Py String
  | none => .ok ""
  | some record => textOr record "timestamp"

/-- The later of two timestamps, of which an empty one is none. -/
def latest (a b : String) : Option String :=
  if max a b = "" then none else some (max a b)

def buildExchangeRow (key : String) (mineRecords theirsRecords group : List Json)
    (source : SourceLog) (verifyMap : VerifyMap) : Py ExchangeRow := do
  let mine := mineRecords.head?
  let theirs := theirsRecords.head?
  let view ← viewOf group source verifyMap (mine.or theirs)
  let tag ← roleTagOf source mine theirs
  let mineSide ← sideOf source "none — received without a commitment" mine
  let theirsSide ← sideOf source "none (unilateral)" theirs
  let mineTime ← timestampOf mine
  let theirsTime ← timestampOf theirs
  return {
    exchangeKey := key
    roleTag := tag
    headerState := (view.map worstState).getD .absent
    properties := view.map ExchangeView.properties
    hasIssue := (view.map ExchangeView.hasIssue).getD false
    mine := mineSide
    theirs := theirsSide
    unilateral := mine.isNone || theirs.isNone
    timestamp := latest mineTime theirsTime
    view := view }

/-! ## The list -/

/-- A record with what the grouping reads of it. -/
structure Entry where
  key : Option String
  id : Option String
  record : Json

def readEntry (record : Json) : Py Entry := do
  return ⟨← exchangeKeyFor record, ← capsuleId record, record⟩

/-- The keys in the order in which they first appear. -/
def keysOf (entries : List Entry) : List String := (entries.filterMap Entry.key).eraseDups

def groupOf (entries : List Entry) (key : String) : List Entry :=
  entries.filter fun e => decide (e.key = some key)

/-- `my_ids`. -/
def ownIds (entries : List Entry) : List String :=
  (entries.filterMap Entry.id).filter (· ≠ "")

def rowFor (source : SourceLog) (verifyMap : VerifyMap) (myIds : List String)
    (entries : List Entry) (key : String) : Py ExchangeRow :=
  let group := groupOf entries key
  buildExchangeRow key
    ((group.filter fun e => e.id.any (· ∈ myIds)).map Entry.record)
    ((group.filter fun e => !e.id.any (· ∈ myIds)).map Entry.record)
    (group.map Entry.record) source verifyMap

/-- `rows.sort(key=lambda r: r["timestamp"] or "", reverse=True)`. -/
def sortRows (rows : List ExchangeRow) : List ExchangeRow :=
  rows.insertionSort fun a b => b.timestamp.getD "" ≤ a.timestamp.getD ""

/-- Each list is verified against the ledger it is from. -/
def groupExchanges (verifier verifier' : Verifier) (myRecords counterpartyRecords : List Json)
    (source : SourceLog) : Py (List ExchangeRow) := do
  let mine ← myRecords.mapM readEntry
  let theirs ← counterpartyRecords.mapM readEntry
  let verifyMap := buildVerifyMap verifier myRecords ++ buildVerifyMap verifier' counterpartyRecords
  let entries := mine ++ theirs
  let rows ← (keysOf entries).mapM (rowFor source verifyMap (ownIds mine) entries)
  return sortRows rows

end CapsuleMesh.Pane
