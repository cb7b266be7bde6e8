import CapsuleMesh.Python.Bytes

/-!
# History cards

`history_card.py`.  A card is a fold over the lines of `checkpoints.jsonl` above a
boundary: the walk checks each link against its predecessor, and the card
publishes what the walk found.  The verifier rebuilds the card from the lines and
compares.  The identity it compares is read from the first line.
-/

namespace CapsuleMesh.History

open Python

structure Witness where
  tsUrl : String
  isStub : Bool
deriving DecidableEq

/-- A parsed line of `checkpoints.jsonl`, with its sibling `checkpoint_cose`. -/
structure CheckpointLine where
  mmrSize : Int
  root : String
  prevSize : Int
  prevRoot : String
  timestamp : String
  logId : String
  keyId : Option String
  witnesses : List Witness
  checkpointCose : Option String
deriving DecidableEq

/-- What a statement that verifies says, with the key it verifies under. -/
structure DecodedCheckpoint where
  mmrSize : Int
  root : String
  prevSize : Int
  prevRoot : String
  keyId : String
deriving DecidableEq

/-- The interval statistics of `_cadence`, as formatted. -/
structure CadenceStats where
  spanSeconds : String
  meanIntervalSeconds : String
  minIntervalSeconds : String
  maxIntervalSeconds : String

structure CheckpointRef where
  mmrSize : Int
  root : String
  entryDigest : String
  timestamp : String

structure HistoryProperties where
  continuity : String
  historyDepth : ℕ
  unforked : Bool
  cadence : List (String × Json)
  temporalProvenance : String

/-- What the module takes from elsewhere: the checkpoint and account libraries,
and the arithmetic on parsed timestamps. -/
structure Library where
  verifyCheckpointCoseOffline : Bytes → Except String DecodedCheckpoint
  entryDigest : CheckpointLine → String
  definitionDigest : String
  verifyAccount : CheckpointRef → CheckpointRef → HistoryProperties → Bool
  cadenceStats : List String → Py CadenceStats

def CheckpointRef.fromRecord (lib : Library) (cp : CheckpointLine) : CheckpointRef :=
  ⟨cp.mmrSize, cp.root, lib.entryDigest cp, cp.timestamp⟩

def CheckpointRef.toValue (ref : CheckpointRef) : Json :=
  .obj
    [("mmr_size", .int ref.mmrSize),
     ("root", .str ref.root),
     ("entry_digest", .str ref.entryDigest),
     ("timestamp", .str ref.timestamp)]

def HistoryProperties.toValue (properties : HistoryProperties) : Json :=
  .obj
    [("continuity", .str properties.continuity),
     ("history_depth", .int properties.historyDepth),
     ("unforked", .bool properties.unforked),
     ("cadence", .obj properties.cadence),
     ("temporal_provenance", .str properties.temporalProvenance)]

def cadence (lib : Library) (checkpoints : List CheckpointLine) : Py (List (String × Json)) :=
  if checkpoints.length < 2 then .ok [("checkpoints", .int checkpoints.length)]
  else do
    let stats ← lib.cadenceStats (checkpoints.map CheckpointLine.timestamp)
    return [("checkpoints", .int checkpoints.length),
      ("span_seconds", .str stats.spanSeconds),
      ("mean_interval_seconds", .str stats.meanIntervalSeconds),
      ("min_interval_seconds", .str stats.minIntervalSeconds),
      ("max_interval_seconds", .str stats.maxIntervalSeconds)]

/-! ## The walk -/

/-- `None`, or the reason for which `cur` does not extend `prev`. -/
def verifyLink (lib : Library) (prev cur : CheckpointLine) (curCoseHex : Option String) :
    Option String :=
  if cur.logId ≠ prev.logId then
    some ("log_id changed (" ++ pyRepr prev.logId ++ " -> " ++ pyRepr cur.logId ++ ")")
  else if cur.prevSize ≠ prev.mmrSize ∨ cur.mmrSize ≤ prev.mmrSize then
    some ("prev_size=" ++ toString cur.prevSize ++
      " does not chain from the prior checkpoint's mmr_size=" ++ toString prev.mmrSize)
  else
    match curCoseHex.filter (· ≠ "") with
    | none => some "no checkpoint_cose on this checkpoint -- continuity is asserted, not proven"
    | some hex =>
        match bytesFromHex hex with
        | .error _ => some "checkpoint_cose is not valid hex"
        | .ok coseBytes =>
          match lib.verifyCheckpointCoseOffline coseBytes with
          | .error errors => some ("COSE-wire consistency proof failed: " ++ errors)
          | .ok decoded =>
            if decoded.mmrSize ≠ cur.mmrSize ∨ decoded.root ≠ cur.root then
              some "checkpoint_cose does not bind to this checkpoint's own JSON record"
            else if decoded.prevSize ≠ prev.mmrSize ∨ decoded.prevRoot ≠ prev.root then
              some ("checkpoint_cose's proven predecessor does not match the prior " ++
                "checkpoint in this chain")
            else none

/-- `cose_by_size.get(size)`: of several lines of one size the last one counts. -/
def coseBySize (lines : List CheckpointLine) (size : Int) : Option String :=
  (lines.filter fun line => decide (line.mmrSize = size)).getLast?.bind
    CheckpointLine.checkpointCose

structure Walked where
  continuity : String
  unforked : Bool
  verified : List CheckpointLine

def brokenAt (cp : CheckpointLine) (reason : String) : String :=
  "broken at mmr_size=" ++ toString cp.mmrSize ++ ": " ++ reason

/-- The loop of `_walk_chain`, after `verified`. -/
def walkFrom (lib : Library) (cose : Int → Option String) :
    Option CheckpointLine → List CheckpointLine → List CheckpointLine → Walked
  | _, verified, [] => ⟨"unbroken", true, verified⟩
  | none, verified, cp :: rest =>
      if cp.prevSize ≠ 0 then
        ⟨brokenAt cp ("claims prev_size=" ++ toString cp.prevSize ++
          " but no earlier checkpoint is in range (incomplete history)"), false, verified⟩
      else walkFrom lib cose (some cp) (verified ++ [cp]) rest
  | some prev, verified, cp :: rest =>
      match verifyLink lib prev cp (cose cp.mmrSize) with
      | some reason => ⟨brokenAt cp reason, false, verified⟩
      | none => walkFrom lib cose (some cp) (verified ++ [cp]) rest

def NO_CHECKPOINTS : String := "no checkpoints since the requested size"

def walkChain (lib : Library) (inRange : List CheckpointLine) (cose : Int → Option String)
    (boundary : Option CheckpointLine) : Walked :=
  if inRange.isEmpty then ⟨NO_CHECKPOINTS, true, []⟩ else walkFrom lib cose boundary [] inRange

/-! ## The card -/

def FORKS_STATE_ABSENT : String := "absent"

def FORKS_STATE_UNREADABLE : String := "unreadable"

/-- The counts outside the chain walk are whatever a published card says. -/
structure HistoryCard where
  nodeId : Json
  logId : Json
  sinceSize : Int
  fromCheckpoint : Option CheckpointRef
  toCheckpoint : Option CheckpointRef
  properties : HistoryProperties
  checkpointCount : ℕ
  witnesses : List String
  witnessed : Bool
  reconciledWith : Json := .int 0
  forksObserved : Json := .int 0
  forksState : Json := .str FORKS_STATE_ABSENT
  referencesAsked : Json := .int 0
  referencesAnswered : Json := .int 0
  adjudicationsAboutX : List (String × Json) := []
  ackRefusalsAboutX : Json := .int 0

def refValue (ref : Option CheckpointRef) : Json := (ref.map CheckpointRef.toValue).getD .null

def HistoryCard.toValue (lib : Library) (card : HistoryCard) : Json :=
  .obj
    [("schema", .str "mesh-history-card/1"),
     ("node_id", card.nodeId),
     ("log_id", card.logId),
     ("selection", .obj
       [("since_size", .int card.sinceSize),
        ("from_checkpoint", refValue card.fromCheckpoint),
        ("to_checkpoint", refValue card.toCheckpoint),
        ("note", .str ("checkpoints_only -- digests-only tier: checkpoint roots and entry " ++
          "digests only, no capsule content, no per-record (per-capsule) digests"))]),
     ("derivation", .obj
       [("kind", .str "history_chain_walk"),
        ("definition_digest", .str lib.definitionDigest),
        ("properties", card.properties.toValue),
        ("note", .str ("structural properties of the checkpoint chain since size S; an " ++
          "ACCOUNT of continuity, not a score. The relying party computes its " ++
          "own predicate."))]),
     ("coverage", .obj
       [("checkpoint_count", .int card.checkpointCount),
        ("witnesses", .arr (card.witnesses.map .str)),
        ("witnessed", .bool card.witnessed)]),
     ("peer_reconciliation", .obj
       [("reconciled_with", card.reconciledWith),
        ("forks_observed",
          if card.forksState.pyEq (.str FORKS_STATE_UNREADABLE) then .null
          else card.forksObserved),
        ("forks_state", card.forksState),
        ("note", .str ("peer count and fork count from this node's own checkpoint-root " ++
          "observation store, not from this log's checkpoint chain -- see " ++
          "reconciliation_counts_from_ledger_dir(). forks_state signals whether " ++
          "the count is trustworthy: 'absent'=plugin never ran (zero is honest), " ++
          "'unreadable'=file present but corrupt or tampered (forks_observed=None), " ++
          "'ok'=normal read, all fields present."))]),
     ("references", .obj
       [("asked", card.referencesAsked),
        ("answered", card.referencesAnswered),
        ("adjudications_about_x", .obj card.adjudicationsAboutX),
        ("ack_refusals_about_x", card.ackRefusalsAboutX),
        ("note", .str ("counts from live-asking a SAMPLE of this card's own counterparties " ++
          "about a DIFFERENT node's history -- never derived from this log's own " ++
          "checkpoint chain; refusals are counted, never inferred"))]),
     ("not_a_score", .str ("This is an account of structural facts about the checkpoint " ++
       "chain, not a score or routing recommendation."))]

/-- `HistoryCard.verify`. -/
def HistoryCard.verify (lib : Library) (card : HistoryCard) : Bool :=
  match card.fromCheckpoint, card.toCheckpoint with
  | some start, some stop => lib.verifyAccount start stop card.properties
  | _, _ => true

def inRange (lines : List CheckpointLine) (sinceSize : Int) : List CheckpointLine :=
  lines.filter fun line => decide (sinceSize < line.mmrSize)

/-- The lines at the boundary size; the first of them is the trust anchor. -/
def atBoundary (lines : List CheckpointLine) (sinceSize : Int) : List CheckpointLine :=
  lines.filter fun line => decide (line.mmrSize = sinceSize)

def boundaryOf (lines : List CheckpointLine) (sinceSize : Int) : Option CheckpointLine :=
  if 0 < sinceSize then (atBoundary lines sinceSize).head? else none

/-- `sorted({...})` on strings. -/
def sortedSet (urls : List String) : List String := (urls.mergeSort (· ≤ ·)).dedup

/-- The card of a walk that had something to walk. -/
def cardOf (lib : Library) (nodeId logId : Json) (sinceSize : Int)
    (boundary : Option CheckpointLine) (inRange : List CheckpointLine) (walked : Walked)
    (cadence : List (String × Json)) : HistoryCard :=
  let hasRealWitnesses := walked.verified.any fun cp => cp.witnesses.any (!·.isStub)
  let latest := inRange.getLast?.or boundary
  let witnesses := sortedSet (((latest.map CheckpointLine.witnesses).getD []).map Witness.tsUrl)
  { nodeId := nodeId
    logId := logId
    sinceSize := sinceSize
    fromCheckpoint :=
      (boundary.toList ++ walked.verified).head?.map (CheckpointRef.fromRecord lib)
    toCheckpoint := (walked.verified.getLast?.or boundary).map (CheckpointRef.fromRecord lib)
    properties :=
      { continuity := walked.continuity
        historyDepth := walked.verified.length
        unforked := walked.unforked
        cadence := cadence
        temporalProvenance := if hasRealWitnesses then "receipt_bounded" else "producer_asserted" }
    checkpointCount := inRange.length
    witnesses := witnesses
    witnessed := !witnesses.isEmpty }

def emptyCard (nodeId logId : Json) (sinceSize : Int) : HistoryCard where
  nodeId := nodeId
  logId := logId
  sinceSize := sinceSize
  fromCheckpoint := none
  toCheckpoint := none
  properties := ⟨NO_CHECKPOINTS, 0, true, [], "producer_asserted"⟩
  checkpointCount := 0
  witnesses := []
  witnessed := false

def buildHistoryCard (lib : Library) (nodeId logId : Json) (lines : List CheckpointLine)
    (sinceSize : Int) : Py HistoryCard :=
  let boundary := boundaryOf lines sinceSize
  let inRange := inRange lines sinceSize
  if 0 < sinceSize ∧ boundary = none then
    .error (.valueError ("since_size=" ++ toString sinceSize ++
      " does not match any known checkpoint for log_id=" ++ logId.pyRepr))
  else if boundary = none ∧ inRange = [] then .ok (emptyCard nodeId logId sinceSize)
  else do
    let walked := walkChain lib inRange (coseBySize lines) boundary
    let cadence ← cadence lib walked.verified
    return cardOf lib nodeId logId sinceSize boundary inRange walked cadence

/-! ## The verifier -/

structure HistoryVerifyResult where
  ok : Bool
  errors : List String

def nodeIdFromKeyId (keyId : String) : String :=
  "node:" ++ String.ofList (keyId.toList.take 16)

/-- The text of the error that `j[key]` raises. -/
def subscriptText (key : String) : Json → String
  | .obj _ => pyRepr key
  | .arr _ => "list indices must be integers or slices, not str"
  | .str _ => "string indices must be integers, not 'str'"
  | .null => "'NoneType' object is not subscriptable"
  | .bool _ => "'bool' object is not subscriptable"
  | .int _ => "'int' object is not subscriptable"
  | .float _ => "'float' object is not subscriptable"

def subscript (j : Json) (key : String) : Except String Json :=
  match j.item key with
  | .ok value => .ok value
  | .error _ => .error (subscriptText key j)

/-- `since_size`, `node_id` and `log_id` as the card claims them. -/
def claimed (card : Json) : Except String (Json × Json × Json) := do
  let selection ← subscript card "selection"
  let sinceSize ← subscript selection "since_size"
  let nodeId ← subscript card "node_id"
  let logId ← subscript card "log_id"
  return (sinceSize, nodeId, logId)

/-- The node id and the log id that the first line derives. -/
def chainIdentity (line : CheckpointLine) : Json × Json :=
  (match line.keyId.filter (· ≠ "") with
    | some keyId => .str (nodeIdFromKeyId keyId)
    | none => .null,
   .str line.logId)

def identityErrors (claimedNodeId claimedLogId chainNodeId chainLogId : Json) : List String :=
  (if claimedLogId.pyEq chainLogId then []
    else ["log_id mismatch: card claims log_id=" ++ claimedLogId.pyRepr ++
      " but the checkpoint chain's own log_id is " ++ chainLogId.pyRepr]) ++
  (if claimedNodeId.pyEq chainNodeId then []
    else ["node_id mismatch: card claims node_id=" ++ claimedNodeId.pyRepr ++
      " but the checkpoint chain's signing key derives node_id=" ++ chainNodeId.pyRepr ++
      " -- refusing a history card presented under an identity the checkpoint " ++
      "chain does not carry"])

/-- `dict(x)` of what a card may hold there. -/
def toDict : Json → Py (List (String × Json))
  | .obj members => .ok members
  | _ => .error .typeError

/-- The recomputed card with the counts that the published one carries. -/
def withEnrichment (card : Json) (recomputed : HistoryCard) : Py HistoryCard := do
  let prBlock := (← card.get "peer_reconciliation").or (.obj [])
  let refsBlock := (← card.get "references").or (.obj [])
  let forksState ← prBlock.getD "forks_state" (.str FORKS_STATE_ABSENT)
  let forksObserved := (← prBlock.get "forks_observed").or (.int 0)
  let reconciledWith ← prBlock.getD "reconciled_with" (.int 0)
  let asked ← refsBlock.getD "asked" (.int 0)
  let answered ← refsBlock.getD "answered" (.int 0)
  let adjudications ← toDict ((← refsBlock.get "adjudications_about_x").or (.obj []))
  let refusals ← refsBlock.getD "ack_refusals_about_x" (.int 0)
  return { recomputed with
    reconciledWith := reconciledWith
    forksObserved := forksObserved
    forksState := forksState
    referencesAsked := asked
    referencesAnswered := answered
    adjudicationsAboutX := adjudications
    ackRefusalsAboutX := refusals }

/-- `(card_value.get("derivation") or {}).get("properties")`. -/
def publishedProperties (card : Json) : Py Json := do
  ((← card.get "derivation").or (.obj [])).get "properties"

/-- The errors of the final comparison. -/
def comparisonErrors (lib : Library) (card : Json) (recomputed : HistoryCard) :
    Py (List String) := do
  let account := if recomputed.verify lib then []
    else ["recomputed card fails its own core-account recompute+match"]
  if (recomputed.toValue lib).pyEq card then
    return account
  else
    let published ← publishedProperties card
    let mine := recomputed.properties.toValue
    let properties := if mine.pyEq published then []
      else ["properties mismatch: recomputed=" ++ mine.pyRepr ++ " published=" ++ published.pyRepr]
    return "recomputed card does not match the published card" :: (properties ++ account)

/-- Rebuild, fold the published counts in, and compare. -/
def recomputeAndMatch (lib : Library) (card nodeId logId : Json) (lines : List CheckpointLine)
    (sinceSize : Int) : Py HistoryVerifyResult :=
  match buildHistoryCard lib nodeId logId lines sinceSize with
  | .error (.valueError text) => .ok ⟨false, [text]⟩
  | .error e => .error e
  | .ok built => do
      let recomputed ← withEnrichment card built
      let errors ← comparisonErrors lib card recomputed
      return ⟨errors.isEmpty, errors⟩

/-- A boundary size: a number that is equal to an integer.  A fraction, which compares with the
sizes too, is left out. -/
def sinceSizeOf (sinceSize : Json) : Py Int :=
  match sinceSize.asInt with
  | some n => .ok n
  | none => .error .typeError

def verifyHistoryCard (lib : Library) (card : Json) (lines : List CheckpointLine) :
    Py HistoryVerifyResult :=
  match claimed card with
  | .error text => .ok ⟨false, ["malformed card: missing " ++ text]⟩
  | .ok (sinceSize, claimedNodeId, claimedLogId) =>
      match lines with
      | [] => do
        recomputeAndMatch lib card claimedNodeId claimedLogId lines (← sinceSizeOf sinceSize)
      | first :: _ =>
        let (nodeId, logId) := chainIdentity first
        let errors := identityErrors claimedNodeId claimedLogId nodeId logId
        if errors.isEmpty then do
          recomputeAndMatch lib card nodeId logId lines (← sinceSizeOf sinceSize)
        else .ok ⟨false, errors⟩

end CapsuleMesh.History
