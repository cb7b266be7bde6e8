import CapsuleMesh.Evidence.ServedRecords
import CapsuleMesh.Library.Ranking

/-!
# Asking the references

`run_references` of `ask_history.py`: the counterparties that the records of a node name, a sample of
them seeded by a witnessed checkpoint, and the tallies over what the sampled ones answer.
-/

namespace CapsuleMesh.AskHistory

open Python Evidence Library

def VERDICT_CORROBORATED : String := "corroborated"

def VERDICT_INCONCLUSIVE : String := "inconclusive"

def VERDICT_CONTRADICTED_PREFIX : String := "contradicted:"

def COUNTERPARTY_NAMING_KEYS : List String :=
  ["requesting_party", "served_by_node_id", "counterparty_ref"]

/-! ## Values at any depth -/

/-- `_iter_values_by_key`: the strings among what is found. -/
def iterValuesByKey (j : Json) (keys : List String) : List String :=
  (valuesUnder keys j).filterMap Json.str?

def members? (j : Json) : Option (List (String × Json)) :=
  match j with
  | .obj members => some members
  | _ => none

/-- `_iter_dicts_by_key`: the dictionaries among what is found. -/
def iterDictsByKey (j : Json) (key : String) : List (List (String × Json)) :=
  (valuesUnder [key] j).filterMap members?

/-! ## The sample -/

def discoverCounterparties (records : List ServedRecord) (excludeNodeId : String) : List String :=
  sortedSet ((records.flatMap fun r ↦ iterValuesByKey (.obj r.receipt) COUNTERPARTY_NAMING_KEYS).filter
    fun v => v ≠ "" ∧ v ≠ excludeNodeId ∧ v ≠ "unknown")

structure WitnessedSeed where
  root : String
  logId : String
  mmrSize : ℕ
  tsUrl : String
deriving DecidableEq

/-- A checkpoint record with the receipts that it carries. -/
abbrev Receipted := CheckpointRecord × List WitnessRecord

def CarriedCheckpoint.receipted (cp : CarriedCheckpoint) : Receipted := (cp.record, cp.witnesses)

section

variable (T : EvidenceTools)

/-- The receipt verifies under the key that is pinned for its witness. -/
def verifies (cp : CheckpointRecord) (w : WitnessRecord) : Bool :=
  decide (T.stamp cp w (defaultWitnessPin T w.tsUrl) = .witnessed)

/-- One turn of the loop of `witnessed_seed`. -/
def betterSeed (best : Option WitnessedSeed) (cp : Receipted) : Option WitnessedSeed :=
  if best.any fun best => decide (cp.1.mmrSize ≤ best.mmrSize) then best
  else
    match cp.2.find? (verifies T cp.1) with
    | some w => some ⟨cp.1.root, cp.1.logId, cp.1.mmrSize, w.tsUrl⟩
    | none => best

def witnessedSeed (checkpoints : List Receipted) : Option WitnessedSeed :=
  checkpoints.foldl (betterSeed T) none

def candidatesDigest (candidates : List String) : Py String :=
  match T.jcs (.arr ((sortedSet candidates).map .str)) with
  | some bytes => .ok (T.sha256Hex bytes)
  | none => .error (.valueError "")

/-- `xs[:k]`. -/
def sliceTo {α : Type} (as : List α) (k : Int) : List α :=
  as.take (if 0 ≤ k then k.toNat else as.length - k.natAbs)

def sampleReferenceCandidates (candidates : List String) (seed : String) (k : Int) : List String :=
  sliceTo (ranking (fun c => T.sha256Hex (utf8 (seed ++ ":" ++ c))) candidates) k

/-- `leaf_count`, which raises on what is not the size of a range. -/
def leafCountOf (size : ℕ) : Py ℕ :=
  match T.leafCount size with
  | some leaves => .ok leaves
  | none => .error (.valueError "")

/-- `leaf_count(line["mmr_size"]) >= needed`. -/
def reaches (needed : ℕ) (line : CarriedCheckpoint) : Py Bool := do
  return decide (needed ≤ (← leafCountOf T line.record.mmrSize))

/-- `_seed_checkpoints`. -/
def seedCheckpoints (anchor : CarriedCheckpoint) (records : List ServedRecord)
    (chain : List CarriedCheckpoint) : Py (List Receipted) :=
  if anchor.digest ∈ chain.map (fun line => T.sha256Hex line.statement) then
    match (records.map ServedRecord.leafIndex).max? with
    | none => .error (.valueError "max() arg is an empty sequence")
    | some last => do
        let covering ← chain.filterM (reaches T (last + 1))
        return anchor.receipted :: covering.map CarriedCheckpoint.receipted
  else .ok [anchor.receipted]

/-- How the sample was drawn; without a seed there was no witnessed checkpoint to draw it from. -/
structure Selection where
  k : Int
  candidatesDigest : String
  seed : Option WitnessedSeed
deriving DecidableEq

/-- The sample of the references. -/
def selectReferences (xNodeId : String) (anchor : CarriedCheckpoint) (records : List ServedRecord)
    (chain : List CarriedCheckpoint) (k : Int) : Py (List String × Selection) := do
  let candidates := discoverCounterparties records xNodeId
  let seed := witnessedSeed T (← seedCheckpoints T anchor records chain)
  let digest ← candidatesDigest T candidates
  match seed with
  | none => return ([], ⟨k, digest, none⟩)
  | some seed => return (sampleReferenceCandidates T candidates seed.root k, ⟨k, digest, some seed⟩)

end

/-! ## The tallies -/

@[ext]
structure Tally where
  corroborated : ℕ := 0
  contradicted : ℕ := 0
  inconclusive : ℕ := 0
  ackRefusals : ℕ := 0
deriving DecidableEq

def verdictOf (block : List (String × Json)) : Json := (block.lookup "verdict").getD .null

def isAttributedAdjudication (adjudication : List (String × Json)) : Bool :=
  ((adjudication.lookup "referee_id").getD .null).truthy

/-- The verdict names the node as the owner who is contradicted. -/
def contradicts (block : List (String × Json)) (xNodeId : String) : Bool :=
  (verdictOf block).pyEq (.str (VERDICT_CONTRADICTED_PREFIX ++ xNodeId))

def countAdjudication (xNodeId : String) (tally : Tally) (adjudication : List (String × Json)) :
    Tally :=
  if contradicts adjudication xNodeId then
    { tally with contradicted := tally.contradicted + 1 }
  else if (verdictOf adjudication).pyEq (.str VERDICT_CORROBORATED) then
    { tally with corroborated := tally.corroborated + 1 }
  else if (verdictOf adjudication).pyEq (.str VERDICT_INCONCLUSIVE) then
    { tally with inconclusive := tally.inconclusive + 1 }
  else tally

def countAckRefused (xNodeId : String) (tally : Tally) (ackRefused : List (String × Json)) : Tally :=
  if contradicts ackRefused xNodeId && isAttributedAdjudication ackRefused then
    { tally with ackRefusals := tally.ackRefusals + 1 }
  else tally

def classifyReceiptForX (xNodeId : String) (tally : Tally) (receipt : List (String × Json)) : Tally :=
  (iterDictsByKey (.obj receipt) "adjudication_ack_refused").foldl (countAckRefused xNodeId)
    ((iterDictsByKey (.obj receipt) "adjudication").foldl (countAdjudication xNodeId) tally)

/-! ## The run -/

/-- What posting a request to a door comes to. -/
inductive Posted where
  | exchanged (exchange : Exchange)
  | urlError
  | raised (e : PyError)

/-- What the loop over the sampled references has gathered. -/
structure Asking where
  tally : Tally := {}
  answered : ℕ := 0
  unreachable : List String := []

section

variable (T : EvidenceTools) (xNodeId : String) (peerMap : List (String × String)) (door : ℕ → Posted)

/-- The node has an address to be asked at. -/
def reachable (nodeId : String) : Bool := (peerMap.lookup nodeId).any (· ≠ "")

/-- One turn of the loop, where `door i` is what the `i`-th sampled reference does. -/
def askReference (i : ℕ) (nodeId : String) (asking : Asking) : Py Asking :=
  if reachable peerMap nodeId then
    match door i with
    | .urlError => .ok { asking with unreachable := asking.unreachable ++ [nodeId] }
    | .raised e => .error e
    | .exchanged exchange => do
        let records ← verifiedRecords T (readReply T exchange none)
        return { asking with
          answered := asking.answered + 1
          tally := (records.map ServedRecord.receipt).foldl (classifyReceiptForX xNodeId) asking.tally }
  else .ok { asking with unreachable := asking.unreachable ++ [nodeId] }

def askReferences : ℕ → List String → Asking → Py Asking
  | _, [], asking => .ok asking
  | i, nodeId :: rest, asking => do
      askReferences (i + 1) rest (← askReference T xNodeId peerMap door i nodeId asking)

/-- What `run_references` returns, without the continuity of the pulled records and the history card. -/
structure ReferencesResult where
  xNodeId : String
  candidatesDiscovered : ℕ
  referencesAsked : ℕ
  referencesAnswered : ℕ
  tally : Tally
  unreachableReferences : List String
  selection : Selection

/-- `run_references`, from the checked chain of the node and the reply with its own records on. -/
def runReferences (chain : List CarriedCheckpoint) (xReply : Reply) (k : Int) :
    Py ReferencesResult := do
  if xReply.refusal.isSome || !xReply.ok then .error .runtimeError
  else
    let served ← servedRecords T xReply
    match served.problems, served.anchor with
    | [], some anchor => do
        let (sampled, selection) ← selectReferences T xNodeId anchor served.records chain k
        let asking ← askReferences T xNodeId peerMap door 0 sampled {}
        return {
          xNodeId := xNodeId
          candidatesDiscovered := (discoverCounterparties served.records xNodeId).length
          referencesAsked := sampled.length
          referencesAnswered := asking.answered
          tally := asking.tally
          unreachableReferences := asking.unreachable
          selection := selection }
    | _, _ => .error .runtimeError

end

end CapsuleMesh.AskHistory
