import CapsuleMesh.Account.ServedSummary
import CapsuleMesh.Ledger.Cursor

/-!
# The evidence responder

`MeshEvidenceStore` over one ledger directory, and the artifact it builds under an
anchor.  Records are proven from a mountain range that is rebuilt over the covered
records and compared with the anchor; the list of checkpoints and the served summary
are built without it.
-/

namespace CapsuleMesh.Evidence

open Python Ledger History

def SERVED_SUMMARY_DERIVATION_TOKEN : String := "served_summary/1"

def MAX_ANSWER_RECORDS : ℕ := 200

def MAX_ANSWER_CHECKPOINTS : ℕ := 1024

inductive Reason where
  | coverageUnsatisfiable
  | policyDeclined
deriving DecidableEq

/-- Why there is no artifact: `er.Decline`, or an exception. -/
inductive Refused where
  | decline (reason : Reason) (text : String)
  | raised (e : PyError)
deriving DecidableEq

abbrev Serving := Except Refused

def Serving.ofPy {α : Type} (x : Py α) : Serving α := x.mapError .raised

def unsatisfiable {α : Type} (text : String) : Serving α :=
  .error (.decline .coverageUnsatisfiable text)

structure Anchor where
  digest : String
  size : ℕ
  issuedAt : String
deriving DecidableEq

/-- A checkpoint line; one without its statement is no anchor. -/
structure Checkpoint where
  line : CheckpointLine
  anchor : Option Anchor
deriving DecidableEq

inductive Subject where
  | record (digest : String)
  | range (first last : ℕ)
  | correlation (id : String)
  | checkpoints
  | fullHistory
  | exchange (half : String)
deriving DecidableEq

def Subject.toWire : Subject → Json
  | .record digest => .obj [("record", .str digest)]
  | .range first last => .obj [("range", .arr [.int first, .int last])]
  | .correlation id => .obj [("correlation", .str id)]
  | .checkpoints => .obj [("checkpoints", .null)]
  | .fullHistory => .obj [("full_history", .null)]
  | .exchange half => .obj [("exchange", .str half)]

/-- What the responder reads of a parsed request. -/
structure Request where
  subject : Subject
  derivation : Option String
  expectedPin : Option String

/-- What the module takes from elsewhere: floats, hashes, canonical JSON, and the
mountain range with its proofs. -/
structure Library where
  doubles : Doubles
  leafCount : Int → Py ℕ
  sha256Hex : Bytes → String
  jcsHex : Json → String
  definitionDigest : String
  Tree : Type
  rebuild : List Bytes → Tree
  treeSize : Tree → Int
  rootAt : Tree → Int → Py String
  inclusionProof : Tree → ℕ → Int → Py Bytes
  consistencyProof : Tree → Int → Int → Py Bytes

/-! ## Correlators -/

def CORRELATION_KEYS : List String := ["nonce", "client_nonce", "exchange_id", "counterparty_ref"]

mutual

def valuesUnder (keys : List String) : Json → List Json
  | .obj members => valuesUnderMembers keys members
  | .arr elems => valuesUnderElems keys elems
  | _ => []

def valuesUnderMembers (keys : List String) : List (String × Json) → List Json
  | [] => []
  | (k, v) :: members =>
      (if k ∈ keys then [v] else []) ++ valuesUnder keys v ++ valuesUnderMembers keys members

def valuesUnderElems (keys : List String) : List Json → List Json
  | [] => []
  | e :: elems => valuesUnder keys e ++ valuesUnderElems keys elems

end

def carriesCorrelation (record : Json) (id : String) : Bool :=
  (valuesUnder CORRELATION_KEYS record).any (·.pyEq (.str id)) ||
    (valuesUnder ["adjudication"] record).any fun block =>
      (Account.memberOf block "verdict").pyEq (.str ("contradicted:" ++ id))

/-! ## The store -/

structure MeshEvidenceStore where
  records : List Json
  archived : List ArchivedSegment
  indexOf : List (Key × ℕ)
  checkpoints : List Checkpoint

/-- `index_of`: the first entry of an id is the one that `setdefault` keeps. -/
def indexFrom : ℕ → List Json → Py (List (Key × ℕ))
  | _, [] => .ok []
  | i, record :: records => do
      let id ← (← record.get "capsule_id").key
      return (id, i) :: (← indexFrom (i + 1) records)

def loadCheckpoint (lib : Library) (line : CheckpointLine) : Py Checkpoint :=
  match line.checkpointCose with
  | none => .ok ⟨line, none⟩
  | some cose =>
      if cose = "" then .ok ⟨line, none⟩
      else do
        let digest := lib.sha256Hex (← bytesFromHex cose)
        let size ← lib.leafCount line.mmrSize
        return ⟨line, some ⟨digest, size, line.timestamp⟩⟩

def loadCheckpoints (lib : Library) (lines : List CheckpointLine) : Py (List Checkpoint) :=
  lines.mapM (loadCheckpoint lib)

/-- `MeshEvidenceStore.__init__`. -/
def loadStore (lib : Library) (dir : LedgerDir) (lines : List CheckpointLine) :
    Py MeshEvidenceStore := do
  let (records, archived) ← dir.readAllCapsules
  let indexOf ← indexFrom 0 records
  let checkpoints ← loadCheckpoints lib lines
  return ⟨records, archived, indexOf, checkpoints⟩

def checkpointFor (checkpoints : List Checkpoint) (anchor : Anchor) : Serving Checkpoint :=
  match checkpoints.find? fun cp => decide (cp.anchor = some anchor) with
  | some cp => .ok cp
  | none => unsatisfiable "no anchor to serve under"

/-- The checkpoints from the first one up to the anchor. -/
def chainTo (checkpoints : List Checkpoint) (at_ : Checkpoint) : List Checkpoint :=
  checkpoints.take (checkpoints.idxOf at_ + 1)

def recordIndices (store : MeshEvidenceStore) (subject : Subject) (covered : ℕ) :
    Serving (List ℕ) :=
  match subject with
  | .record digest =>
      match store.indexOf.lookup (.str digest) with
      | none => .error (.raised .keyError)
      | some index =>
        if covered ≤ index then unsatisfiable "the record is not under the anchor yet"
        else .ok [index]
  | .range first last => .ok (List.range' first (last + 1 - first))
  | .correlation id =>
      let indices := (List.range (min covered store.records.length)).filter fun i =>
        (store.records[i]?).any (carriesCorrelation · id)
      if indices.isEmpty then unsatisfiable "no record carrying it is under the anchor yet"
      else .ok indices
  | _ => .ok (List.range (min covered store.records.length))

/-- The bytes that a record's leaf commits. -/
def entryOf (record : Json) : Py Bytes := do
  bytesFromHex (← (← record.item "capsule_id").toStr)

/-- `_tree`. -/
def treeOf (lib : Library) (store : MeshEvidenceStore) (cp : CheckpointLine) (covered : ℕ) :
    Serving lib.Tree :=
  if !store.archived.isEmpty || decide (store.records.length < covered) then
    unsatisfiable "records of this log are not mounted"
  else
    match (store.records.take covered).mapM entryOf with
    | .error _ => unsatisfiable "a ledger line has no capsule_id"
    | .ok entries => do
        let tree := lib.rebuild entries
        if lib.treeSize tree ≠ cp.mmrSize then
          unsatisfiable "the ledger does not reproduce the anchor"
        else
          let root ← Serving.ofPy (lib.rootAt tree cp.mmrSize)
          if root ≠ cp.root then unsatisfiable "the ledger does not reproduce the anchor"
          else return tree

def recordAt (records : List Json) (i : ℕ) : Serving Json :=
  match records[i]? with
  | some record => .ok record
  | none => .error (.raised .indexError)

/-! ## The served summary -/

/-- `_served_summary`, with the request it makes of `answer_served_summary_request`. -/
def servedSummary (lib : Library) (records : List Json) (checkpoints : List Checkpoint)
    (cp : CheckpointLine) : Serving Json :=
  let lines := (checkpoints.filter (·.anchor.isSome)).map Checkpoint.line
  if cp.root = "" then
    unsatisfiable ("served_summary requires expected_pin (a static export); " ++
      "on-demand export is refused")
  else
    match lines.getLast? with
    | none => unsatisfiable "no checkpoints recorded for this log"
    | some latest =>
        if latest.root ≠ cp.root then
          unsatisfiable "expected_pin does not match the latest checkpoint root for this log"
        else
          match latest.keyId with
          | none => .error (.raised .keyError)
          | some keyId => Serving.ofPy do
              let summary ← Account.buildServedSummary lib.doubles lib.leafCount
                (.str (nodeIdFromKeyId keyId)) records (some latest) .sidecar
              summary.toValue lib.doubles lib.definitionDigest

/-! ## The artifact -/

/-- The artifact as the value whose canonical form is sent, and the material with it. -/
structure Artifact where
  value : Json
  material : List (String × Bytes)

def headOf (at_ : Checkpoint) (digest : String) (subject : Subject) : List (String × Json) :=
  [("anchor", .str digest), ("evidence_stream", .str at_.line.logId), ("subject", subject.toWire)]

/-- The statement of an anchor in hex. -/
def coseOf (cp : Checkpoint) : Json := Json.ofStr? cp.line.checkpointCose

def checkpointList (checkpoints : List Checkpoint) (at_ : Checkpoint)
    (head : List (String × Json)) : Serving Artifact :=
  let chain := chainTo checkpoints at_
  if MAX_ANSWER_CHECKPOINTS < chain.length then
    .error (.decline .policyDeclined "more checkpoints than one answer carries")
  else if chain.any (·.anchor.isNone) then
    unsatisfiable "a checkpoint before the anchor has no statement to list"
  else .ok ⟨.obj (head ++ [("checkpoints", .arr (chain.map coseOf))]), []⟩

/-- The answer with records, once their indices and the tree are there. -/
def recordAnswer (lib : Library) (at_ : Checkpoint) (statement : Bytes) (head : List (String × Json))
    (subject : Subject) (tree : lib.Tree) (records : List Json) (indices : List ℕ) :
    Serving Artifact := do
  let cp := at_.line
  let proofs ← indices.mapM fun i => Serving.ofPy (lib.inclusionProof tree i cp.mmrSize)
  let material := ("cll-checkpoint", statement) :: proofs.map fun p => ("cll-inclusion-proof", p)
  match subject with
  | .record _ => do
      let consistency ←
        if 0 < cp.prevSize then do
          let proof ← Serving.ofPy (lib.consistencyProof tree cp.prevSize cp.mmrSize)
          pure [("cll-consistency-proof", proof)]
        else pure []
      let index ← Serving.ofPy ((indices.head?.map .ok).getD (.error .indexError))
      return ⟨← recordAt records index, material ++ consistency⟩
  | _ => do
      let rows ← indices.mapM fun i => do
        let record ← recordAt records i
        let digest ← Serving.ofPy (record.item "capsule_id")
        return Json.obj
          [("body", .str (lib.jcsHex record)), ("digest", digest), ("leaf_index", .int i)]
      return ⟨.obj (head ++ [("records", .arr rows)]), material⟩

/-- The artifact under a checkpoint that is an anchor. -/
def artifactUnder (lib : Library) (store : MeshEvidenceStore) (at_ : Checkpoint) (anchor : Anchor)
    (statement : Bytes) (subject : Subject) (derivation : Option String) : Serving Artifact :=
  let head := headOf at_ anchor.digest subject
  if derivation = some SERVED_SUMMARY_DERIVATION_TOKEN then do
    let summary ← servedSummary lib store.records store.checkpoints at_.line
    let value := Json.obj (head ++
      [("derivation", .str SERVED_SUMMARY_DERIVATION_TOKEN), ("served_summary", summary)])
    return ⟨value, [("cll-checkpoint", statement)]⟩
  else if subject = .checkpoints then checkpointList store.checkpoints at_ head
  else do
    let indices ← recordIndices store subject anchor.size
    if MAX_ANSWER_RECORDS < indices.length then
      .error (.decline .policyDeclined "more than 200 records: ask for a range")
    else do
      let tree ← treeOf lib store at_.line anchor.size
      recordAnswer lib at_ statement head subject tree store.records indices

/-- `MeshEvidenceStore.artifact`, under the anchor that a request resolved to. -/
def artifact (lib : Library) (store : MeshEvidenceStore) (subject : Subject)
    (derivation : Option String) (anchor : Anchor) : Serving Artifact := do
  let at_ ← checkpointFor store.checkpoints anchor
  let statement ← Serving.ofPy (bytesFromHex (at_.line.checkpointCose.getD ""))
  artifactUnder lib store at_ anchor statement subject derivation

/-- `_answer`, once the request is parsed and resolved to an anchor. -/
def answer (lib : Library) (dir : LedgerDir) (lines : List CheckpointLine) (request : Request)
    (anchor : Anchor) : Serving Artifact :=
  if request.derivation = some SERVED_SUMMARY_DERIVATION_TOKEN ∧ request.expectedPin = none then
    .error (.decline .policyDeclined "")
  else do
    let store ← Serving.ofPy (loadStore lib dir lines)
    artifact lib store request.subject request.derivation anchor

end CapsuleMesh.Evidence
