import Mathlib.Data.Rat.Defs
import CapsuleMesh.History.Card
import CapsuleMesh.Python.Canonical

/-!
# Checkpointing a ledger

`checkpointing.py`.  A mountain range follows the ledger, and a signed checkpoint of it
is appended to `checkpoints.jsonl` when the cadence asks for one, when the node comes
back, or when it shuts down.  After a restart the state is rebuilt from the two files.
-/

namespace CapsuleMesh.Checkpoint

open Python
open History (CheckpointLine Witness)

/-! ## The ledger -/

/-- `capsules.jsonl`: whole lines, by the capsule ids in them, and perhaps the beginning of
one that another process is writing. -/
structure LedgerFile where
  records : List String
  torn : Bool
deriving DecidableEq

/-- The lines of the file; one that does not parse is `none`. -/
def LedgerFile.lines (file : LedgerFile) : List (Option String) :=
  file.records.map some ++ if file.torn then [none] else []

/-- `JsonlLogSource.scan`: only the last line may be torn. -/
def scan : List (Option String) → Py (List String)
  | [] => .ok []
  | some capsuleId :: lines => do return capsuleId :: (← scan lines)
  | [none] => .ok []
  | none :: _ :: _ => .error (.valueError "JSONDecodeError")

/-! ## The checkpoint library -/

/-- What comes of one `register_checkpoint`. -/
inductive Registration where
  | registered (witness : Witness)
  /-- `CheckpointError` or `URLError`. -/
  | failed
  | raised (e : PyError)

/-- The functions of `capsule_emit.checkpoint`, for one configuration and key. -/
structure Toolkit where
  /-- The leaves after `MmrLedger.sync`, and how many it added. -/
  sync : (leaves records : List String) → List String × ℕ
  mmrSize : ℕ → ℕ
  leafCount : Int → Py ℕ
  dueForCheckpoint : (entries : Int) → (secondsSinceLast : Option ℚ) → Bool
  emitCheckpoint : (leaves : List String) → (prev : Option CheckpointLine) → (now : String) →
    Py CheckpointLine
  checkpointToCose : CheckpointLine → (leaves : List String) → (prev : Option CheckpointLine) →
    Option Bytes
  tsUrls : List String

/-- What the rest of the world does during one call. -/
structure Surroundings where
  pendingAt : ℚ
  clock : ℚ
  timestamp : String
  register : Bytes → String → Registration

/-! ## The state -/

structure CheckpointState where
  leaves : List String
  lastCheckpoint : Option CheckpointLine
  entriesSinceCheckpoint : Int
  pendingSince : Option ℚ
  lastCheckpointCose : Option Bytes
  pendingTsUrls : List String

/-- A process with the two files it works on. -/
structure Node where
  ledger : LedgerFile
  checkpoints : List CheckpointLine
  state : CheckpointState

/-- `CheckpointRecord.from_dict` leaves out the sibling `checkpoint_cose`. -/
def readLastCheckpoint (checkpoints : List CheckpointLine) : Option CheckpointLine :=
  checkpoints.getLast?.map fun line => { line with checkpointCose := none }

def lastLeafCount (T : Toolkit) : Option CheckpointLine → Py ℕ
  | none => .ok 0
  | some cp => T.leafCount cp.mmrSize

def load (T : Toolkit) (around : Surroundings) (ledger : LedgerFile)
    (checkpoints : List CheckpointLine) : Py CheckpointState := do
  let (leaves, _) := T.sync [] (← scan ledger.lines)
  let lastCheckpoint := readLastCheckpoint checkpoints
  let entriesSince : Int := leaves.length - (← lastLeafCount T lastCheckpoint)
  return {
    leaves := leaves
    lastCheckpoint := lastCheckpoint
    entriesSinceCheckpoint := entriesSince
    pendingSince := if 0 < entriesSince then some around.pendingAt else none
    lastCheckpointCose := none
    pendingTsUrls := [] }

namespace CheckpointState

def notePending (around : Surroundings) (s : CheckpointState) (added : ℕ) : CheckpointState :=
  let entries := s.entriesSinceCheckpoint + added
  { s with
    entriesSinceCheckpoint := entries
    pendingSince :=
      if 0 < entries ∧ s.pendingSince = none then some around.pendingAt else s.pendingSince }

/-- `mmr.sync` and `_note_pending`. -/
def follow (T : Toolkit) (around : Surroundings) (s : CheckpointState) (records : List String) :
    CheckpointState :=
  let (leaves, added) := T.sync s.leaves records
  { s with leaves := leaves }.notePending around added

end CheckpointState

/-! ## Witnesses -/

/-- `_register_with`: the checkpoint with the witnesses added so far, and the urls that
remain unless the call raises. -/
def registerWith (around : Surroundings) (cose : Option Bytes) :
    CheckpointLine → List String → CheckpointLine × Py (List String)
  | cp, [] => (cp, .ok [])
  | cp, url :: urls =>
      match cose.map (around.register · url) with
      | none | some .failed => (registerWith around cose cp urls).map id (Except.map (url :: ·))
      | some (.raised e) => (cp, .error e)
      | some (.registered witness) =>
        registerWith around cose { cp with witnesses := cp.witnesses ++ [witness] } urls

def retryPendingWitnesses (around : Surroundings) (s : CheckpointState) :
    Py Unit × CheckpointState :=
  match s.lastCheckpoint with
  | none => (.ok (), s)
  | some cp =>
      if s.pendingTsUrls = [] then (.ok (), s)
      else
        let (cp', pending) := registerWith around s.lastCheckpointCose cp s.pendingTsUrls
        let s' := { s with lastCheckpoint := some cp' }
        match pending with
        | .ok urls => (.ok (), { s' with pendingTsUrls := urls })
        | .error e => (.error e, s')

/-! ## Operations -/

def persistCheckpoint (checkpoints : List CheckpointLine) (cp : CheckpointLine)
    (cose : Option Bytes) : List CheckpointLine :=
  checkpoints ++ [{ cp with checkpointCose := cose.map hexText }]

/-- `_checkpoint_now`: witnesses are asked before the line is written, so an exception
there leaves the file and the state as they were. -/
def checkpointNow (T : Toolkit) (around : Surroundings) (node : Node) :
    Py (Option CheckpointLine) × Node :=
  let s := node.state
  match T.emitCheckpoint s.leaves s.lastCheckpoint around.timestamp with
  | .error e => (.error e, node)
  | .ok cp =>
      let cose := T.checkpointToCose cp s.leaves s.lastCheckpoint
      let (cp', pending) := registerWith around cose cp T.tsUrls
      match pending with
      | .error e => (.error e, node)
      | .ok urls =>
        (.ok (some cp'),
         { node with
           checkpoints := persistCheckpoint node.checkpoints cp' cose
           state :=
            { s with
              lastCheckpoint := some cp'
              lastCheckpointCose := cose
              entriesSinceCheckpoint := 0
              pendingSince := none
              pendingTsUrls := urls } })

/-- The beginning of each operation: the state follows the ledger. -/
def followLedger (T : Toolkit) (around : Surroundings) (node : Node) : Py Node := do
  return { node with state := node.state.follow T around (← scan node.ledger.lines) }

/-- An operation on the state that has followed the ledger. -/
def afterFollowing (T : Toolkit) (around : Surroundings) (node : Node)
    (operation : Node → Py (Option CheckpointLine) × Node) : Py (Option CheckpointLine) × Node :=
  match followLedger T around node with
  | .error e => (.error e, node)
  | .ok node => operation node

def retry (around : Surroundings) (node : Node) : Py (Option CheckpointLine) × Node :=
  let (result, s) := retryPendingWitnesses around node.state
  (result.map fun _ => none, { node with state := s })

def recordAppended (T : Toolkit) (around : Surroundings) (node : Node) :
    Py (Option CheckpointLine) × Node :=
  afterFollowing T around node fun node =>
    if T.dueForCheckpoint node.state.entriesSinceCheckpoint none then checkpointNow T around node
    else (.ok none, node)

def tick (T : Toolkit) (around : Surroundings) (node : Node) : Py (Option CheckpointLine) × Node :=
  afterFollowing T around node fun node =>
    let secondsSince := node.state.pendingSince.map (around.clock - ·)
    if T.dueForCheckpoint node.state.entriesSinceCheckpoint secondsSince then
      checkpointNow T around node
    else retry around node

def reconnect (T : Toolkit) (around : Surroundings) (node : Node) :
    Py (Option CheckpointLine) × Node :=
  afterFollowing T around node fun node =>
    if node.state.leaves.length = 0 then (.ok none, node)
    else
      match node.state.lastCheckpoint with
      | none => checkpointNow T around node
      | some cp =>
        match T.leafCount cp.mmrSize with
        | .error e => (.error e, node)
        | .ok lastLeaves =>
          if node.state.leaves.length ≤ lastLeaves then retry around node
          else checkpointNow T around node

def checkpointOnShutdown (T : Toolkit) (around : Surroundings) (node : Node) :
    Py (Option CheckpointLine) × Node :=
  reconnect T around node

/-! ## Runs -/

inductive Event where
  /-- The ledger's writer has written a whole line. -/
  | append (capsuleId : String)
  /-- The ledger's writer has written a part of a line. -/
  | tear
  | recordAppended
  | tick
  | reconnect
  | shutdown
  | reload
deriving DecidableEq

def step (T : Toolkit) (node : Node) (event : Event × Surroundings) : Node :=
  match event.1 with
  | .append capsuleId => { node with ledger := ⟨node.ledger.records ++ [capsuleId], false⟩ }
  | .tear => { node with ledger := { node.ledger with torn := true } }
  | .recordAppended => (recordAppended T event.2 node).2
  | .tick => (tick T event.2 node).2
  | .reconnect => (reconnect T event.2 node).2
  | .shutdown => (checkpointOnShutdown T event.2 node).2
  | .reload =>
      match load T event.2 node.ledger node.checkpoints with
      | .ok s => { node with state := s }
      | .error _ => node

end CapsuleMesh.Checkpoint
