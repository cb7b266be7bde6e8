import CapsuleMesh.Checkpoint.Chain
import CapsuleMesh.Library.RememberedTail
import Mathlib.Logic.Function.Basic

/-!
# Two writers of one file of checkpoints

`run_node.sh` starts `checkpoint_daemon.py` beside a sidecar that checkpoints the same directory.
Each process loads a `CheckpointState` of its own; the sidecar's request threads share theirs.  No
lock spans an operation, and nothing reads the file again after the load.  A schedule names, step by
step, the thread that moves.
-/

namespace CapsuleMesh.Checkpoint

open Python Library
open History (CheckpointLine)

/-! ## The steps of an operation -/

inductive Operation where
  | recordAppended
  | tick
  | reconnect
  | shutdown
deriving DecidableEq

/-- What a checkpoint is made from: the last checkpoint in memory, and how many lines the file had
when that was its last line. -/
structure Basis where
  prev : Option CheckpointLine
  asOf : ℕ

/-- A checkpoint that is not in the file yet. -/
structure Draft where
  basis : Basis
  leaves : ℕ
  checkpoint : CheckpointLine
  cose : Option Bytes

/-- Where a thread stands: each phase ends with one access to what the threads share. -/
inductive Phase where
  | idle
  | called (op : Operation)
  | synced (op : Operation) (added : ℕ)
  | counting (op : Operation) (entries : Int)
  | counted (op : Operation)
  | noted (op : Operation)
  | retrying
  | due
  | based (basis : Basis)
  | made (draft : Draft)
  | registered (draft : Draft)
  | written (checkpoint : CheckpointLine) (cose : Option Bytes) (position : ℕ)
  | advanced

/-- The state of a process.  No step reads `asOf`: it says how many lines the file had when
`last_checkpoint` was its last line. -/
structure Running where
  state : CheckpointState
  asOf : ℕ

def Running.basis (r : Running) : Basis := ⟨r.state.lastCheckpoint, r.asOf⟩

/-- The file, the process and the phase of one thread. -/
structure View where
  checkpoints : List CheckpointLine
  running : Running
  phase : Phase

section

variable (T : Toolkit) (around : Surroundings)

/-- Where an operation goes after `_note_pending`. -/
def afterNoting (state : CheckpointState) : Operation → Phase
  | .recordAppended => if T.dueForCheckpoint state.entriesSinceCheckpoint none then .due else .idle
  | .tick =>
      if T.dueForCheckpoint state.entriesSinceCheckpoint
          (state.pendingSince.map (around.clock - ·)) then .due
      else .retrying
  | .reconnect | .shutdown =>
      if state.leaves.length = 0 then .idle
      else
        match state.lastCheckpoint with
        | none => .due
        | some cp =>
          match T.leafCount cp.mmrSize with
          | .error _ => .idle
          | .ok lastLeaves => if state.leaves.length ≤ lastLeaves then .retrying else .due

/-- One step of a thread. -/
def move (ledger : LedgerFile) (v : View) : View :=
  let state := v.running.state
  match v.phase with
  | .idle => v
  | .called op =>
      match scan ledger.lines with
      | .error _ => { v with phase := .idle }
      | .ok records =>
        let (leaves, added) := T.sync state.leaves records
        { v with
          running := { v.running with state := { state with leaves := leaves } }
          phase := .synced op added }
  | .synced op added => { v with phase := .counting op (state.entriesSinceCheckpoint + added) }
  | .counting op entries =>
      { v with
        running := { v.running with state := { state with entriesSinceCheckpoint := entries } }
        phase := .counted op }
  | .counted op =>
      let pendingSince :=
        if 0 < state.entriesSinceCheckpoint ∧ state.pendingSince = none then some around.pendingAt
        else state.pendingSince
      { v with
        running := { v.running with state := { state with pendingSince := pendingSince } }
        phase := .noted op }
  | .noted op => { v with phase := afterNoting T around state op }
  | .retrying =>
      { v with
        running := { v.running with state := (retryPendingWitnesses around state).2 }
        phase := .idle }
  | .due => { v with phase := .based v.running.basis }
  | .based basis =>
      match T.emitCheckpoint state.leaves basis.prev around.timestamp with
      | .error _ => { v with phase := .idle }
      | .ok cp =>
        let cose := T.checkpointToCose cp state.leaves basis.prev
        { v with phase := .made ⟨basis, state.leaves.length, cp, cose⟩ }
  | .made draft =>
      match registerWith around draft.cose draft.checkpoint T.tsUrls with
      | (_, .error _) => { v with phase := .idle }
      | (cp, .ok urls) =>
        { v with
          running := { v.running with state := { state with pendingTsUrls := urls } }
          phase := .registered { draft with checkpoint := cp } }
  | .registered draft =>
      { v with
        checkpoints := persistCheckpoint v.checkpoints draft.checkpoint draft.cose
        phase := .written draft.checkpoint draft.cose (v.checkpoints.length + 1) }
  | .written cp cose position =>
      { v with
        running := ⟨{ state with lastCheckpoint := some cp, lastCheckpointCose := cose }, position⟩
        phase := .advanced }
  | .advanced =>
      { v with
        running :=
          { v.running with
            state := { state with entriesSinceCheckpoint := 0, pendingSince := none } }
        phase := .idle }

end

/-! ## The two processes -/

inductive Writer where
  | sidecar
  | daemon
deriving DecidableEq

/-- A thread of a process. -/
abbrev Thread := Writer × ℕ

inductive Process where
  | down
  /-- The range follows the ledger, and the last checkpoint has not been read. -/
  | loading (leaves : List String)
  | up (running : Running)

/-- The directory and what works on it. -/
structure Site where
  ledger : LedgerFile
  checkpoints : List CheckpointLine
  process : Writer → Process
  phase : Thread → Phase

inductive Step where
  /-- The ledger's writer has written a whole line. -/
  | append (capsuleId : String)
  /-- The ledger's writer has written a part of a line. -/
  | tear
  /-- A process starts, over again where it ran: the first half of `load`. -/
  | boot (w : Writer)
  /-- The second half of `load`. -/
  | read (w : Writer)
  | call (t : Thread) (op : Operation)
  | move (t : Thread)
deriving DecidableEq

/-- The second half of `load`. -/
def loaded (T : Toolkit) (around : Surroundings) (leaves : List String)
    (checkpoints : List CheckpointLine) : Py CheckpointState := do
  let lastCheckpoint := readLastCheckpoint checkpoints
  let entriesSince : Int := leaves.length - (← lastLeafCount T lastCheckpoint)
  return {
    leaves := leaves
    lastCheckpoint := lastCheckpoint
    entriesSinceCheckpoint := entriesSince
    pendingSince := if 0 < entriesSince then some around.pendingAt else none
    lastCheckpointCose := none
    pendingTsUrls := [] }

namespace Site

def setProcess (site : Site) (w : Writer) (p : Process) : Site :=
  { site with process := Function.update site.process w p }

def setPhase (site : Site) (t : Thread) (p : Phase) : Site :=
  { site with phase := Function.update site.phase t p }

/-- The threads of a process end with it. -/
def stopThreads (site : Site) (w : Writer) : Site :=
  { site with phase := fun t => if t.1 = w then .idle else site.phase t }

/-- The site after a step of one thread. -/
def put (site : Site) (t : Thread) (v : View) : Site :=
  { ledger := site.ledger
    checkpoints := v.checkpoints
    process := Function.update site.process t.1 (.up v.running)
    phase := Function.update site.phase t v.phase }

@[simp] theorem setProcess_process (site : Site) (w : Writer) (p : Process) :
    (site.setProcess w p).process = Function.update site.process w p := rfl

@[simp] theorem setPhase_phase (site : Site) (t : Thread) (p : Phase) :
    (site.setPhase t p).phase = Function.update site.phase t p := rfl

@[simp] theorem put_process (site : Site) (t : Thread) (v : View) :
    (site.put t v).process = Function.update site.process t.1 (.up v.running) := rfl

@[simp] theorem put_phase (site : Site) (t : Thread) (v : View) :
    (site.put t v).phase = Function.update site.phase t v.phase := rfl

@[simp] theorem put_checkpoints (site : Site) (t : Thread) (v : View) :
    (site.put t v).checkpoints = v.checkpoints := rfl

def step (T : Toolkit) (site : Site) (event : Step × Surroundings) : Site :=
  match event.1 with
  | .append capsuleId => { site with ledger := ⟨site.ledger.records ++ [capsuleId], false⟩ }
  | .tear => { site with ledger := { site.ledger with torn := true } }
  | .boot w =>
      match scan site.ledger.lines with
      | .error _ => (site.stopThreads w).setProcess w .down
      | .ok records => (site.stopThreads w).setProcess w (.loading (T.sync [] records).1)
  | .read w =>
      match site.process w with
      | .loading leaves =>
        match loaded T event.2 leaves site.checkpoints with
        | .error _ => site.setProcess w .down
        | .ok state => site.setProcess w (.up ⟨state, site.checkpoints.length⟩)
      | _ => site
  | .call t op =>
      match site.process t.1, site.phase t with
      | .up _, .idle => site.setPhase t (.called op)
      | _, _ => site
  | .move t =>
      match site.process t.1 with
      | .up running =>
        site.put t (Checkpoint.move T event.2 site.ledger ⟨site.checkpoints, running, site.phase t⟩)
      | _ => site

end Site

/-! ## One thread alone -/

def perform (T : Toolkit) (around : Surroundings) (node : Node) :
    Operation → Py (Option CheckpointLine) × Node
  | .recordAppended => recordAppended T around node
  | .tick => tick T around node
  | .reconnect => reconnect T around node
  | .shutdown => checkpointOnShutdown T around node

/-- The view is that of a thread that has brought the node to this state. -/
def View.At (v : View) (node : Node) : Prop :=
  v.checkpoints = node.checkpoints ∧ v.running.state = node.state ∧ v.phase = .idle

section

variable (T : Toolkit) (around : Surroundings)

theorem iterate_idle {ledger : LedgerFile} {v : View} (h : v.phase = .idle) (n : ℕ) :
    (move T around ledger)^[n] v = v := by
  apply Function.iterate_fixed
  simp only [move, h]

theorem checkpoint_alone (node : Node) (asOf : ℕ) :
    ((move T around node.ledger)^[6] ⟨node.checkpoints, ⟨node.state, asOf⟩, .due⟩).At
      (checkpointNow T around node).2 := by
  rw [Function.iterate_succ_apply, Function.iterate_succ_apply]
  cases hemit : T.emitCheckpoint node.state.leaves node.state.lastCheckpoint around.timestamp with
  | error e =>
      simp only [move, checkpointNow, Running.basis, hemit]
      rw [iterate_idle _ _ rfl]
      exact ⟨rfl, rfl, rfl⟩
  | ok cp =>
      simp only [move, checkpointNow, Running.basis, hemit]
      rw [Function.iterate_succ_apply]
      rcases hregister : registerWith around
        (T.checkpointToCose cp node.state.leaves node.state.lastCheckpoint) cp T.tsUrls
        with ⟨cp', e | urls⟩
      · simp only [move, hregister]
        rw [iterate_idle _ _ rfl]
        exact ⟨rfl, rfl, rfl⟩
      · simp only [move, hregister]
        exact ⟨rfl, rfl, rfl⟩

theorem retry_alone (node : Node) (asOf : ℕ) :
    ((move T around node.ledger)^[6] ⟨node.checkpoints, ⟨node.state, asOf⟩, .retrying⟩).At
      (retry around node).2 := by
  rw [Function.iterate_succ_apply, iterate_idle _ _ rfl]
  exact ⟨rfl, rfl, rfl⟩

theorem idle_alone (node : Node) (asOf : ℕ) :
    ((move T around node.ledger)^[6] ⟨node.checkpoints, ⟨node.state, asOf⟩, .idle⟩).At node := by
  rw [iterate_idle _ _ rfl]
  exact ⟨rfl, rfl, rfl⟩

theorem load_eq (ledger : LedgerFile) (checkpoints : List CheckpointLine) :
    load T around ledger checkpoints =
      loaded T around (T.sync [] ledger.records).1 checkpoints := by
  rw [load, scan_lines]
  rfl

/-- A thread that nothing interrupts does the operation. -/
theorem operation_alone (node : Node) (asOf : ℕ) (op : Operation) :
    ((move T around node.ledger)^[11] ⟨node.checkpoints, ⟨node.state, asOf⟩, .called op⟩).At
      (perform T around node op).2 := by
  have hnoted : (move T around node.ledger)^[5]
      ⟨node.checkpoints, ⟨node.state, asOf⟩, .called op⟩ =
      ⟨node.checkpoints, ⟨node.state.follow T around node.ledger.records, asOf⟩,
        afterNoting T around (node.state.follow T around node.ledger.records) op⟩ := by
    simp only [Function.iterate_succ_apply, Function.iterate_zero, id, move, scan_lines]
    rfl
  rw [show 11 = 6 + 5 from rfl, Function.iterate_add_apply, hnoted]
  have hfollow : followLedger T around node =
      .ok { node with state := node.state.follow T around node.ledger.records } := by
    rw [followLedger, scan_lines]
    rfl
  generalize hstate : node.state.follow T around node.ledger.records = state at hfollow ⊢
  have hcheckpoint := checkpoint_alone T around { node with state := state } asOf
  have hretry := retry_alone T around { node with state := state } asOf
  have hidle := idle_alone T around { node with state := state } asOf
  have hreconnect : ((move T around node.ledger)^[6]
      ⟨node.checkpoints, ⟨state, asOf⟩, afterNoting T around state .reconnect⟩).At
      (reconnect T around node).2 := by
    simp only [reconnect, afterFollowing, hfollow, afterNoting]
    by_cases hleaves : state.leaves.length = 0
    · simpa only [hleaves, if_true] using hidle
    simp only [hleaves, if_false]
    cases hlast : state.lastCheckpoint with
    | none => exact hcheckpoint
    | some cp =>
        cases hcount : T.leafCount cp.mmrSize with
        | error e => simpa only [hcount] using hidle
        | ok lastLeaves =>
          by_cases hcovered : state.leaves.length ≤ lastLeaves
          · simpa only [hcount, hcovered, if_true] using hretry
          · simpa only [hcount, hcovered, if_false] using hcheckpoint
  cases op with
  | recordAppended =>
      simp only [perform, recordAppended, afterFollowing, hfollow, afterNoting]
      split
      · exact hcheckpoint
      · exact hidle
  | tick =>
      simp only [perform, tick, afterFollowing, hfollow, afterNoting]
      split
      · exact hcheckpoint
      · exact hretry
  | reconnect => exact hreconnect
  | shutdown => exact hreconnect

end

end CapsuleMesh.Checkpoint
