import Mathlib.Data.List.Chain
import CapsuleMesh.Checkpoint.State
import CapsuleMesh.Library.Runs
import CapsuleMesh.Library.MountainRange

/-!
# The chain of checkpoints

The counter of pending entries, the mountain range, the last checkpoint and the last
line of the file are updated by different operations and rebuilt by a restart.  They stay in
step: the counter is what the range has beyond the last line, and a line is only
written when that is something.
-/

namespace CapsuleMesh.Checkpoint

open Python
open History (CheckpointLine Witness)

/-- What the code relies on in the checkpoint library. -/
structure Toolkit.Lawful (T : Toolkit) : Prop where
  sync_prefix : ∀ leaves records, leaves <+: records →
    T.sync leaves records = (records, records.length - leaves.length)
  mmrSize_strictMono : StrictMono T.mmrSize
  leafCount_mmrSize : ∀ n, T.leafCount (T.mmrSize n) = .ok n
  not_due_zero : ∀ seconds, T.dueForCheckpoint 0 seconds = false
  emit_mmrSize : ∀ {leaves prev now cp}, T.emitCheckpoint leaves prev now = .ok cp →
    cp.mmrSize = T.mmrSize leaves.length
  emit_prevSize : ∀ {leaves prev now cp}, T.emitCheckpoint leaves prev now = .ok cp →
    cp.prevSize = (prev.map CheckpointLine.mmrSize).getD 0

@[simp] theorem scan_lines (file : LedgerFile) : scan file.lines = .ok file.records := by
  obtain ⟨records, torn⟩ := file
  induction records with
  | nil => cases torn <;> rfl
  | cons capsuleId records ih =>
      rw [LedgerFile.lines, List.map_cons, List.cons_append, scan]
      rw [LedgerFile.lines] at ih
      simp only [ih, Py.ok_bind]
      rfl

/-- Registering a checkpoint changes its witnesses only. -/
theorem registerWith_sizes (around : Surroundings) (cose : Option Bytes) (cp : CheckpointLine)
    (urls : List String) :
    (registerWith around cose cp urls).1.mmrSize = cp.mmrSize ∧
      (registerWith around cose cp urls).1.prevSize = cp.prevSize := by
  induction urls generalizing cp with
  | nil => exact ⟨rfl, rfl⟩
  | cons url urls ih =>
      rw [registerWith]
      split
      · exact ih cp
      · exact ih cp
      · exact ⟨rfl, rfl⟩
      · exact ih _

/-! ## The invariant -/

/-- One line of `checkpoints.jsonl` after another. -/
def Extends (prev cur : CheckpointLine) : Prop :=
  cur.prevSize = prev.mmrSize ∧ prev.mmrSize < cur.mmrSize

/-- The last checkpoint, in memory and in the file, covers `n` leaves. -/
def Covers (T : Toolkit) (node : Node) (n : ℕ) : Prop :=
  (node.state.lastCheckpoint = none ∧ node.checkpoints = [] ∧ n = 0) ∨
    ∃ cp line, node.state.lastCheckpoint = some cp ∧ node.checkpoints.getLast? = some line ∧
      cp.mmrSize = T.mmrSize n ∧ line.mmrSize = T.mmrSize n

structure Consistent (T : Toolkit) (node : Node) : Prop where
  leaves_prefix : node.state.leaves <+: node.ledger.records
  chain : node.checkpoints.IsChain Extends
  pending : ∃ n, Covers T node n ∧ n ≤ node.state.leaves.length ∧
    node.state.entriesSinceCheckpoint = node.state.leaves.length - n

section

variable {T : Toolkit} (hT : T.Lawful) {around : Surroundings} {node : Node}

include hT

theorem Covers.lastLeafCount_eq {n : ℕ} (h : Covers T node n) :
    lastLeafCount T node.state.lastCheckpoint = .ok n := by
  rcases h with ⟨hlast, -, rfl⟩ | ⟨cp, line, hlast, -, hcp, -⟩
  · rw [hlast]
    rfl
  · rw [hlast, lastLeafCount, hcp, hT.leafCount_mmrSize]

/-- What is due has entries that are pending. -/
theorem Consistent.entries_pos (h : Consistent T node) {seconds : Option ℚ}
    (hdue : T.dueForCheckpoint node.state.entriesSinceCheckpoint seconds = true) :
    0 < node.state.entriesSinceCheckpoint := by
  obtain ⟨n, -, hn, hentries⟩ := h.pending
  have hne : node.state.entriesSinceCheckpoint ≠ 0 := by
    intro hzero
    rw [hzero, hT.not_due_zero] at hdue
    cases hdue
  omega

/-- Following the ledger adds what the range does not have yet to the counter. -/
theorem followLedger_consistent (around : Surroundings) (h : Consistent T node) :
    ∃ node', followLedger T around node = .ok node' ∧ Consistent T node' := by
  obtain ⟨n, hcovers, hn, hentries⟩ := h.pending
  have hlength := h.leaves_prefix.length_le
  refine ⟨{ node with state := node.state.follow T around node.ledger.records }, ?_, ?_⟩
  · rw [followLedger, scan_lines]
    rfl
  · simp only [CheckpointState.follow, hT.sync_prefix _ _ h.leaves_prefix,
      CheckpointState.notePending]
    refine ⟨List.prefix_rfl, h.chain, n, hcovers, hn.trans hlength, ?_⟩
    dsimp only
    omega

theorem afterFollowing_consistent
    {operation : Node → Py (Option CheckpointLine) × Node}
    (hoperation : ∀ node, Consistent T node → Consistent T (operation node).2)
    (h : Consistent T node) : Consistent T (afterFollowing T around node operation).2 := by
  obtain ⟨node', hnode', hconsistent⟩ := followLedger_consistent hT around h
  rw [afterFollowing, hnode']
  exact hoperation node' hconsistent

omit hT in
theorem retry_consistent (h : Consistent T node) : Consistent T (retry around node).2 := by
  obtain ⟨n, hcovers, hn, hentries⟩ := h.pending
  unfold retry retryPendingWitnesses
  cases hlast : node.state.lastCheckpoint with
  | none => exact h
  | some cp =>
      dsimp only
      split
      · exact h
      · -- The sizes of the checkpoint in memory are those of the line in the file.
        obtain ⟨hmmr, -⟩ := registerWith_sizes around node.state.lastCheckpointCose cp
          node.state.pendingTsUrls
        have hcovers' : ∃ line, node.checkpoints.getLast? = some line ∧
            cp.mmrSize = T.mmrSize n ∧ line.mmrSize = T.mmrSize n := by
          rcases hcovers with ⟨hnone, -, -⟩ | ⟨cp', line, hcp', hline, hsizes⟩
          · rw [hlast] at hnone
            cases hnone
          · obtain rfl := Option.some.inj (hlast.symm.trans hcp')
            exact ⟨line, hline, hsizes⟩
        obtain ⟨line, hline, hcp, hlineSize⟩ := hcovers'
        have hcp' := hmmr.trans hcp
        split <;>
          exact ⟨h.leaves_prefix, h.chain, n, .inr ⟨_, line, rfl, hline, hcp', hlineSize⟩, hn,
            hentries⟩

/-- A new line covers all leaves, and with something pending that is more than before. -/
theorem checkpointNow_consistent (h : Consistent T node)
    (hpending : 0 < node.state.entriesSinceCheckpoint) :
    Consistent T (checkpointNow T around node).2 := by
  obtain ⟨n, hcovers, hn, hentries⟩ := h.pending
  unfold checkpointNow
  dsimp only
  split
  · exact h
  · rename_i cp hemit
    split
    · exact h
    · rename_i urls hurls
      obtain ⟨hmmr, hprev⟩ := registerWith_sizes around
        (T.checkpointToCose cp node.state.leaves node.state.lastCheckpoint) cp T.tsUrls
      rw [hT.emit_mmrSize hemit] at hmmr
      rw [hT.emit_prevSize hemit] at hprev
      refine ⟨h.leaves_prefix, ?_, node.state.leaves.length,
        .inr ⟨_, _, rfl, List.getLast?_concat, hmmr, hmmr⟩, le_rfl, ?_⟩
      · refine h.chain.append (List.isChain_singleton _) ?_
        rintro line hline cur ⟨⟩
        rcases hcovers with ⟨-, hnil, -⟩ | ⟨last, line', hlast, hline', hsize, hsize'⟩
        · rw [hnil] at hline
          cases hline
        · obtain rfl := Option.some.inj (hline'.symm.trans hline)
          have hmore : n < node.state.leaves.length := by omega
          constructor
          · rw [hsize', ← hsize]
            simpa [hlast] using hprev
          · rw [hsize']
            exact hmmr ▸ Int.ofNat_lt.mpr (hT.mmrSize_strictMono hmore)
      · exact (Int.sub_self _).symm

theorem recordAppended_consistent (h : Consistent T node) :
    Consistent T (recordAppended T around node).2 := by
  refine afterFollowing_consistent hT (fun node hnode => ?_) h
  split
  · rename_i hdue
    exact checkpointNow_consistent hT hnode (hnode.entries_pos hT hdue)
  · exact hnode

theorem tick_consistent (h : Consistent T node) : Consistent T (tick T around node).2 := by
  refine afterFollowing_consistent hT (fun node hnode => ?_) h
  dsimp only
  split
  · rename_i hdue
    exact checkpointNow_consistent hT hnode (hnode.entries_pos hT hdue)
  · exact retry_consistent hnode

theorem reconnect_consistent (h : Consistent T node) :
    Consistent T (reconnect T around node).2 := by
  refine afterFollowing_consistent hT (fun node hnode => ?_) h
  obtain ⟨n, hcovers, hn, hentries⟩ := hnode.pending
  have hcount := hcovers.lastLeafCount_eq hT
  split
  · exact hnode
  · rename_i hleaves
    split
    · rename_i hlast
      rw [hlast] at hcount
      obtain rfl := Except.ok.inj hcount
      exact checkpointNow_consistent hT hnode (by omega)
    · rename_i cp hlast
      rw [hlast] at hcount
      rw [show T.leafCount cp.mmrSize = .ok n from hcount]
      dsimp only
      split
      · exact retry_consistent hnode
      · exact checkpointNow_consistent hT hnode (by omega)

omit hT in
theorem Covers.reload {n : ℕ} (h : Covers T node n) {s : CheckpointState}
    (hs : s.lastCheckpoint = readLastCheckpoint node.checkpoints) :
    Covers T { node with state := s } n := by
  rcases h with ⟨-, hnil, rfl⟩ | ⟨cp, line, -, hline, -, hsize⟩
  · refine .inl ⟨?_, hnil, rfl⟩
    rw [hs, hnil]
    rfl
  · refine .inr ⟨{ line with checkpointCose := none }, line, ?_, hline, hsize, hsize⟩
    rw [hs, readLastCheckpoint, hline]
    rfl

/-- A restart finds in the two files what the state was. -/
theorem load_consistent (around : Surroundings) (h : Consistent T node) :
    ∃ s, load T around node.ledger node.checkpoints = .ok s ∧
      Consistent T { node with state := s } := by
  obtain ⟨n, hcovers, hn, hentries⟩ := h.pending
  let s : CheckpointState :=
    { leaves := node.ledger.records
      lastCheckpoint := readLastCheckpoint node.checkpoints
      entriesSinceCheckpoint := node.ledger.records.length - n
      pendingSince :=
        if 0 < (node.ledger.records.length - n : Int) then some around.pendingAt else none
      lastCheckpointCose := none
      pendingTsUrls := [] }
  have hreload : Covers T { node with state := s } n := hcovers.reload rfl
  refine ⟨s, ?_, List.prefix_rfl, h.chain, n, hreload, hn.trans h.leaves_prefix.length_le, rfl⟩
  have hcount : lastLeafCount T (readLastCheckpoint node.checkpoints) = .ok n :=
    hreload.lastLeafCount_eq hT
  simp only [load, scan_lines, Py.ok_bind, hT.sync_prefix [] _ List.nil_prefix, hcount]
  rfl

theorem step_consistent (event : Event × Surroundings) (h : Consistent T node) :
    Consistent T (step T node event) := by
  obtain ⟨event, around⟩ := event
  cases event with
  | append capsuleId => exact ⟨h.leaves_prefix.trans (List.prefix_append _ _), h.chain, h.pending⟩
  | tear => exact ⟨h.leaves_prefix, h.chain, h.pending⟩
  | recordAppended => exact recordAppended_consistent hT h
  | tick => exact tick_consistent hT h
  | reconnect => exact reconnect_consistent hT h
  | shutdown => exact reconnect_consistent hT h
  | reload =>
      obtain ⟨s, hs, hconsistent⟩ := load_consistent hT around h
      simp only [step, hs]
      exact hconsistent

end

/-- From the first start over a ledger, whatever happens in whatever order, the counter
is what the range has beyond the last checkpoint, and the lines of the file are a chain. -/
theorem checkpoints_chain {T : Toolkit} (hT : T.Lawful) {around : Surroundings}
    {ledger : LedgerFile} {start : CheckpointState} (hstart : load T around ledger [] = .ok start)
    (events : List (Event × Surroundings)) {node : Node}
    (hnode : node = events.foldl (step T) ⟨ledger, [], start⟩) :
    (∃ n, lastLeafCount T node.state.lastCheckpoint = .ok n ∧
        lastLeafCount T (readLastCheckpoint node.checkpoints) = .ok n ∧
        node.state.entriesSinceCheckpoint = node.state.leaves.length - n) ∧
      node.checkpoints.IsChain Extends := by
  have hfirst : Consistent T ⟨ledger, [], start⟩ := by
    have hempty : Consistent T ⟨ledger, [], ⟨[], none, 0, none, none, []⟩⟩ :=
      ⟨List.nil_prefix, List.IsChain.nil, 0, .inl ⟨rfl, rfl, rfl⟩, le_rfl, rfl⟩
    obtain ⟨s, hs, hconsistent⟩ := load_consistent hT around hempty
    obtain rfl := Except.ok.inj (hstart.symm.trans hs)
    exact hconsistent
  have hrun : Consistent T node := by
    rw [hnode]
    exact Library.run_invariant (Consistent T) (fun _ event h => step_consistent hT event h) hfirst
      events
  obtain ⟨n, hcovers, -, hentries⟩ := hrun.pending
  refine ⟨⟨n, hcovers.lastLeafCount_eq hT, ?_, hentries⟩, hrun.chain⟩
  exact (hcovers.reload (s := { node.state with
    lastCheckpoint := readLastCheckpoint node.checkpoints }) rfl).lastLeafCount_eq hT

/-! ## A run with a restart -/

/-- A checkpoint for each two entries, without witnesses. -/
def pairsToolkit : Toolkit where
  sync leaves records :=
    (leaves ++ records.drop leaves.length, records.length - leaves.length)
  mmrSize := Library.MountainRange.sizeOfLeaves
  leafCount size := .ok (Library.MountainRange.leavesOfSize size.toNat)
  dueForCheckpoint entries _ := decide (2 ≤ entries)
  emitCheckpoint leaves prev now := .ok
    { mmrSize := Library.MountainRange.sizeOfLeaves leaves.length
      root := leaves.getLastD ""
      prevSize := (prev.map CheckpointLine.mmrSize).getD 0
      prevRoot := (prev.map CheckpointLine.root).getD ""
      timestamp := now
      logId := "log"
      keyId := none
      witnesses := []
      checkpointCose := none }
  checkpointToCose _ _ _ := none
  tsUrls := []

theorem pairsToolkit_lawful : pairsToolkit.Lawful where
  sync_prefix leaves records h := by
    obtain ⟨rest, rfl⟩ := h
    simp [pairsToolkit]
  mmrSize_strictMono := Library.MountainRange.sizeOfLeaves_strictMono
  leafCount_mmrSize n := congrArg Except.ok (Library.MountainRange.leavesOfSize_sizeOfLeaves n)
  not_due_zero _ := rfl
  emit_mmrSize h := by
    obtain rfl := Except.ok.inj h
    rfl
  emit_prevSize h := by
    obtain rfl := Except.ok.inj h
    rfl

def quietSurroundings : Surroundings := ⟨0, 0, "t", fun _ _ => .failed⟩

def restartEvents : List (Event × Surroundings) :=
  [.append "a", .recordAppended, .append "b", .tear, .tick, .append "c", .recordAppended, .reload,
    .shutdown, .shutdown].map (·, quietSurroundings)

theorem checkpoints_chain_restart :
    let start : CheckpointState := ⟨[], none, 0, none, none, []⟩
    let node := restartEvents.foldl (step pairsToolkit) ⟨⟨[], false⟩, [], start⟩
    load pairsToolkit quietSurroundings ⟨[], false⟩ [] = .ok start ∧
      node.checkpoints.map (fun line => (line.prevSize, line.mmrSize)) = [(0, 3), (3, 4)] ∧
      node.checkpoints.IsChain Extends := by
  intro start node
  have hstart : load pairsToolkit quietSurroundings ⟨[], false⟩ [] = .ok start := rfl
  exact ⟨hstart, by decide +kernel,
    (checkpoints_chain pairsToolkit_lawful hstart restartEvents rfl).2⟩

end CapsuleMesh.Checkpoint
