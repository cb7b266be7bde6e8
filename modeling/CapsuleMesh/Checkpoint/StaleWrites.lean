import CapsuleMesh.Checkpoint.TwoWriters

/-!
# Writes from a stale last checkpoint

A line continues the chain of `checkpoints.jsonl` when the process that writes it has the file's
last line as its last checkpoint.  A process that was overtaken by another writer, or by another of
its own threads, does not.
-/

namespace CapsuleMesh.Checkpoint

open Python Library
open History (CheckpointLine)

/-- Writes that continue the chain: nothing was written since the process took its last checkpoint
from the end of the file, and its range has grown since. -/
def Phase.fresh (T : Toolkit) (checkpoints : List CheckpointLine) : Phase → Bool
  | .registered draft =>
      decide (draft.basis.asOf = checkpoints.length) &&
        match lastLeafCount T draft.basis.prev with
        | .ok covered => decide (covered < draft.leaves)
        | .error _ => false
  | _ => true

def Site.Fresh (T : Toolkit) (site : Site) (event : Step × Surroundings) : Prop :=
  match event.1 with
  | .move t => (site.phase t).fresh T site.checkpoints = true
  | _ => True

/-! ## What is remembered -/

section

variable (T : Toolkit) (checkpoints : List CheckpointLine)

def Basis.Kept (basis : Basis) : Prop :=
  Remembers CheckpointLine.mmrSize checkpoints basis.asOf (basis.prev.map CheckpointLine.mmrSize)

structure Draft.Kept (draft : Draft) : Prop where
  basis : draft.basis.Kept checkpoints
  mmrSize : draft.checkpoint.mmrSize = T.mmrSize draft.leaves
  prevSize : draft.checkpoint.prevSize = (draft.basis.prev.map CheckpointLine.mmrSize).getD 0

def Phase.Kept : Phase → Prop
  | .based basis => basis.Kept checkpoints
  | .made draft | .registered draft => draft.Kept T checkpoints
  | .written cp _ position =>
      Remembers CheckpointLine.mmrSize checkpoints position (some cp.mmrSize)
  | _ => True

def Sized : Prop := ∀ line ∈ checkpoints, ∃ n, line.mmrSize = T.mmrSize n

end

section

variable {T : Toolkit} {around : Surroundings} {ledger : LedgerFile}
  {checkpoints : List CheckpointLine}

theorem Phase.Kept.append {phase : Phase} (h : phase.Kept T checkpoints)
    (more : List CheckpointLine) : phase.Kept T (checkpoints ++ more) := by
  cases phase with
  | based basis => exact Remembers.append h more
  | made draft => exact ⟨Remembers.append h.basis more, h.mmrSize, h.prevSize⟩
  | registered draft => exact ⟨Remembers.append h.basis more, h.mmrSize, h.prevSize⟩
  | written cp cose position => exact Remembers.append h more
  | _ => trivial

structure View.Kept (T : Toolkit) (v : View) : Prop where
  running : v.running.basis.Kept v.checkpoints
  phase : v.phase.Kept T v.checkpoints
  sized : Sized T v.checkpoints

/-- A step writes nothing, or the line that the thread has registered. -/
theorem move_checkpoints (T : Toolkit) (around : Surroundings) (ledger : LedgerFile) (v : View) :
    (move T around ledger v).checkpoints = v.checkpoints ∨
      ∃ draft, v.phase = .registered draft ∧
        (move T around ledger v).checkpoints =
          persistCheckpoint v.checkpoints draft.checkpoint draft.cose := by
  obtain ⟨checkpoints, running, phase⟩ := v
  cases phase with
  | registered draft => exact .inr ⟨draft, rfl, rfl⟩
  | called op =>
      left
      simp only [move, scan_lines]
  | based basis =>
      left
      simp only [move]
      split <;> rfl
  | made draft =>
      left
      simp only [move]
      split <;> rfl
  | _ => exact .inl rfl

theorem retryPendingWitnesses_mmrSize (s : CheckpointState) :
    (retryPendingWitnesses around s).2.lastCheckpoint.map CheckpointLine.mmrSize =
      s.lastCheckpoint.map CheckpointLine.mmrSize := by
  unfold retryPendingWitnesses
  cases hlast : s.lastCheckpoint with
  | none => simp only [hlast]
  | some cp =>
      simp only
      have hsize := (registerWith_sizes around s.lastCheckpointCose cp s.pendingTsUrls).1
      split
      · simp only [hlast]
      · split <;> simp only [Option.map_some, hsize]

/-- A step keeps what the process and the thread remember of the file. -/
theorem move_kept (hT : T.Lawful) {v : View} (h : v.Kept T) : (move T around ledger v).Kept T := by
  obtain ⟨checkpoints, ⟨state, asOf⟩, phase⟩ := v
  obtain ⟨hrunning, hphase, hsized⟩ := h
  cases phase with
  | idle => exact ⟨hrunning, hphase, hsized⟩
  | called op =>
      simp only [move, scan_lines]
      exact ⟨hrunning, trivial, hsized⟩
  | synced op added => exact ⟨hrunning, trivial, hsized⟩
  | counting op entries => exact ⟨hrunning, trivial, hsized⟩
  | counted op => exact ⟨hrunning, trivial, hsized⟩
  | noted op =>
      refine ⟨hrunning, ?_, hsized⟩
      simp only [move]
      cases op <;> simp only [afterNoting] <;> repeat' split
      all_goals trivial
  | retrying =>
      refine ⟨?_, trivial, hsized⟩
      simpa only [Basis.Kept, Running.basis, move, retryPendingWitnesses_mmrSize] using hrunning
  | due => exact ⟨hrunning, hrunning, hsized⟩
  | based basis =>
      simp only [move]
      split
      · exact ⟨hrunning, trivial, hsized⟩
      · rename_i cp hemit
        exact ⟨hrunning, ⟨hphase, hT.emit_mmrSize hemit, hT.emit_prevSize hemit⟩, hsized⟩
  | made draft =>
      simp only [move]
      split
      · exact ⟨hrunning, trivial, hsized⟩
      · rename_i cp urls hregister
        obtain ⟨hmmr, hprev⟩ := registerWith_sizes around draft.cose draft.checkpoint T.tsUrls
        rw [hregister] at hmmr hprev
        exact ⟨hrunning, ⟨hphase.basis, hmmr.trans hphase.mmrSize, hprev.trans hphase.prevSize⟩,
          hsized⟩
  | registered draft =>
      refine ⟨Remembers.append hrunning _, ?_, ?_⟩
      · have hend := remembers_end CheckpointLine.mmrSize
          (persistCheckpoint checkpoints draft.checkpoint draft.cose)
        simpa only [Phase.Kept, move, persistCheckpoint, List.length_append, List.length_singleton,
          List.getLast?_concat, Option.map_some] using hend
      · intro line hline
        rcases List.mem_append.mp hline with hline | hline
        · exact hsized line hline
        · obtain rfl := List.mem_singleton.mp hline
          exact ⟨draft.leaves, hphase.mmrSize⟩
  | written cp cose position => exact ⟨hphase, trivial, hsized⟩
  | advanced => exact ⟨hrunning, trivial, hsized⟩

/-! ## Runs -/

structure Site.Kept (T : Toolkit) (site : Site) : Prop where
  running : ∀ w r, site.process w = .up r → r.basis.Kept site.checkpoints
  phase : ∀ t, (site.phase t).Kept T site.checkpoints
  sized : Sized T site.checkpoints

/-- The line that a thread adds to the file in one step, where it adds one. -/
theorem move_extends (T : Toolkit) (around : Surroundings) (ledger : LedgerFile) (v : View) :
    ∃ more, (move T around ledger v).checkpoints = v.checkpoints ++ more := by
  rcases move_checkpoints T around ledger v with heq | ⟨draft, -, heq⟩
  · exact ⟨[], by rw [heq, List.append_nil]⟩
  · exact ⟨_, heq⟩

theorem Site.Kept.setProcess {site : Site} (h : site.Kept T) {w : Writer} {p : Process}
    (hp : ∀ r, p = .up r → r.basis.Kept site.checkpoints) : (site.setProcess w p).Kept T where
  running w' r hr := by
    by_cases hw : w' = w
    · subst hw
      rw [Site.setProcess_process, Function.update_self] at hr
      exact hp r hr
    · rw [Site.setProcess_process, Function.update_of_ne hw] at hr
      exact h.running w' r hr
  phase := h.phase
  sized := h.sized

theorem Site.Kept.stopThreads {site : Site} (h : site.Kept T) (w : Writer) :
    (site.stopThreads w).Kept T where
  running := h.running
  phase t := by
    by_cases ht : t.1 = w
    · simp only [Site.stopThreads, ht, if_true]
      trivial
    · simp only [Site.stopThreads, ht, if_false]
      exact h.phase t
  sized := h.sized

theorem Site.Kept.put {site : Site} (h : site.Kept T) {t : Thread} {v : View} (hv : v.Kept T)
    (hmore : ∃ more, v.checkpoints = site.checkpoints ++ more) : (site.put t v).Kept T := by
  obtain ⟨more, hmore⟩ := hmore
  constructor
  · intro w r hr
    by_cases hw : w = t.1
    · subst hw
      rw [Site.put_process, Function.update_self] at hr
      obtain rfl := Process.up.inj hr
      exact hv.running
    · rw [Site.put_process, Function.update_of_ne hw] at hr
      rw [Site.put_checkpoints, hmore]
      exact Remembers.append (h.running w r hr) more
  · intro t'
    by_cases ht : t' = t
    · subst ht
      rw [Site.put_phase, Function.update_self]
      exact hv.phase
    · rw [Site.put_phase, Function.update_of_ne ht, Site.put_checkpoints, hmore]
      exact (h.phase t').append more
  · exact hv.sized

theorem loaded_basis {leaves : List String} {state : CheckpointState}
    (h : loaded T around leaves checkpoints = .ok state) :
    (Running.basis ⟨state, checkpoints.length⟩).Kept checkpoints := by
  obtain ⟨covered, -, h⟩ := Py.bind_eq_ok.mp h
  obtain rfl := Except.ok.inj h
  have hend := remembers_end CheckpointLine.mmrSize checkpoints
  have hlast : (readLastCheckpoint checkpoints).map CheckpointLine.mmrSize =
      checkpoints.getLast?.map CheckpointLine.mmrSize := by
    rw [readLastCheckpoint, Option.map_map]
    rfl
  rw [← hlast] at hend
  exact hend

theorem Site.step_kept (hT : T.Lawful) {site : Site} (h : site.Kept T)
    (event : Step × Surroundings) : (site.step T event).Kept T := by
  obtain ⟨event, around⟩ := event
  cases event with
  | append capsuleId => exact ⟨h.running, h.phase, h.sized⟩
  | tear => exact ⟨h.running, h.phase, h.sized⟩
  | boot w =>
      simp only [Site.step, scan_lines]
      exact (h.stopThreads w).setProcess fun r hr => by cases hr
  | read w =>
      simp only [Site.step]
      split
      · split
        · exact h.setProcess fun r hr => by cases hr
        · rename_i state hstate
          apply h.setProcess
          rintro r ⟨⟩
          exact loaded_basis hstate
      · exact h
  | call t op =>
      simp only [Site.step]
      split
      · refine ⟨h.running, fun t' => ?_, h.sized⟩
        by_cases ht : t' = t
        · subst ht
          rw [Site.setPhase_phase, Function.update_self]
          trivial
        · rw [Site.setPhase_phase, Function.update_of_ne ht]
          exact h.phase t'
      · exact h
  | move t =>
      simp only [Site.step]
      split
      · rename_i running hrunning
        exact h.put (move_kept hT ⟨h.running t.1 running hrunning, h.phase t, h.sized⟩)
          (move_extends T around site.ledger _)
      · exact h

/-- The line of a fresh write continues the chain. -/
theorem Draft.Kept.isChain_concat (hT : T.Lawful) {draft : Draft} (h : draft.Kept T checkpoints)
    (hsized : Sized T checkpoints) (hchain : checkpoints.IsChain Extends)
    (hfresh : (Phase.registered draft).fresh T checkpoints = true) :
    (persistCheckpoint checkpoints draft.checkpoint draft.cose).IsChain Extends := by
  rw [Phase.fresh, Bool.and_eq_true, decide_eq_true_eq] at hfresh
  obtain ⟨hasOf, hgrown⟩ := hfresh
  have hbasis := h.basis
  rw [Basis.Kept, hasOf] at hbasis
  apply hbasis.isChain_concat hchain
  intro last hlast
  have hlink : draft.checkpoint.prevSize = last.mmrSize := by
    rw [h.prevSize, hlast]
    rfl
  refine ⟨hlink, ?_⟩
  obtain ⟨prev, hprev, hsize⟩ := Option.map_eq_some_iff.mp hlast
  obtain ⟨line, hline, hlineSize⟩ := (hlast ▸ hbasis).mem
  obtain ⟨n, hn⟩ := hsized line hline
  rw [hlineSize] at hn
  have hcovered : lastLeafCount T draft.basis.prev = .ok n := by
    rw [hprev, lastLeafCount, hsize, hn, hT.leafCount_mmrSize]
  rw [hcovered] at hgrown
  have hmore : n < draft.leaves := by simpa using hgrown
  rw [hn]
  exact h.mmrSize ▸ Int.ofNat_lt.mpr (hT.mmrSize_strictMono hmore)

theorem Site.step_chain (hT : T.Lawful) {site : Site} (h : site.Kept T)
    {event : Step × Surroundings} (hfresh : site.Fresh T event)
    (hchain : site.checkpoints.IsChain Extends) :
    (site.step T event).checkpoints.IsChain Extends := by
  obtain ⟨event, around⟩ := event
  cases event with
  | append capsuleId => exact hchain
  | tear => exact hchain
  | boot w =>
      simp only [Site.step, scan_lines]
      exact hchain
  | read w =>
      simp only [Site.step]
      split
      · split <;> exact hchain
      · exact hchain
  | call t op =>
      simp only [Site.step]
      split <;> exact hchain
  | move t =>
      simp only [Site.step]
      split
      · rename_i running hrunning
        rcases move_checkpoints T around site.ledger ⟨site.checkpoints, running, site.phase t⟩ with
          heq | ⟨draft, hphase, heq⟩
        · rw [Site.put_checkpoints, heq]
          exact hchain
        · have hkept : (site.phase t).Kept T site.checkpoints := h.phase t
          have hfresh : (site.phase t).fresh T site.checkpoints = true := hfresh
          rw [show site.phase t = .registered draft from hphase] at hkept hfresh
          rw [Site.put_checkpoints, heq]
          exact hkept.isChain_concat hT h.sized hchain hfresh
      · exact hchain

/-- A directory before any process runs over it. -/
structure Site.AtRest (T : Toolkit) (site : Site) : Prop where
  process : ∀ w, site.process w = .down
  phase : ∀ t, site.phase t = .idle
  sized : Sized T site.checkpoints
  chain : site.checkpoints.IsChain Extends

theorem Site.AtRest.kept {site : Site} (h : site.AtRest T) : site.Kept T where
  running w r hr := by
    rw [h.process w] at hr
    cases hr
  phase t := by
    rw [h.phase t]
    trivial
  sized := h.sized

end

/-- In every interleaving of the two processes and their threads in which each write is fresh, the
file is a chain. -/
theorem chain_of_fresh_writes {T : Toolkit} (hT : T.Lawful) {site : Site} (hstart : site.AtRest T)
    (events : List (Step × Surroundings))
    (hfresh : Along (Site.step T) (Site.Fresh T) site events) :
    (events.foldl (Site.step T) site).checkpoints.IsChain Extends := by
  have hkept := hstart.kept
  have hchain := hstart.chain
  clear hstart
  induction events generalizing site with
  | nil => exact hchain
  | cons event events ih =>
      exact ih hfresh.2 (Site.step_kept hT hkept event)
        (Site.step_chain hT hkept hfresh.1 hchain)

/-! ## Two runs -/

instance decidableFresh (T : Toolkit) (site : Site) : ∀ event, Decidable (site.Fresh T event)
  | (.move t, _) => inferInstanceAs (Decidable ((site.phase t).fresh T site.checkpoints = true))
  | (.append _, _) | (.tear, _) | (.boot _, _) | (.read _, _) | (.call _ _, _) => .isTrue trivial

def emptyDirectory : Site := ⟨⟨[], false⟩, [], fun _ => .down, fun _ => .idle⟩

theorem emptyDirectory_atRest (T : Toolkit) : emptyDirectory.AtRest T where
  process _ := rfl
  phase _ := rfl
  sized := by simp [Sized, emptyDirectory]
  chain := .nil

def whole (t : Thread) (op : Operation) : List Step := .call t op :: List.replicate 11 (.move t)

def starts (w : Writer) : List Step := [.boot w, .read w]

/-- The sidecar starts after the daemon has written, and goes on from what it finds. -/
def inTurn : List (Step × Surroundings) :=
  ([Step.append "a", .append "b"] ++ starts .daemon ++ whole (.daemon, 0) .reconnect ++
    starts .sidecar ++ [Step.append "c", .append "d"] ++ whole (.sidecar, 7) .recordAppended).map
      (·, quietSurroundings)

theorem chain_of_fresh_writes_inTurn :
    let site := inTurn.foldl (Site.step pairsToolkit) emptyDirectory
    site.checkpoints.map (fun line => (line.prevSize, line.mmrSize)) = [(0, 3), (3, 7)] ∧
      site.checkpoints.IsChain Extends := by
  intro site
  refine ⟨by decide +kernel, ?_⟩
  apply chain_of_fresh_writes pairsToolkit_lawful (emptyDirectory_atRest _)
  decide +kernel

/-- Both run, and each writes when two entries are pending by its own count. -/
def sideBySide : List (Step × Surroundings) :=
  (starts .sidecar ++ starts .daemon ++ whole (.daemon, 0) .reconnect ++
    [Step.append "a"] ++ whole (.sidecar, 1) .recordAppended ++
    [Step.append "b"] ++ whole (.daemon, 0) .tick ++ whole (.sidecar, 2) .recordAppended).map
      (·, quietSurroundings)

theorem sidecar_behind_daemon :
    let site := sideBySide.foldl (Site.step pairsToolkit) emptyDirectory
    site.checkpoints.map (fun line => (line.prevSize, line.mmrSize)) = [(0, 3), (0, 3)] ∧
      ¬ site.checkpoints.IsChain Extends := by
  intro site
  have hsizes : site.checkpoints.map (fun line => (line.prevSize, line.mmrSize)) =
      [(0, 3), (0, 3)] := by decide +kernel
  refine ⟨hsizes, fun hchain => ?_⟩
  have hpairs := List.isChain_map_of_isChain (S := fun a b : Int × Int => a.2 < b.2)
    (fun line : CheckpointLine => (line.prevSize, line.mmrSize)) (fun _ _ hext => hext.2) hchain
  rw [hsizes] at hpairs
  exact absurd hpairs (by decide)

end CapsuleMesh.Checkpoint
