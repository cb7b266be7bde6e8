import Mathlib.Logic.Function.Basic
import CapsuleMesh.Library.Runs
import CapsuleMesh.Sidecar.BuildCapsule

/-!
# Request-handler threads of one sidecar

`ThreadingHTTPServer` runs one thread for each request over a single `NodeState`.
A thread takes its number under the counter's lock, reads `last_capsule_id`,
builds its capsule, appends it and only then publishes it as the new head; no
lock spans these steps.  A schedule names, step by step, the thread that moves
and whether the fallible part of its step succeeds.
-/

namespace CapsuleMesh.Sidecar

open Python Sequence Library

/-- How far a request has come. -/
inductive Phase where
  | ready
  | sequenced (number : Int × Option Int)
  | headRead (number : Int × Option Int) (prior : Option String)
  | built (number : Int × Option Int) (prior : Option String) (capsule : Json)
  | appended (number : Int × Option Int) (capsule : Json)
  | finished (number : Int × Option Int)
  | failed (number : Int × Option Int)
  | stranded (number : Int × Option Int) (capsule : Json)

/-- One sidecar process: its dependencies, the records it seals at startup (owner
identity, join card) and the requests its threads handle. -/
structure Deployment where
  emit : Emit
  contract : EmitContract emit
  digests : Digests
  cfg : NodeConfig
  requests : ℕ → BuildArgs
  uuid_injective : Function.Injective fun t => (requests t).uuid
  startupArgs : List EmitArgs
  startup : List Json
  startup_sealed : List.Forall₂ (fun args capsule => emit args = .ok capsule) startupArgs startup
  startup_poc : ∀ args ∈ startupArgs, ∃ members,
    args.computeAttestation = .obj members ∧ members.lookup "x-mesh-poc-v1" = none
  startup_nodup : (startupArgs.map EmitArgs.actionId).Nodup
  startup_serving : ∀ args ∈ startupArgs, ∀ t, args.actionId ≠ servingActionId cfg (requests t).uuid

/-- The state the threads share, and where each of them stands. -/
structure Sys where
  ledger : List Json
  lastCapsuleId : Option String
  counters : SequenceCounterStore
  phase : ℕ → Phase

def Sys.setPhase (s : Sys) (t : ℕ) (p : Phase) : Sys :=
  { s with phase := Function.update s.phase t p }

@[simp] theorem Sys.setPhase_ledger (s : Sys) (t : ℕ) (p : Phase) :
    (s.setPhase t p).ledger = s.ledger := rfl

@[simp] theorem Sys.setPhase_lastCapsuleId (s : Sys) (t : ℕ) (p : Phase) :
    (s.setPhase t p).lastCapsuleId = s.lastCapsuleId := rfl

@[simp] theorem Sys.setPhase_counters (s : Sys) (t : ℕ) (p : Phase) :
    (s.setPhase t p).counters = s.counters := rfl

@[simp] theorem Sys.setPhase_phase (s : Sys) (t : ℕ) (p : Phase) :
    (s.setPhase t p).phase = Function.update s.phase t p := rfl

namespace Deployment

/-- The state in which the server starts to accept requests. -/
def boot (d : Deployment) : Sys :=
  ⟨d.startup, d.startup.getLast?.bind capsuleIdOf, ∅, fun _ => .ready⟩

/-- One step of thread `i.1`.  `next_seq` may fail to save its file after it
counted; signing, verifying and appending may fail before the append; the signed
statement's file may fail to be written between the append and the new head. -/
def step (d : Deployment) (s : Sys) (i : ℕ × Bool) : Sys :=
  match s.phase i.1 with
  | .ready =>
      let (number, counters) := takeNumber d.cfg (d.requests i.1) s.counters
      { s.setPhase i.1 (if i.2 then .sequenced number else .failed number) with
        counters := counters }
  | .sequenced number => s.setPhase i.1 (.headRead number s.lastCapsuleId)
  | .headRead number prior =>
      match emitServing d.emit d.digests d.cfg (d.requests i.1) number prior s.lastCapsuleId with
      | .ok capsule => s.setPhase i.1 (.built number prior capsule)
      | .error _ => s.setPhase i.1 (.failed number)
  | .built number _ capsule =>
      if i.2 then
        { s.setPhase i.1 (.appended number capsule) with ledger := s.ledger ++ [capsule] }
      else s.setPhase i.1 (.failed number)
  | .appended number capsule =>
      if i.2 then
        { s.setPhase i.1 (.finished number) with lastCapsuleId := capsuleIdOf capsule }
      else s.setPhase i.1 (.stranded number capsule)
  | .finished _ => s
  | .failed _ => s
  | .stranded _ _ => s

/-- The state after a schedule. -/
def run (d : Deployment) (schedule : List (ℕ × Bool)) : Sys := schedule.foldl d.step d.boot

/-- Everything a step of thread `t` can do. -/
inductive Step (d : Deployment) (s : Sys) (t : ℕ) : Bool → Sys → Prop
  | idle {ok : Bool} : Step d s t ok s
  | take {ok : Bool} (hphase : s.phase t = .ready) :
      Step d s t ok
        { s.setPhase t
            (if ok then .sequenced (takeNumber d.cfg (d.requests t) s.counters).1
              else .failed (takeNumber d.cfg (d.requests t) s.counters).1) with
          counters := (takeNumber d.cfg (d.requests t) s.counters).2 }
  | readHead {ok : Bool} {number : Int × Option Int} (hphase : s.phase t = .sequenced number) :
      Step d s t ok (s.setPhase t (.headRead number s.lastCapsuleId))
  | build {ok : Bool} {number : Int × Option Int} {prior : Option String} {capsule : Json}
      (hphase : s.phase t = .headRead number prior)
      (hemit : emitServing d.emit d.digests d.cfg (d.requests t) number prior s.lastCapsuleId =
        .ok capsule) :
      Step d s t ok (s.setPhase t (.built number prior capsule))
  | fail {ok : Bool} {number : Int × Option Int} {prior : Option String}
      (hphase : s.phase t = .headRead number prior ∨
        ∃ capsule, s.phase t = .built number prior capsule ∧ ok = false) :
      Step d s t ok (s.setPhase t (.failed number))
  | append {number : Int × Option Int} {prior : Option String} {capsule : Json}
      (hphase : s.phase t = .built number prior capsule) :
      Step d s t true
        { s.setPhase t (.appended number capsule) with ledger := s.ledger ++ [capsule] }
  | publish {number : Int × Option Int} {capsule : Json}
      (hphase : s.phase t = .appended number capsule) :
      Step d s t true
        { s.setPhase t (.finished number) with lastCapsuleId := capsuleIdOf capsule }
  | strand {number : Int × Option Int} {capsule : Json}
      (hphase : s.phase t = .appended number capsule) :
      Step d s t false (s.setPhase t (.stranded number capsule))

theorem step_spec (d : Deployment) (s : Sys) (t : ℕ) (ok : Bool) :
    Step d s t ok (d.step s (t, ok)) := by
  cases hphase : s.phase t with
  | ready =>
      simp only [step, hphase]
      exact .take hphase
  | sequenced number =>
      simp only [step, hphase]
      exact .readHead hphase
  | headRead number prior =>
      cases hemit : emitServing d.emit d.digests d.cfg (d.requests t) number prior
          s.lastCapsuleId with
      | ok capsule =>
        simp only [step, hphase, hemit]
        exact .build hphase hemit
      | error e =>
        simp only [step, hphase, hemit]
        exact .fail (.inl hphase)
  | built number prior capsule =>
      cases ok with
      | true =>
        simp only [step, hphase]
        exact .append hphase
      | false =>
        simp only [step, hphase]
        exact .fail (.inr ⟨capsule, hphase, rfl⟩)
  | appended number capsule =>
      cases ok with
      | true =>
        simp only [step, hphase]
        exact .publish hphase
      | false =>
        simp only [step, hphase]
        exact .strand hphase
  | finished number =>
      simp only [step, hphase]
      exact .idle
  | failed number =>
      simp only [step, hphase]
      exact .idle
  | stranded number capsule =>
      simp only [step, hphase]
      exact .idle

end Deployment

/-- The number of a request whose record is on the ledger. -/
def Phase.recorded : Phase → Option (Int × Option Int)
  | .appended number _ => some number
  | .finished number => some number
  | .stranded number _ => some number
  | _ => none

/-- The capsule of a request that appended it and has not made it the head. -/
def Phase.unpublished : Phase → Option Json
  | .appended _ capsule => some capsule
  | .stranded _ capsule => some capsule
  | _ => none

/-- The head a request read and still relies on. -/
def Phase.head : Phase → Option (Option String)
  | .headRead _ prior => some prior
  | .built _ prior _ => some prior
  | _ => none

namespace Deployment

/-- `capsule` is what thread `t` built with this number on this parent. -/
def SealedBy (d : Deployment) (t : ℕ) (number : Int × Option Int) (prior : Option String)
    (capsule : Json) : Prop :=
  ∃ head, emitServing d.emit d.digests d.cfg (d.requests t) number prior head = .ok capsule

theorem SealedBy.parent {d : Deployment} {t : ℕ} {number : Int × Option Int}
    {prior : Option String} {capsule : Json} (h : d.SealedBy t number prior capsule) :
    parentOf capsule = prior := by
  obtain ⟨head, h⟩ := h
  obtain ⟨ea, hea, -, hprior, -, -⟩ := emitServing_ok h
  rw [d.contract.parent hea, hprior]

theorem SealedBy.capsuleId {d : Deployment} {t : ℕ} {number : Int × Option Int}
    {prior : Option String} {capsule : Json} (h : d.SealedBy t number prior capsule) :
    ∃ id, capsuleIdOf capsule = some id := by
  obtain ⟨head, h⟩ := h
  obtain ⟨ea, hea, -, -, -, -⟩ := emitServing_ok h
  obtain ⟨id, hid, -⟩ := d.contract.capsuleId hea
  exact ⟨id, hid⟩

/-- Capsules of different threads have different ids. -/
theorem SealedBy.thread_eq {d : Deployment} {t u : ℕ} {number number' : Int × Option Int}
    {prior prior' : Option String} {capsule capsule' : Json}
    (h : d.SealedBy t number prior capsule) (h' : d.SealedBy u number' prior' capsule')
    (hid : capsuleIdOf capsule = capsuleIdOf capsule') : t = u := by
  obtain ⟨head, h⟩ := h
  obtain ⟨head', h'⟩ := h'
  obtain ⟨ea, hea, hact, -, -, -⟩ := emitServing_ok h
  obtain ⟨ea', hea', hact', -, -, -⟩ := emitServing_ok h'
  have haction := d.contract.actionId hea hea' hid
  rw [hact, hact'] at haction
  exact d.uuid_injective (by simpa [servingActionId] using haction)

theorem exists_startupArgs (d : Deployment) {capsule : Json} (h : capsule ∈ d.startup) :
    ∃ args ∈ d.startupArgs, d.emit args = .ok capsule := by
  obtain ⟨i, hi, rfl⟩ := List.mem_iff_getElem.mp h
  have hlen := d.startup_sealed.length_eq
  exact ⟨d.startupArgs[i], List.getElem_mem _, d.startup_sealed.get (hlen ▸ hi) hi⟩

theorem SealedBy.not_startup {d : Deployment} {t : ℕ} {number : Int × Option Int}
    {prior : Option String} {capsule capsule' : Json} (h : d.SealedBy t number prior capsule)
    (h' : capsule' ∈ d.startup) : capsuleIdOf capsule ≠ capsuleIdOf capsule' := by
  intro hid
  obtain ⟨head, h⟩ := h
  obtain ⟨ea, hea, hact, -, -, -⟩ := emitServing_ok h
  obtain ⟨args, hargs, hemit⟩ := d.exists_startupArgs h'
  exact d.startup_serving args hargs t (hact ▸ (d.contract.actionId hea hemit hid).symm)

theorem startup_ids_nodup (d : Deployment) : (d.startup.map capsuleIdOf).Nodup := by
  have general : ∀ (args : List EmitArgs) (records : List Json),
      List.Forall₂ (fun args capsule => d.emit args = .ok capsule) args records →
      (args.map EmitArgs.actionId).Nodup → (records.map capsuleIdOf).Nodup := by
    intro args records hsealed
    induction hsealed with
    | nil => simp
    | @cons a c args records hac hrest ih =>
        intro hnodup
        rw [List.map_cons, List.nodup_cons] at hnodup ⊢
        refine ⟨?_, ih hnodup.2⟩
        intro hmem
        obtain ⟨c', hc', hid⟩ := List.mem_map.mp hmem
        obtain ⟨i, hi, rfl⟩ := List.mem_iff_getElem.mp hc'
        have hlen := hrest.length_eq
        have hac' := hrest.get (hlen ▸ hi) hi
        have haction := d.contract.actionId hac hac' hid.symm
        exact hnodup.1 (List.mem_map.mpr ⟨_, List.getElem_mem _, haction.symm⟩)
  exact general _ _ d.startup_sealed d.startup_nodup

/-- What holds in every run: who sealed each capsule that is held or recorded, and
that no two records share an id. -/
structure Wf (d : Deployment) (s : Sys) : Prop where
  built : ∀ {t number prior capsule}, s.phase t = .built number prior capsule →
    d.SealedBy t number prior capsule
  unpublished : ∀ {t capsule}, (s.phase t).unpublished = some capsule →
    ∃ number prior, d.SealedBy t number prior capsule
  ledger : ∃ served, s.ledger = d.startup ++ served ∧
    ∀ capsule ∈ served, ∃ t number prior, (s.phase t).recorded = some number ∧
      d.SealedBy t number prior capsule
  nodup : (s.ledger.map capsuleIdOf).Nodup

theorem wf_boot (d : Deployment) : d.Wf d.boot where
  built h := by simp [boot] at h
  unpublished h := by simp [boot, Phase.unpublished] at h
  ledger := ⟨[], by simp [boot], by simp⟩
  nodup := d.startup_ids_nodup

theorem ledger_step_append {d : Deployment} {s : Sys} {t : ℕ} {number : Int × Option Int}
    {prior : Option String} {capsule : Json} (hphase : s.phase t = .built number prior capsule) :
    (d.step s (t, true)).ledger = s.ledger ++ [capsule] := by
  simp [step, hphase]

theorem ledger_step_of_not_append {d : Deployment} {s : Sys} {t : ℕ} {ok : Bool}
    (h : ¬ ∃ number prior capsule, s.phase t = .built number prior capsule ∧ ok = true) :
    (d.step s (t, ok)).ledger = s.ledger := by
  have hstep := d.step_spec s t ok
  generalize d.step s (t, ok) = s' at hstep
  cases hstep with
  | append hphase => exact absurd ⟨_, _, _, hphase, rfl⟩ h
  | _ => rfl

theorem phase_step_ne {d : Deployment} {s : Sys} {u t : ℕ} (hu : u ≠ t) (ok : Bool) :
    (d.step s (t, ok)).phase u = s.phase u := by
  generalize hs' : d.step s (t, ok) = s'
  have hstep := d.step_spec s t ok
  rw [hs'] at hstep
  cases hstep <;> simp [Function.update_of_ne hu]

/-- A recorded request stays recorded under its number. -/
theorem recorded_step {d : Deployment} {s : Sys} {u : ℕ} {number : Int × Option Int}
    (h : (s.phase u).recorded = some number) (i : ℕ × Bool) :
    ((d.step s i).phase u).recorded = some number := by
  obtain ⟨t, ok⟩ := i
  by_cases hu : u = t
  · subst hu
    generalize hs' : d.step s (u, ok) = s'
    have hstep := d.step_spec s u ok
    rw [hs'] at hstep
    cases hstep with
    | idle => exact h
    | take hphase => simp [hphase, Phase.recorded] at h
    | readHead hphase => simp [hphase, Phase.recorded] at h
    | build hphase _ => simp [hphase, Phase.recorded] at h
    | fail hphase =>
        rcases hphase with hphase | ⟨_, hphase, _⟩ <;> simp [hphase, Phase.recorded] at h
    | append hphase => simp [hphase, Phase.recorded] at h
    | publish hphase => simpa [hphase, Phase.recorded] using h
    | strand hphase => simpa [hphase, Phase.recorded] using h
  · rw [phase_step_ne hu, h]

/-- A built capsule's id is not on the ledger. -/
theorem Wf.fresh {d : Deployment} {s : Sys} (hwf : d.Wf s) {t : ℕ} {number : Int × Option Int}
    {prior : Option String} {capsule : Json} (h : s.phase t = .built number prior capsule) :
    capsuleIdOf capsule ∉ s.ledger.map capsuleIdOf := by
  intro hmem
  obtain ⟨capsule', hmem', hid⟩ := List.mem_map.mp hmem
  obtain ⟨served, hledger, hserved⟩ := hwf.ledger
  rw [hledger] at hmem'
  rcases List.mem_append.mp hmem' with hstart | hmem'
  · exact (hwf.built h).not_startup hstart hid.symm
  · obtain ⟨u, number', prior', hrec, hsealed⟩ := hserved capsule' hmem'
    have htu := (hwf.built h).thread_eq hsealed hid.symm
    subst htu
    simp [h, Phase.recorded] at hrec

theorem Wf.step {d : Deployment} {s : Sys} (hwf : d.Wf s) (i : ℕ × Bool) : d.Wf (d.step s i) := by
  obtain ⟨t, ok⟩ := i
  have hrecorded : ∀ served : List Json,
      (∀ capsule ∈ served, ∃ t number prior, (s.phase t).recorded = some number ∧
        d.SealedBy t number prior capsule) →
      ∀ capsule ∈ served, ∃ u number prior,
        ((d.step s (t, ok)).phase u).recorded = some number ∧
          d.SealedBy u number prior capsule := by
    intro served hserved capsule hmem
    obtain ⟨u, number, prior, hrec, hsealed⟩ := hserved capsule hmem
    exact ⟨u, number, prior, recorded_step hrec _, hsealed⟩
  have hother : ∀ u, u ≠ t → (d.step s (t, ok)).phase u = s.phase u :=
    fun u hu => phase_step_ne hu ok
  have hstep := d.step_spec s t ok
  generalize d.step s (t, ok) = s' at hrecorded hother hstep
  obtain ⟨served, hledger, hserved⟩ := hwf.ledger
  have hserved' := hrecorded served hserved
  -- what thread `t` holds afterwards, and the ledger, in each of its moves
  have key : (∀ number prior capsule, s'.phase t = .built number prior capsule →
        d.SealedBy t number prior capsule) ∧
      (∀ capsule, (s'.phase t).unpublished = some capsule →
        ∃ number prior, d.SealedBy t number prior capsule) ∧
      (∃ served', s'.ledger = d.startup ++ served' ∧
        ∀ capsule ∈ served', ∃ u number prior, (s'.phase u).recorded = some number ∧
          d.SealedBy u number prior capsule) ∧
      (s'.ledger.map capsuleIdOf).Nodup := by
    cases hstep with
    | idle =>
        exact ⟨fun _ _ _ h => hwf.built h, fun _ h => hwf.unpublished h,
          ⟨served, hledger, hserved'⟩, hwf.nodup⟩
    | take hphase =>
        refine ⟨?_, ?_, ⟨served, hledger, hserved'⟩, hwf.nodup⟩
        · intro number prior capsule h
          cases ok <;> simp at h
        · intro capsule h
          cases ok <;> simp [Phase.unpublished] at h
    | readHead hphase =>
        exact ⟨by simp, by simp [Phase.unpublished], ⟨served, hledger, hserved'⟩, hwf.nodup⟩
    | build hphase hemit =>
        refine ⟨?_, by simp [Phase.unpublished], ⟨served, hledger, hserved'⟩, hwf.nodup⟩
        intro number prior capsule h
        simp only [Sys.setPhase_phase, Function.update_self, Phase.built.injEq] at h
        obtain ⟨rfl, rfl, rfl⟩ := h
        exact ⟨_, hemit⟩
    | fail hphase =>
        exact ⟨by simp, by simp [Phase.unpublished], ⟨served, hledger, hserved'⟩, hwf.nodup⟩
    | @append number prior capsule hphase =>
        have hsealed := hwf.built hphase
        refine ⟨by simp, ?_, ⟨served ++ [capsule], by simp [hledger], ?_⟩, ?_⟩
        · intro capsule' h
          simp only [Sys.setPhase_phase, Function.update_self, Phase.unpublished,
            Option.some.injEq] at h
          exact ⟨number, prior, h ▸ hsealed⟩
        · intro capsule' hmem
          rcases List.mem_append.mp hmem with hmem | hmem
          · exact hserved' capsule' hmem
          · rw [List.mem_singleton.mp hmem]
            exact ⟨t, number, prior, by simp [Phase.recorded], hsealed⟩
        · rw [List.map_append, List.map_singleton, ← List.concat_eq_append]
          exact hwf.nodup.concat (hwf.fresh hphase)
    | publish hphase =>
        exact ⟨by simp, by simp [Phase.unpublished], ⟨served, hledger, hserved'⟩, hwf.nodup⟩
    | @strand number capsule hphase =>
        refine ⟨by simp, ?_, ⟨served, hledger, hserved'⟩, hwf.nodup⟩
        intro capsule' h
        simp only [Sys.setPhase_phase, Function.update_self, Phase.unpublished,
          Option.some.injEq] at h
        exact h ▸ hwf.unpublished (by rw [hphase]; rfl)
  obtain ⟨hbuilt, hunpub, hled, hnodup⟩ := key
  refine ⟨?_, ?_, hled, hnodup⟩
  · intro u number prior capsule h
    by_cases hu : u = t
    · subst hu
      exact hbuilt _ _ _ h
    · exact hwf.built (hother u hu ▸ h)
  · intro u capsule h
    by_cases hu : u = t
    · subst hu
      exact hunpub _ h
    · exact hwf.unpublished (hother u hu ▸ h)

theorem wf_run (d : Deployment) (schedule : List (ℕ × Bool)) : d.Wf (d.run schedule) :=
  run_invariant d.Wf (fun _ i h => h.step i) d.wf_boot schedule

end Deployment

/-- A provider on a fresh ledger whose requests draw the identifiers `u`, `uu`, ... -/
def plainDeployment : Deployment where
  emit := plainEmit
  contract := plainEmit_contract
  digests := plainDigests
  cfg := plainConfig "node" .provider
  requests := fun t => plainArgs (String.ofList (List.replicate (t + 1) 'u'))
  uuid_injective := by
    intro t u h
    have := congrArg String.length h
    simpa [plainArgs] using this
  startupArgs := []
  startup := []
  startup_sealed := .nil
  startup_poc := by simp
  startup_nodup := by simp
  startup_serving := by simp

end CapsuleMesh.Sidecar
