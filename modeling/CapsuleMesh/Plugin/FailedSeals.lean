import Mathlib.Algebra.Ring.Int.Defs
import CapsuleMesh.Library.Numbering
import CapsuleMesh.Plugin.PairKeys
import CapsuleMesh.Sidecar.Threads

/-!
# Seals that fail after their number was taken

The sidecar and both paths of the plugin take the number of a record before they seal it, and none
of them gives it back.  A request of the sidecar is followed through the steps of its thread, from
any state of the server.
-/

namespace CapsuleMesh

open Python Sequence Library

/-- The number of a record as the verifier reads it. -/
def numberOf (capsule : Json) : Option (Int × Option Int) :=
  match extractPairSeq capsule with
  | .ok (some ⟨_, _, seq, .issued prevSeq⟩) => some (seq, prevSeq)
  | _ => none

namespace Sidecar.Deployment

open Sidecar

variable (d : Deployment)

/-- The steps of one request, with the outcome of each fallible one. -/
def handle (s : Sys) (x : ℕ × List Bool) : Sys := x.2.foldl (fun s ok => d.step s (x.1, ok)) s

/-- A new request with a JSON object as its body, whose number was saved. -/
def TakesNumber (s : Sys) (x : ℕ × List Bool) : Prop :=
  s.phase x.1 = .ready ∧ x.2.head? = some true ∧
    ∃ members, (d.requests x.1).requestJson = .obj members

/-- The pair a request is counted under. -/
def pairOf (t : ℕ) : String := pairKey d.cfg.nodeId (some (counterpartyId d.cfg (d.requests t)))

def sealing : Sealing Sys (ℕ × List Bool) String Int Json where
  step := d.handle
  last s key := s.counters.lookup key
  log := Sys.ledger
  key _ x := d.pairOf x.1
  failed s x := d.TakesNumber s x ∧ ∃ number, (d.handle s x).phase x.1 = .failed number
  sealed s x := d.TakesNumber s x ∧ ((d.handle s x).phase x.1).recorded.isSome
  number := numberOf

/-- Where thread `t` stands after some of its steps, if it started in `s₀`. -/
structure Handled (s₀ : Sys) (t : ℕ) (s : Sys) : Prop where
  counters : s.counters = (takeNumber d.cfg (d.requests t) s₀.counters).2
  notReady : s.phase t ≠ .ready
  held : ∀ {number}, s.phase t = .sequenced number ∨
      (∃ prior, s.phase t = .headRead number prior) ∨
      (∃ prior capsule, s.phase t = .built number prior capsule) →
    number = (takeNumber d.cfg (d.requests t) s₀.counters).1
  built : ∀ {number prior capsule}, s.phase t = .built number prior capsule →
    d.SealedBy t number prior capsule
  ledger : (s.phase t).recorded = none → s.ledger = s₀.ledger
  recorded : (s.phase t).recorded ≠ none → ∃ capsule prior,
    s.ledger = s₀.ledger ++ [capsule] ∧
      d.SealedBy t (takeNumber d.cfg (d.requests t) s₀.counters).1 prior capsule

variable {d}

theorem Handled.step {s₀ s : Sys} {t : ℕ} (h : d.Handled s₀ t s) (ok : Bool) :
    d.Handled s₀ t (d.step s (t, ok)) := by
  have hstep := d.step_spec s t ok
  generalize d.step s (t, ok) = s' at hstep
  cases hstep with
  | idle => exact h
  | take hphase => exact absurd hphase h.notReady
  | @readHead _ number hphase =>
      refine ⟨h.counters, by simp, ?_, by simp, ?_, by simp [Phase.recorded]⟩
      · intro number' hheld
        have hnumber : number = number' := by simpa using hheld
        exact hnumber ▸ h.held (.inl hphase)
      · exact fun _ => h.ledger (by rw [hphase]; rfl)
  | @build _ number prior capsule hphase hemit =>
      refine ⟨h.counters, by simp, ?_, ?_, ?_, by simp [Phase.recorded]⟩
      · intro number' hheld
        have hnumber : number = number' := by simpa using hheld
        exact hnumber ▸ h.held (.inr (.inl ⟨prior, hphase⟩))
      · intro number' prior' capsule' hbuilt
        obtain ⟨rfl, rfl, rfl⟩ := Phase.built.inj ((Function.update_self ..).symm.trans hbuilt)
        exact ⟨_, hemit⟩
      · exact fun _ => h.ledger (by rw [hphase]; rfl)
  | fail hphase =>
      refine ⟨h.counters, by simp, by simp, by simp, ?_, by simp [Phase.recorded]⟩
      intro _
      apply h.ledger
      rcases hphase with hphase | ⟨_, hphase, -⟩
      · rw [hphase]
        rfl
      · rw [hphase]
        rfl
  | append hphase =>
      refine ⟨h.counters, by simp, by simp, by simp, by simp [Phase.recorded], ?_⟩
      intro _
      refine ⟨_, _, ?_, h.held (.inr (.inr ⟨_, _, hphase⟩)) ▸ h.built hphase⟩
      exact congrArg (· ++ [_]) (h.ledger (by rw [hphase]; rfl))
  | publish hphase =>
      refine ⟨h.counters, by simp, by simp, by simp, by simp [Phase.recorded], ?_⟩
      exact fun _ => h.recorded (by rw [hphase]; simp [Phase.recorded])
  | strand hphase =>
      refine ⟨h.counters, by simp, by simp, by simp, by simp [Phase.recorded], ?_⟩
      exact fun _ => h.recorded (by rw [hphase]; simp [Phase.recorded])

theorem handled_handle {s : Sys} {x : ℕ × List Bool} (h : d.TakesNumber s x) :
    d.Handled s x.1 (d.handle s x) := by
  obtain ⟨t, oks⟩ := x
  obtain ⟨hready, hsaved, -⟩ := h
  cases oks with
  | nil => cases hsaved
  | cons ok oks =>
      obtain rfl := Option.some.inj hsaved
      have hfirst : d.Handled s t (d.step s (t, true)) := by
        have hstep : d.step s (t, true) =
            { s.setPhase t (.sequenced (takeNumber d.cfg (d.requests t) s.counters).1) with
              counters := (takeNumber d.cfg (d.requests t) s.counters).2 } := by
          simp only [step, hready, if_true]
        rw [hstep]
        exact ⟨rfl, by simp, by simp, by simp, fun _ => rfl, by simp [Phase.recorded]⟩
      apply run_invariant (d.Handled s t) _ hfirst oks
      exact fun s' ok hs => hs.step ok

theorem numberOf_sealed {t : ℕ} {number : Int × Option Int} {prior : Option String} {capsule : Json}
    (h : d.SealedBy t number prior capsule) : numberOf capsule = some number := by
  obtain ⟨head, h⟩ := h
  rw [numberOf, extractPairSeq_sealed d.contract h]

theorem lookup_takeNumber (t : ℕ) (counters : SequenceCounterStore) :
    (fun key => (takeNumber d.cfg (d.requests t) counters).2.lookup key) =
      bump (d.pairOf t) fun key => counters.lookup key := by
  funext key
  by_cases hkey : key = d.pairOf t
  · subst hkey
    rw [bump_same]
    exact nextSeq_lookup_same ..
  · rw [bump_ne _ hkey]
    exact nextSeq_lookup_ne _ hkey

theorem usesUp_sealing (d : Deployment) : d.sealing.UsesUp where
  failed {s x} h := by
    obtain ⟨htakes, number, hphase⟩ := h
    have hhandled := handled_handle htakes
    constructor
    · have hcounters : (d.handle s x).counters = _ := hhandled.counters
      simp only [sealing, hcounters]
      exact lookup_takeNumber x.1 s.counters
    · exact hhandled.ledger (by rw [hphase]; rfl)
  sealed {s x} h := by
    obtain ⟨htakes, hrecorded⟩ := h
    obtain ⟨capsule, prior, hledger, hsealed⟩ :=
      (handled_handle htakes).recorded (Option.isSome_iff_ne_none.mp hrecorded)
    exact ⟨capsule, hledger, numberOf_sealed hsealed⟩

end Sidecar.Deployment

namespace Plugin

/-! ## The two paths of the plugin -/

def lastNumbers (s : CapsuleState) (key : String × String) : Option Int :=
  (s.sequenceCounters.lookup key).map Int.ofNat

/-- The exchange failed at a step after the number was taken. -/
def FailedLate (result : Except EmitError Json) : Prop :=
  result = .error .sealing ∨ result = .error .append

def admittedSealing (crate : Crate) :
    Sealing CapsuleState (Moment × ExchangeRecord) (String × String) Int Json where
  step s x := (emitForExchange crate x.1 s x.2).2
  last := lastNumbers
  log := CapsuleState.ledger
  key s x := (s.nodeId, x.2.counterparty)
  failed s x := FailedLate (emitForExchange crate x.1 s x.2).1
  sealed s x := ∃ capsule, (emitForExchange crate x.1 s x.2).1 = .ok capsule
  number := numberOf

def observedSealing (crate : Crate) :
    Sealing CapsuleState (Moment × Bool × ObservedHostExchange) (String × String) Int Json where
  step s x := (emitForObservedHostExchange crate x.1 x.2.1 s x.2.2).2
  last := lastNumbers
  log := CapsuleState.ledger
  key s _ := (s.nodeId, "unknown")
  failed s x := FailedLate (emitForObservedHostExchange crate x.1 x.2.1 s x.2.2).1
  sealed s x := ∃ capsule, (emitForObservedHostExchange crate x.1 x.2.1 s x.2.2).1 = .ok capsule
  number := numberOf

theorem lastNumbers_nextSeq {s s' : CapsuleState} {party : String}
    (h : s'.sequenceCounters = (s.sequenceCounters.nextSeq s.nodeId party).2) :
    lastNumbers s' = bump (s.nodeId, party) (lastNumbers s) := by
  have hlast : lastNumbers s (s.nodeId, party) =
      (s.sequenceCounters.lookup (s.nodeId, party)).map Int.ofNat := rfl
  funext key
  rw [lastNumbers, h, CounterStore.nextSeq]
  by_cases hkey : key = (s.nodeId, party)
  · subst hkey
    rw [bump_same, hlast, AList.lookup_insert]
    cases s.sequenceCounters.lookup (s.nodeId, party) <;> simp
  · rw [bump_ne _ hkey, AList.lookup_insert_ne hkey, lastNumbers]

theorem sealNumbered_failedLate {crate : Crate} {moment : Moment} {s : CapsuleState}
    {party : String} {input : ℕ × Option ℕ → CapsuleInput}
    (h : FailedLate (sealNumbered crate moment s party input).1) :
    (sealNumbered crate moment s party input).2 =
      { s with sequenceCounters := (s.sequenceCounters.nextSeq s.nodeId party).2 } := by
  unfold FailedLate sealNumbered at h
  unfold sealNumbered
  dsimp only at h ⊢
  cases hsaves : moment.counterSaves with
  | false => simp [hsaves] at h
  | true =>
      cases hsealed : crate.sealCapsule (input (s.sequenceCounters.nextSeq s.nodeId party).1) with
      | none => simp
      | some capsule =>
        cases happends : moment.appends with
        | false => simp
        | true => simp [hsaves, hsealed, happends] at h

theorem Recorded.number {s s' : CapsuleState} {e : Named} (h : Recorded s s' e) :
    ∃ capsule, s'.ledger = s.ledger ++ [capsule] ∧ numberOf capsule =
      some ((lastNumbers s (s.nodeId, e.requestingParty)).getD 0 + 1,
        lastNumbers s (s.nodeId, e.requestingParty)) := by
  obtain ⟨-, -, capsule, hledger, hextract⟩ := h
  refine ⟨capsule, hledger, ?_⟩
  rw [numberOf, hextract]
  simp only [Named.record, CounterStore.nextSeq, lastNumbers]
  cases s.sequenceCounters.lookup (s.nodeId, e.requestingParty) <;> simp

theorem usesUp_admitted {crate : Crate} (hseal : SealContract crate.sealCapsule) :
    (admittedSealing crate).UsesUp where
  failed {s x} h := by
    have hcounted : (emitForExchange crate x.1 s x.2).2 = { s with sequenceCounters :=
        (s.sequenceCounters.nextSeq s.nodeId x.2.counterparty).2 } := by
      change FailedLate (emitForExchange crate x.1 s x.2).1 at h
      unfold emitForExchange at h ⊢
      split at h
      · exact sealNumbered_failedLate h
      · simp [FailedLate] at h
    simp only [admittedSealing, hcounted]
    exact ⟨lastNumbers_nextSeq rfl, trivial⟩
  sealed h := by
    obtain ⟨capsule, hcapsule⟩ := h
    exact (emitForExchange_recorded hseal hcapsule).number

theorem learn_eq (s : CapsuleState) (saves : Bool) (observed : ObservedHostExchange) :
    ∃ learned, s.learn saves observed = { s with learnedSelfNodeId := learned } := by
  unfold CapsuleState.learn
  split_ifs
  · cases observed.hostProvenance.servedByNodeId with
    | none => exact ⟨s.learnedSelfNodeId, rfl⟩
    | some servedBy => exact ⟨_, rfl⟩
  · exact ⟨s.learnedSelfNodeId, rfl⟩

theorem usesUp_observed {crate : Crate} (hseal : SealContract crate.sealCapsule) :
    (observedSealing crate).UsesUp where
  failed {s x} h := by
    obtain ⟨learned, hlearn⟩ := learn_eq s x.2.1 x.2.2
    have hcounted : (emitForObservedHostExchange crate x.1 x.2.1 s x.2.2).2 =
        { s with
          learnedSelfNodeId := learned
          sequenceCounters := (s.sequenceCounters.nextSeq s.nodeId "unknown").2 } := by
      change FailedLate (emitForObservedHostExchange crate x.1 x.2.1 s x.2.2).1 at h
      unfold emitForObservedHostExchange sealObserved at h ⊢
      rw [hlearn] at h ⊢
      dsimp only at h ⊢
      split at h
      · exact sealNumbered_failedLate h
      · simp [FailedLate] at h
    simp only [observedSealing, hcounted]
    exact ⟨lastNumbers_nextSeq rfl, trivial⟩
  sealed {s x} h := by
    obtain ⟨capsule, hcapsule⟩ := h
    obtain ⟨learned, hlearn⟩ := learn_eq s x.2.1 x.2.2
    change (sealObserved crate x.1 (s.learn x.2.1 x.2.2) x.2.2 _).1 = .ok capsule at hcapsule
    have hrecorded := (sealObserved_recorded hseal hcapsule).number
    simp only [observedSealing, emitForObservedHostExchange]
    rw [hlearn] at hrecorded ⊢
    exact hrecorded

/-! ## No path gives its number back -/

/-- In every state, a seal that fails after its number was taken leaves the counters changed, and
the next record of the pair shows a gap. -/
theorem failed_seals_lose_numbers (d : Sidecar.Deployment) {crate : Crate}
    (hseal : SealContract crate.sealCapsule) :
    d.sealing.LosesNumbers ∧ (admittedSealing crate).LosesNumbers ∧
      (observedSealing crate).LosesNumbers :=
  ⟨d.usesUp_sealing.losesNumbers, (usesUp_admitted hseal).losesNumbers,
    (usesUp_observed hseal).losesNumbers⟩

/-- A full disk at the append. -/
def fullDisk : Moment := { plainMoment "1" with appends := false }

def freshState : CapsuleState := (Process.start "capsule-emit-mesh" none).state

theorem failed_seals_lose_numbers_fullDisk :
    lastNumbers (emitForExchange plainCrate fullDisk freshState plainExchange).2 ≠
      lastNumbers freshState :=
  (failed_seals_lose_numbers Sidecar.plainDeployment plainCrate_contract).2.1.changed
    (s := freshState) (e := (fullDisk, plainExchange)) (.inr rfl)

/-- The append of the first record of a pair fails, in the sidecar and on both paths of the plugin:
the pair then counts from 2 on. -/
theorem number_lost_to_full_disk :
    (Sidecar.plainDeployment.sealing.failed Sidecar.plainDeployment.boot
        (0, [true, true, true, false]) ∧
      Sidecar.plainDeployment.boot.counters.lookup "node::unknown" = none ∧
      (Sidecar.plainDeployment.handle Sidecar.plainDeployment.boot
        (0, [true, true, true, false])).counters.lookup "node::unknown" = some 1) ∧
    (emitForExchange plainCrate fullDisk freshState plainExchange).1 = .error .append ∧
    (emitForObservedHostExchange plainCrate fullDisk true freshState (plainObserved none)).1 =
      .error .append ∧
    lastNumbers freshState ("capsule-emit-mesh", "unknown") = none ∧
    lastNumbers (emitForExchange plainCrate fullDisk freshState plainExchange).2
      ("capsule-emit-mesh", "unknown") = some 1 ∧
    lastNumbers (emitForObservedHostExchange plainCrate fullDisk true freshState
      (plainObserved none)).2 ("capsule-emit-mesh", "unknown") = some 1 := by
  refine ⟨⟨⟨⟨rfl, rfl, _, rfl⟩, _, rfl⟩, rfl, ?_⟩, rfl, rfl, rfl, ?_, ?_⟩
  · decide +kernel
  · decide +kernel
  · decide +kernel

end Plugin

end CapsuleMesh
