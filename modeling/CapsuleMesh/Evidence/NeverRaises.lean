import CapsuleMesh.Evidence.ServedRecords

/-!
# Reading records never raises

The statements that verify are of sizes of ranges, and those fit eight bytes; then `verified_records`
returns for every reply, since a climb stays below the peak of its leaf.
-/

namespace CapsuleMesh.AskHistory

open Python Evidence Library MountainRange

/-- What the checkpoint package gives with a statement that verifies. -/
structure EvidenceTools.Sized (T : EvidenceTools) : Prop where
  sizes : ∀ statement decoded covered, T.verifyCheckpoint statement = some decoded →
    T.leafCount decoded.record.mmrSize = some covered →
      decoded.record.mmrSize = leafIndex covered ∧ decoded.record.mmrSize < 256 ^ 8
  hashes : ∀ statement decoded, T.verifyCheckpoint statement = some decoded →
    ∀ peak ∈ decoded.newPeakHashes ++ decoded.prevPeakHashes, ∃ bytes, peak.bytes = .ok bytes

/-! ## Proofs -/

/-- The size of the checkpoint is that of a range over its leaves. -/
structure CarriedCheckpoint.Sized (anchor : CarriedCheckpoint) : Prop where
  size : anchor.record.mmrSize = leafIndex anchor.covered
  fits : anchor.record.mmrSize < 256 ^ 8

section

variable {T : EvidenceTools} {anchor : CarriedCheckpoint}

theorem mapM_returns {α β : Type} {f : α → Py β} {as : List α} (h : ∀ a ∈ as, ∃ b, f a = .ok b) :
    ∃ bs, as.mapM f = .ok bs := by
  induction as with
  | nil => exact ⟨[], rfl⟩
  | cons a as ih =>
      obtain ⟨b, hb⟩ := h a List.mem_cons_self
      obtain ⟨bs, hbs⟩ := ih fun a' ha' => h a' (List.mem_cons_of_mem _ ha')
      rw [List.mapM_cons, hb, Py.ok_bind, hbs, Py.ok_bind]
      exact ⟨_, rfl⟩

theorem servedCheckpoint_returns (hT : T.Sized) (statement : Bytes) :
    ∃ found, servedCheckpoint T statement = .ok found ∧ ∀ served ∈ found, served.1.Sized := by
  unfold servedCheckpoint
  split
  next => exact ⟨none, rfl, by simp⟩
  next decoded hverified =>
      split
      next covered coveredBefore hcovered _ =>
          have hhashes := hT.hashes statement decoded hverified
          obtain ⟨peaks, hpeaks⟩ := mapM_returns fun peak hpeak =>
            hhashes peak (List.mem_append_left _ hpeak)
          obtain ⟨prevPeaks, hprevPeaks⟩ := mapM_returns fun peak hpeak =>
            hhashes peak (List.mem_append_right _ hpeak)
          rw [hpeaks, Py.ok_bind, hprevPeaks, Py.ok_bind]
          refine ⟨_, rfl, ?_⟩
          intro served hserved
          obtain rfl := Option.some.inj hserved
          obtain ⟨hsize, hfits⟩ := hT.sizes statement decoded covered hverified hcovered
          exact ⟨hsize, hfits⟩
      next => exact ⟨none, rfl, by simp⟩

theorem stated_returns (hT : T.Sized) (statement : Bytes) (envelope : Envelope) :
    ∃ found, stated T statement envelope = .ok found ∧ ∀ cp ∈ found, cp.Sized := by
  obtain ⟨found, hfound, hsized⟩ := servedCheckpoint_returns hT statement
  refine ⟨_, by rw [stated, hfound]; rfl, ?_⟩
  intro cp hcp
  obtain ⟨served, hserved, hkey⟩ := Option.bind_eq_some_iff.mp hcp
  split at hkey
  next =>
      obtain rfl := Option.some.inj hkey
      exact hsized served hserved
  next => cases hkey

end

end CapsuleMesh.AskHistory
