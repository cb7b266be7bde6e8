import CapsuleMesh.Evidence.AskedFor
import CapsuleMesh.Evidence.References
import CapsuleMesh.Library.Tally

/-!
# The seeded sample

The seed is the root of a largest witnessed checkpoint among those that cover every pulled record, and
the sample is the front of a ranking which depends on the seed and the set of candidates alone.
-/

namespace CapsuleMesh.AskHistory

open Python Evidence Library

section

variable (T : EvidenceTools)

/-! ## The seed -/

/-- Some receipt of the checkpoint verifies. -/
def Witnessed (cp : Receipted) : Prop := ∃ w ∈ cp.2, verifies T cp.1 w = true

/-- The seed is of a largest witnessed checkpoint; there is one as soon as any is witnessed. -/
structure Elected (checkpoints : List Receipted) (best : Option WitnessedSeed) : Prop where
  of_seed : ∀ seed ∈ best, ∃ cp ∈ checkpoints, Witnessed T cp ∧ seed.root = cp.1.root ∧
    seed.mmrSize = cp.1.mmrSize
  of_witnessed : ∀ cp ∈ checkpoints, Witnessed T cp → ∃ seed ∈ best, cp.1.mmrSize ≤ seed.mmrSize

variable {T}

theorem betterSeed_cases (best : Option WitnessedSeed) (cp : Receipted) :
    (betterSeed T best cp = best ∧
        ((∃ seed ∈ best, cp.1.mmrSize ≤ seed.mmrSize) ∨ ¬Witnessed T cp)) ∨
      (∃ seed, betterSeed T best cp = some seed ∧ seed.root = cp.1.root ∧
        seed.mmrSize = cp.1.mmrSize ∧ Witnessed T cp ∧
          ∀ old ∈ best, old.mmrSize ≤ cp.1.mmrSize) := by
  have hany : (best.any fun best => decide (cp.1.mmrSize ≤ best.mmrSize)) = true ↔
      ∃ seed ∈ best, cp.1.mmrSize ≤ seed.mmrSize := by
    cases best <;> simp
  unfold betterSeed
  split
  next hkept => exact .inl ⟨rfl, .inl (hany.mp hkept)⟩
  next hlarger =>
      split
      next w hw =>
          right
          refine ⟨_, rfl, rfl, rfl, ⟨w, List.mem_of_find?_eq_some hw, List.find?_some hw⟩, ?_⟩
          intro old hold
          by_contra hlt
          apply hlarger
          apply hany.mpr
          exact ⟨old, hold, by omega⟩
      next hnone =>
          refine .inl ⟨rfl, .inr ?_⟩
          rintro ⟨w, hw, hverifies⟩
          exact List.find?_eq_none.mp hnone w hw hverifies

theorem Elected.step {checkpoints : List Receipted} {best : Option WitnessedSeed}
    (h : Elected T checkpoints best) (cp : Receipted) :
    Elected T (checkpoints ++ [cp]) (betterSeed T best cp) := by
  rcases betterSeed_cases (T := T) best cp with ⟨hkept, hcp⟩ | ⟨seed, htaken, hroot, hsize, hcp, hle⟩
  · rw [hkept]
    constructor
    · intro seed hseed
      obtain ⟨old, hold, hof⟩ := h.of_seed seed hseed
      exact ⟨old, List.mem_append_left _ hold, hof⟩
    · intro other hother hwitnessed
      rcases List.mem_append.mp hother with hold | hlast
      · exact h.of_witnessed other hold hwitnessed
      · obtain rfl := List.mem_singleton.mp hlast
        rcases hcp with hlarger | hnot
        · exact hlarger
        · exact absurd hwitnessed hnot
  · rw [htaken]
    constructor
    · intro seed' hseed'
      obtain rfl := Option.some.inj hseed'
      exact ⟨cp, List.mem_append_right _ List.mem_cons_self, hcp, hroot, hsize⟩
    · intro other hother hwitnessed
      refine ⟨seed, rfl, ?_⟩
      rw [hsize]
      rcases List.mem_append.mp hother with hold | hlast
      · obtain ⟨old, hbest, hbelow⟩ := h.of_witnessed other hold hwitnessed
        exact hbelow.trans (hle old hbest)
      · obtain rfl := List.mem_singleton.mp hlast
        exact le_rfl

theorem elected_witnessedSeed (checkpoints : List Receipted) :
    Elected T checkpoints (witnessedSeed T checkpoints) := by
  induction checkpoints using List.reverseRecOn with
  | nil =>
      constructor
      · intro seed hseed
        cases hseed
      · intro cp hcp
        cases hcp
  | append_singleton checkpoints cp ih =>
      rw [witnessedSeed, List.foldl_append]
      exact ih.step cp

/-! ## The checkpoints that may seed -/

variable (T)

/-- Every pulled record is among the leaves of the checkpoint. -/
def Covers (records : List ServedRecord) (cp : CheckpointRecord) : Prop :=
  ∃ leaves, T.leafCount cp.mmrSize = some leaves ∧ ∀ r ∈ records, r.leafIndex < leaves

/-- The anchor, or a covering checkpoint of a chain that runs through it. -/
def Eligible (anchor : CarriedCheckpoint) (records : List ServedRecord)
    (chain : List CarriedCheckpoint) (cp : Receipted) : Prop :=
  cp = anchor.receipted ∨
    (∃ line ∈ chain, T.sha256Hex line.statement = anchor.digest) ∧
      ∃ line ∈ chain, cp = line.receipted ∧ Covers T records line.record

variable {T}

theorem covers_iff_of_max {records : List ServedRecord} {last : ℕ}
    (hlast : (records.map ServedRecord.leafIndex).max? = some last) {cp : CheckpointRecord}
    {leaves : ℕ} (hleaves : T.leafCount cp.mmrSize = some leaves) :
    last + 1 ≤ leaves ↔ Covers T records cp := by
  obtain ⟨hmem, hmax⟩ := List.max?_eq_some_iff.mp hlast
  constructor
  · intro hle
    refine ⟨leaves, hleaves, ?_⟩
    intro r hr
    have hbelow := hmax r.leafIndex (List.mem_map_of_mem hr)
    omega
  · rintro ⟨leaves', hleaves', hall⟩
    obtain rfl := Option.some.inj (hleaves.symm.trans hleaves')
    obtain ⟨r, hr, rfl⟩ := List.mem_map.mp hmem
    exact hall r hr

theorem reaches_iff {records : List ServedRecord} {last : ℕ}
    (hlast : (records.map ServedRecord.leafIndex).max? = some last) {line : CarriedCheckpoint}
    {b : Bool} (h : reaches T (last + 1) line = .ok b) :
    b = true ↔ Covers T records line.record := by
  obtain ⟨leaves, hleaves, h⟩ := Py.bind_eq_ok.mp h
  obtain rfl := Except.ok.inj h
  rw [decide_eq_true_eq]
  apply covers_iff_of_max hlast
  unfold leafCountOf at hleaves
  split at hleaves
  next leaves' hcount =>
      obtain rfl := Except.ok.inj hleaves
      exact hcount
  next => cases hleaves

theorem mem_seedCheckpoints_iff {anchor : CarriedCheckpoint} {records : List ServedRecord}
    {chain : List CarriedCheckpoint} {checkpoints : List Receipted}
    (h : seedCheckpoints T anchor records chain = .ok checkpoints) (cp : Receipted) :
    cp ∈ checkpoints ↔ Eligible T anchor records chain cp := by
  unfold seedCheckpoints at h
  split at h
  next hthrough =>
      have hchain : ∃ line ∈ chain, T.sha256Hex line.statement = anchor.digest :=
        List.mem_map.mp hthrough
      split at h
      next => cases h
      next last hlast =>
          obtain ⟨covering, hcovering, h⟩ := Py.bind_eq_ok.mp h
          obtain rfl := Except.ok.inj h
          obtain ⟨htold, rfl⟩ := filterM_eq_ok.mp hcovering
          have hkept : ∀ line ∈ chain, marked (reaches T (last + 1)) line = true ↔
              Covers T records line.record := by
            intro line hline
            obtain ⟨b, hb⟩ := htold line hline
            rw [marked_of_eq_ok hb]
            exact reaches_iff hlast hb
          rw [List.mem_cons, Eligible, and_iff_right hchain, List.mem_map]
          apply or_congr_right
          constructor
          · rintro ⟨line, hline, rfl⟩
            obtain ⟨hmem, hcovers⟩ := List.mem_filter.mp hline
            exact ⟨line, hmem, rfl, (hkept line hmem).mp hcovers⟩
          · rintro ⟨line, hmem, rfl, hcovers⟩
            exact ⟨line, List.mem_filter.mpr ⟨hmem, (hkept line hmem).mpr hcovers⟩, rfl⟩
  next hnot =>
      obtain rfl := Except.ok.inj h
      rw [List.mem_singleton, Eligible, or_iff_left]
      rintro ⟨hchain, -⟩
      exact hnot (List.mem_map.mpr hchain)

/-! ## The anchor covers what it proves -/

theorem leafCount_of_stated {statement : Bytes} {envelope : Envelope} {anchor : CarriedCheckpoint}
    (h : stated T statement envelope = .ok (some anchor)) :
    T.leafCount anchor.record.mmrSize = some anchor.covered := by
  obtain ⟨found, hfound, h⟩ := Py.bind_eq_ok.mp h
  obtain ⟨served, rfl, hkey⟩ := Option.bind_eq_some_iff.mp (Except.ok.inj h)
  split at hkey
  next =>
      obtain rfl := Option.some.inj hkey
      unfold servedCheckpoint at hfound
      split at hfound
      next => cases hfound
      next decoded _ =>
          split at hfound
          next covered coveredBefore hcovered _ =>
              obtain ⟨peaks, -, hfound⟩ := Py.bind_eq_ok.mp hfound
              obtain ⟨prevPeaks, -, hfound⟩ := Py.bind_eq_ok.mp hfound
              obtain rfl := Option.some.inj (Except.ok.inj hfound)
              exact hcovered
          next => cases hfound
  next => cases hkey

theorem lt_covered_of_proves {proof : Bytes} {leaf : ℕ} {digest : String}
    {anchor : ServedCheckpoint} (h : proves T.proof proof leaf digest anchor = .ok true) :
    leaf < anchor.covered := by
  by_contra hout
  rw [proves, if_pos (.inr (by omega))] at h
  cases h

theorem FoundAs.covers {reply : Reply} {envelope : Envelope} {anchor : CarriedCheckpoint}
    {records : List ServedRecord} (h : FoundAs T reply envelope anchor records) :
    Covers T records anchor.record := by
  obtain ⟨statement, hstated⟩ := h.stated
  refine ⟨anchor.covered, leafCount_of_stated hstated, ?_⟩
  intro r hr
  cases h with
  | record _ hfound =>
      obtain rfl := List.mem_singleton.mp hr
      obtain ⟨proof, hproves⟩ := hfound.proven
      exact lt_covered_of_proves hproves
  | set _ hfound =>
      obtain ⟨_, _, -, -, htaken⟩ := hfound.entries
      obtain ⟨entry, -, htake⟩ := exists_of_mem_right htaken hr
      exact htake.covered

theorem Eligible.covers {anchor : CarriedCheckpoint} {records : List ServedRecord}
    {chain : List CarriedCheckpoint} {cp : Receipted} (h : Eligible T anchor records chain cp)
    (hanchor : Covers T records anchor.record) : Covers T records cp.1 := by
  rcases h with rfl | ⟨-, line, -, rfl, hcovers⟩
  · exact hanchor
  · exact hcovers

/-! ## The sample -/

variable (T)

/-- The sample is as large as it can be, of distinct candidates, a function of their set, and the front
of every larger one. -/
structure SampleLaws (candidates : List String) (seed : String) (k : Int) : Prop where
  length : ((sampleReferenceCandidates T candidates seed k).length : Int) =
    min k candidates.toFinset.card
  nodup : (sampleReferenceCandidates T candidates seed k).Nodup
  subset : ∀ c ∈ sampleReferenceCandidates T candidates seed k, c ∈ candidates
  congr : ∀ others : List String, (∀ c, c ∈ others ↔ c ∈ candidates) →
    sampleReferenceCandidates T others seed k = sampleReferenceCandidates T candidates seed k
  front : ∀ k', k ≤ k' →
    sampleReferenceCandidates T candidates seed k <+: sampleReferenceCandidates T candidates seed k'

theorem sliceTo_of_nonneg {α : Type} (as : List α) {k : Int} (h : 0 ≤ k) :
    sliceTo as k = as.take k.toNat := by
  rw [sliceTo, if_pos h]

theorem sampleLaws_iff (candidates : List String) (seed : String) (k : Int) :
    SampleLaws T candidates seed k ↔ 0 ≤ k := by
  constructor
  · intro h
    have hlength := h.length
    omega
  · intro hk
    have hsample : ∀ others, sampleReferenceCandidates T others seed k =
        (ranking (fun c => T.sha256Hex (utf8 (seed ++ ":" ++ c))) others).take k.toNat := by
      intro others
      exact sliceTo_of_nonneg _ hk
    constructor
    · rw [hsample, List.length_take, length_ranking]
      omega
    · rw [hsample]
      exact (nodup_ranking _ _).sublist (List.take_sublist _ _)
    · intro c hc
      rw [hsample] at hc
      exact (mem_ranking _).mp (List.mem_of_mem_take hc)
    · intro others hsame
      rw [hsample, hsample, ranking_congr _ hsame]
    · intro k' hk'
      rw [hsample, sampleReferenceCandidates, sliceTo_of_nonneg _ (hk.trans hk')]
      exact List.take_prefix_take_left (by omega)

/-- The references asked are a sample seeded by a witnessed checkpoint that covers every record, or none
where there is no such checkpoint. -/
structure FairlySampled (x : String) (anchor : CarriedCheckpoint) (records : List ServedRecord)
    (chain : List CarriedCheckpoint) (k : Int) (sampled : List String) (selection : Selection) :
    Prop where
  seeded : ∀ seed ∈ selection.seed,
    (∃ cp, Eligible T anchor records chain cp ∧ Covers T records cp.1 ∧ Witnessed T cp ∧
      seed.root = cp.1.root ∧ seed.mmrSize = cp.1.mmrSize ∧
        ∀ other, Eligible T anchor records chain other → Witnessed T other →
          other.1.mmrSize ≤ cp.1.mmrSize) ∧
      sampled = sampleReferenceCandidates T (discoverCounterparties records x) seed.root k
  unseeded : selection.seed = none ↔ ∀ cp, Eligible T anchor records chain cp → ¬Witnessed T cp
  nothing_unseeded : selection.seed = none → sampled = []
  laws : ∀ candidates seed, SampleLaws T candidates seed k

variable {T}

theorem selectReferences_eq_ok {x : String} {anchor : CarriedCheckpoint} {records : List ServedRecord}
    {chain : List CarriedCheckpoint} {k : Int} {sampled : List String} {selection : Selection}
    (h : selectReferences T x anchor records chain k = .ok (sampled, selection)) :
    ∃ checkpoints, seedCheckpoints T anchor records chain = .ok checkpoints ∧
      selection.seed = witnessedSeed T checkpoints ∧
      (selection.seed = none → sampled = []) ∧
      ∀ seed ∈ selection.seed,
        sampled = sampleReferenceCandidates T (discoverCounterparties records x) seed.root k := by
  obtain ⟨checkpoints, hcheckpoints, h⟩ := Py.bind_eq_ok.mp h
  obtain ⟨digest, -, h⟩ := Py.bind_eq_ok.mp h
  refine ⟨checkpoints, hcheckpoints, ?_⟩
  cases hseed : witnessedSeed T checkpoints with
  | none =>
      rw [hseed] at h
      obtain ⟨rfl, rfl⟩ := Prod.mk.inj (Except.ok.inj h)
      refine ⟨rfl, fun _ => rfl, ?_⟩
      intro seed hnone
      cases hnone
  | some seed =>
      rw [hseed] at h
      obtain ⟨rfl, rfl⟩ := Prod.mk.inj (Except.ok.inj h)
      refine ⟨rfl, ?_, ?_⟩
      · intro hnone
        cases hnone
      · intro other hother
        obtain rfl := Option.some.inj hother
        rfl

/-- The references are fairly sampled just when their number is not negative. -/
theorem fairlySampled_iff {x : String} {xReply : Reply} {served : Served}
    (hserved : servedRecords T xReply = .ok served) (hproblems : served.problems = [])
    {anchor : CarriedCheckpoint} (hanchor : served.anchor = some anchor)
    {chain : List CarriedCheckpoint} {k : Int} {sampled : List String} {selection : Selection}
    (hselect : selectReferences T x anchor served.records chain k = .ok (sampled, selection)) :
    FairlySampled T x anchor served.records chain k sampled selection ↔ 0 ≤ k := by
  constructor
  · intro h
    exact (sampleLaws_iff T [] "" k).mp (h.laws [] "")
  · intro hk
    obtain ⟨envelope, bare, -, rfl, hfound⟩ := servedRecords_eq_ok hserved hproblems hanchor
    obtain ⟨checkpoints, hcheckpoints, hseed, hnothing, hsampled⟩ := selectReferences_eq_ok hselect
    have helected := elected_witnessedSeed (T := T) checkpoints
    have hmem := mem_seedCheckpoints_iff hcheckpoints
    refine ⟨?_, ?_, hnothing, fun candidates seed => (sampleLaws_iff T candidates seed k).mpr hk⟩
    · intro seed hsome
      refine ⟨?_, hsampled seed hsome⟩
      rw [hseed] at hsome
      obtain ⟨cp, hcp, hwitnessed, hroot, hsize⟩ := helected.of_seed seed hsome
      have heligible := (hmem cp).mp hcp
      refine ⟨cp, heligible, heligible.covers hfound.covers, hwitnessed, hroot, hsize, ?_⟩
      intro other hother hotherWitnessed
      obtain ⟨latest, hlatest, hle⟩ :=
        helected.of_witnessed other ((hmem other).mpr hother) hotherWitnessed
      obtain rfl := Option.some.inj (Option.mem_def.mp hsome ▸ Option.mem_def.mp hlatest)
      rwa [hsize] at hle
    · rw [hseed]
      constructor
      · intro hnone cp hcp hwitnessed
        obtain ⟨seed, hsome, -⟩ := helected.of_witnessed cp ((hmem cp).mpr hcp) hwitnessed
        rw [hnone] at hsome
        cases hsome
      · intro hnone
        cases hsome : witnessedSeed T checkpoints with
        | none => rfl
        | some seed =>
          obtain ⟨cp, hcp, hwitnessed, -⟩ := helected.of_seed seed hsome
          exact absurd hwitnessed (hnone cp ((hmem cp).mp hcp))

end

/-! ## Two candidates -/

/-- A record that names two counterparties. -/
def naming : List (String × Json) := [("counterparty_ref", .str "r"), ("requesting_party", .str "s")]

def witnessedAnchor : CarriedCheckpoint := { oneAnchor with witnesses := [oneReceipt] }

theorem select_naming (k : Int) :
    ∃ selection, selectReferences sealTools "x" witnessedAnchor [oneRecord naming] [] k =
      .ok (sampleReferenceCandidates sealTools (discoverCounterparties [oneRecord naming] "x") "root" k,
        selection) :=
  ⟨_, rfl⟩

theorem discover_naming : discoverCounterparties [oneRecord naming] "x" = ["r", "s"] := by decide

/-- One below zero drops the last of the ranked candidates. -/
theorem negative_sample_drops_last :
    ∃ selection, servedRecords sealTools (oneReply (.range 0 0) naming) =
        .ok ⟨[oneRecord naming], some witnessedAnchor, []⟩ ∧
      selectReferences sealTools "x" witnessedAnchor [oneRecord naming] [] (-1) =
        .ok (["r"], selection) ∧
      ¬FairlySampled sealTools "x" witnessedAnchor [oneRecord naming] [] (-1) ["r"] selection := by
  obtain ⟨selection, hselect⟩ := select_naming (-1)
  have hsample : sampleReferenceCandidates sealTools ["r", "s"] "root" (-1) = ["r"] := by decide +kernel
  rw [discover_naming, hsample] at hselect
  refine ⟨selection, servedRecords_oneReply .first (by simp [naming]), hselect, ?_⟩
  intro h
  exact absurd (h.laws ["r", "s"] "root").length (by decide)

theorem one_sampled_fairly :
    ∃ selection, selectReferences sealTools "x" witnessedAnchor [oneRecord naming] [] 1 =
        .ok (["r"], selection) ∧
      FairlySampled sealTools "x" witnessedAnchor [oneRecord naming] [] 1 ["r"] selection := by
  have hserved := servedRecords_oneReply .first (show (Json.obj naming).Proper id by simp [naming])
  obtain ⟨selection, hselect⟩ := select_naming 1
  have hsample : sampleReferenceCandidates sealTools ["r", "s"] "root" 1 = ["r"] := by decide +kernel
  rw [discover_naming, hsample] at hselect
  exact ⟨selection, hselect, (fairlySampled_iff hserved rfl rfl hselect).mpr (by decide)⟩

end CapsuleMesh.AskHistory
