import CapsuleMesh.Account.AccountCapsule
import CapsuleMesh.Account.ServedFold

/-!
# Conservation in the served summary

Each served record counts towards the weights digests of its model.  It counts as served only
when its status is a completed or a failed one, so the served count of a model may fall short of
the number of its served records.
-/

namespace CapsuleMesh.Account

open Python Pane Library

variable {D : Doubles} {sourceLog : SourceLog}

/-! ## The counts of a model -/

/-- A count of a model; there is nothing of a model that is not in the summary. -/
def countOf {F : Type} (count : ServedModelStats F → ℕ) (byModel : List (Key × ServedModelStats F))
    (m : Key) : ℕ :=
  (byModel.lookup m).elim 0 count

theorem elim_bucketOf? {F : Type} {onBucket : Bucket F → ℕ} (hempty : onBucket {} = 0)
    (facts : List (ServedFacts F)) :
    (bucketOf? facts).elim 0 onBucket = onBucket (bucketOf facts) := by
  cases facts with
  | nil => exact hempty.symm
  | cons f facts => rfl

theorem countOf_eq {byModel : List (Key × ServedModelStats D.F)} {facts : List (ServedFacts D.F)}
    {m : Key}
    (hfold : Option.Rel (fun bucket stats => statsOf D bucket = .ok stats)
      (bucketOf? (factsOf m facts)) (byModel.lookup m))
    {count : ServedModelStats D.F → ℕ} {onBucket : Bucket D.F → ℕ}
    (hcount : ∀ bucket stats, statsOf D bucket = .ok stats → count stats = onBucket bucket)
    (hempty : onBucket {} = 0) :
    countOf count byModel m = onBucket (bucketOf (factsOf m facts)) := by
  rw [← elim_bucketOf? hempty, countOf]
  generalize bucketOf? (factsOf m facts) = cell at hfold ⊢
  generalize byModel.lookup m = published at hfold ⊢
  cases hfold with
  | some hstats => exact hcount _ _ hstats
  | none => rfl

/-! ## What is conserved -/

/-- The served count of each model is the number of its served records, and the number of those
with a weights digest and without one. -/
def Conserves (sourceLog : SourceLog) (covered : List Json)
    (byModel : List (Key × ServedModelStats D.F)) : Prop :=
  ∀ m, countOf ServedModelStats.nServed byModel m = covered.countP (servedFor sourceLog m) ∧
    countOf ServedModelStats.nServed byModel m =
      countOf ServedModelStats.weightsDigestPresent byModel m +
        countOf ServedModelStats.weightsDigestAbsent byModel m

/-- The weights counts of a model lose no record. -/
theorem countOf_weights {capsules : List Json} {byModel : List (Key × ServedModelStats D.F)}
    (h : foldServed D capsules sourceLog = .ok byModel) (m : Key) :
    countOf ServedModelStats.weightsDigestPresent byModel m +
        countOf ServedModelStats.weightsDigestAbsent byModel m =
      capsules.countP (servedFor sourceLog m) := by
  obtain ⟨facts, hfacts, hfold⟩ := foldServed_eq_ok h
  have hpresent : countOf ServedModelStats.weightsDigestPresent byModel m =
      (bucketOf (factsOf m facts)).weightsPresent := by
    apply countOf_eq (hfold m) _ rfl
    intro bucket stats hstats
    exact (statsOf_eq_ok hstats).2.2.2.2.1
  have habsent : countOf ServedModelStats.weightsDigestAbsent byModel m =
      (bucketOf (factsOf m facts)).weightsAbsent := by
    apply countOf_eq (hfold m) _ rfl
    intro bucket stats hstats
    exact (statsOf_eq_ok hstats).2.2.2.2.2
  rw [hpresent, habsent, weights_bucketOf, length_factsOf hfacts]

theorem countOf_nServed {capsules : List Json} {byModel : List (Key × ServedModelStats D.F)}
    (h : foldServed D capsules sourceLog = .ok byModel) (m : Key) :
    countOf ServedModelStats.nServed byModel m =
      capsules.countP fun c => decide (recordStatus c ≠ .unknown) && servedFor sourceLog m c := by
  obtain ⟨facts, hfacts, hfold⟩ := foldServed_eq_ok h
  have hserved : countOf ServedModelStats.nServed byModel m =
      (bucketOf (factsOf m facts)).nCompleted + (bucketOf (factsOf m facts)).nFailed := by
    let total (bucket : Bucket D.F) : ℕ := bucket.nCompleted + bucket.nFailed
    have htotal : ∀ bucket stats, statsOf D bucket = .ok stats → stats.nServed = total bucket := by
      intro bucket stats hstats
      exact (statsOf_eq_ok hstats).1
    exact countOf_eq (hfold m) htotal rfl
  rw [hserved, nServed_bucketOf]
  apply countP_factsOf hfacts m
  intro c f hf
  rw [(readServed_eq_ok hf).2.1]

/-- The served count of one model is right when no record of it has an unknown status. -/
theorem countOf_nServed_eq_iff {capsules : List Json}
    {byModel : List (Key × ServedModelStats D.F)}
    (h : foldServed D capsules sourceLog = .ok byModel) (m : Key) :
    countOf ServedModelStats.nServed byModel m = capsules.countP (servedFor sourceLog m) ↔
      ∀ c ∈ capsules, servedFor sourceLog m c = true → recordStatus c ≠ .unknown := by
  rw [countOf_nServed h, ← List.countP_filter, List.countP_eq_length_filter (p := servedFor _ _),
    List.countP_eq_length]
  simp only [List.mem_filter, decide_eq_true_eq, and_imp]

/-- The summary conserves its covered records when none of those served has a status that is
neither completed nor failed. -/
theorem conserves_iff {leafCount : Int → Py ℕ} {nodeId : Json} {records : List Json}
    {latestCheckpoint : Option History.CheckpointLine} {summary : ServedSummary D.F}
    (h : buildServedSummary D leafCount nodeId records latestCheckpoint sourceLog = .ok summary) :
    Conserves sourceLog (records.take summary.coveredEntries) summary.byModel ↔
      ∀ c ∈ records.take summary.coveredEntries, isServed c sourceLog = .ok true →
        recordStatus c ≠ .unknown := by
  have hfold := foldServed_of_build h
  constructor
  · intro hconserves c hc hserved
    obtain ⟨facts, hfacts, -⟩ := foldServed_eq_ok hfold
    obtain ⟨f, -, hread⟩ := exists_readServed hfacts hc hserved
    apply (countOf_nServed_eq_iff hfold f.model).mp (hconserves f.model).1 c hc
    exact servedFor_of_read hserved hread
  · intro hknown m
    have hserved := (countOf_nServed_eq_iff hfold m).mpr fun c hc hfor =>
      hknown c hc (isServed_of_servedFor hfor)
    refine ⟨hserved, ?_⟩
    rw [hserved, countOf_weights hfold]

theorem conserves_iff_twoRecords :
    let ledger := [servedRecord "aa" "m" "12.5", servedRecord "bb" "m" "7.25"]
    let built := buildServedSummary exactDoubles leafCountOfSize (.str "n") ledger
      (some twoLeaves) .sidecar
    ∃ summary, built = .ok summary ∧
      (Conserves .sidecar (ledger.take summary.coveredEntries) summary.byModel ↔
        ∀ c ∈ ledger.take summary.coveredEntries, isServed c .sidecar = .ok true →
          recordStatus c ≠ .unknown) := by
  intro ledger built
  have hok : built.isOk = true := by decide +kernel
  cases hbuilt : built with
  | error e =>
      rw [hbuilt] at hok
      cases hok
  | ok summary => exact ⟨summary, rfl, conserves_iff hbuilt⟩

/-- A served record whose effect was dispatched and never settled. -/
def dispatchedRecord : Json :=
  .obj
    [("capsule_id", .str "dd"),
     ("effect", .obj [("status", .str "dispatched")]),
     ("model_attestation", .obj [("compute_attestation", .obj [("x-mesh-poc-v1", .obj
       [("role", .str "served"),
        ("serving_provenance", .obj [("model_canonical_ref", .str "m")])])])])]

/-- Two covered records of the model were served, one of them has not settled, and the summary
counts one. -/
theorem dispatched_not_conserved :
    let ledger := [servedRecord "aa" "m" "12.5", dispatchedRecord]
    let built := buildServedSummary exactDoubles leafCountOfSize (.str "n") ledger
      (some twoLeaves) .sidecar
    ledger.countP (servedFor .sidecar (.str "m")) = 2 ∧
      built.toOption.map (fun s => (s.coveredEntries,
        countOf ServedModelStats.nServed s.byModel (.str "m"))) = some (2, 1) ∧
      ∀ summary, built = .ok summary →
        ¬Conserves .sidecar (ledger.take summary.coveredEntries) summary.byModel := by
  intro ledger built
  have hcovered : ledger.countP (servedFor .sidecar (.str "m")) = 2 := by decide +kernel
  have hcounted : built.toOption.map (fun s => (s.coveredEntries,
      countOf ServedModelStats.nServed s.byModel (.str "m"))) = some (2, 1) := by decide +kernel
  refine ⟨hcovered, hcounted, ?_⟩
  intro summary hsummary hconserves
  rw [hsummary] at hcounted
  obtain ⟨hentries, hcount⟩ := Prod.mk.inj (Option.some.inj hcounted)
  have hserved := (hconserves (.str "m")).1
  rw [hentries, hcount] at hserved
  exact absurd (hserved.trans hcovered) (by decide)

end CapsuleMesh.Account
