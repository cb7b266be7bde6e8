import CapsuleMesh.Account.ServedSummary
import CapsuleMesh.Library.Tally

/-!
# What the fold of the served records holds

The bucket of a model is the fold of that model's own records, in their order, and the served
summary has a bucket for exactly the models of which a record was served.
-/

namespace CapsuleMesh.Account

open Python Pane Library

/-! ## One bucket -/

variable {F : Type}

def factsOf (m : Key) (facts : List (ServedFacts F)) : List (ServedFacts F) :=
  ofKey ServedFacts.model m facts

def bucketOf (facts : List (ServedFacts F)) : Bucket F := facts.foldl Bucket.add {}

/-- What `by_model` holds for a model whose served records were read as these facts. -/
def bucketOf? : List (ServedFacts F) → Option (Bucket F)
  | [] => none
  | facts => some (bucketOf facts)

theorem bucketOf_concat (facts : List (ServedFacts F)) (f : ServedFacts F) :
    bucketOf (facts ++ [f]) = (bucketOf facts).add f := by
  rw [bucketOf, List.foldl_append]
  rfl

@[simp] theorem nCompleted_bucketOf (facts : List (ServedFacts F)) :
    (bucketOf facts).nCompleted = facts.countP fun f => f.status = .completed := by
  induction facts using List.reverseRecOn with
  | nil => rfl
  | append_singleton facts f ih =>
      rw [bucketOf_concat, List.countP_append, ← ih, Bucket.add]
      cases h : f.status <;> simp [h]

@[simp] theorem nFailed_bucketOf (facts : List (ServedFacts F)) :
    (bucketOf facts).nFailed = facts.countP fun f => f.status = .failed := by
  induction facts using List.reverseRecOn with
  | nil => rfl
  | append_singleton facts f ih =>
      rw [bucketOf_concat, List.countP_append, ← ih, Bucket.add]
      cases h : f.status <;> simp [h]

@[simp] theorem weightsPresent_bucketOf (facts : List (ServedFacts F)) :
    (bucketOf facts).weightsPresent = facts.countP ServedFacts.weightsPresent := by
  induction facts using List.reverseRecOn with
  | nil => rfl
  | append_singleton facts f ih =>
      rw [bucketOf_concat, List.countP_append, ← ih, Bucket.add]
      cases h : f.weightsPresent <;> simp [h]

theorem weights_bucketOf (facts : List (ServedFacts F)) :
    (bucketOf facts).weightsPresent + (bucketOf facts).weightsAbsent = facts.length := by
  induction facts using List.reverseRecOn with
  | nil => rfl
  | append_singleton facts f ih =>
      rw [bucketOf_concat, List.length_append, ← ih, Bucket.add]
      cases h : f.weightsPresent <;> simp <;> omega

@[simp] theorem latencies_bucketOf (facts : List (ServedFacts F)) :
    (bucketOf facts).latencies = facts.filterMap ServedFacts.latency := by
  induction facts using List.reverseRecOn with
  | nil => rfl
  | append_singleton facts f ih =>
      rw [bucketOf_concat, List.filterMap_append, ← ih, Bucket.add]
      cases h : f.latency <;> simp [h]

/-- Completed and failed records are those of no unknown status. -/
theorem nServed_bucketOf (facts : List (ServedFacts F)) :
    (bucketOf facts).nCompleted + (bucketOf facts).nFailed =
      facts.countP fun f => f.status ≠ .unknown := by
  rw [nCompleted_bucketOf, nFailed_bucketOf]
  induction facts with
  | nil => rfl
  | cons f facts ih =>
      simp only [List.countP_cons, ← ih]
      cases f.status <;> simp <;> omega

/-! ## The buckets of all models -/

theorem lookup_addServed_same (buckets : List (Key × Bucket F)) (f : ServedFacts F) :
    (addServed buckets f).lookup f.model = some (((buckets.lookup f.model).getD {}).add f) := by
  induction buckets with
  | nil =>
      rw [addServed, List.lookup_cons, beq_self_eq_true]
      rfl
  | cons entry buckets ih =>
      rw [addServed]
      split_ifs with hk
      · rw [List.lookup_cons, List.lookup_cons, hk, beq_self_eq_true]
        rfl
      · have hne : (f.model == entry.1) = false := beq_false_of_ne (Ne.symm hk)
        rw [List.lookup_cons, List.lookup_cons, hne]
        exact ih

theorem lookup_addServed_ne (buckets : List (Key × Bucket F)) {f : ServedFacts F} {m : Key}
    (h : f.model ≠ m) : (addServed buckets f).lookup m = buckets.lookup m := by
  induction buckets with
  | nil => rw [addServed, List.lookup_cons, beq_false_of_ne (Ne.symm h)]
  | cons entry buckets ih =>
      rw [addServed]
      split_ifs with hk
      · have hne : (m == entry.1) = false := by
          apply beq_false_of_ne
          rw [hk]
          exact Ne.symm h
        rw [List.lookup_cons, List.lookup_cons, hne]
      · rw [List.lookup_cons, List.lookup_cons, ih]

theorem mem_keys_addServed {buckets : List (Key × Bucket F)} {f : ServedFacts F} {m : Key} :
    m ∈ (addServed buckets f).map Prod.fst ↔ m ∈ buckets.map Prod.fst ∨ m = f.model := by
  induction buckets with
  | nil => simp [addServed]
  | cons entry buckets ih =>
      rw [addServed]
      split_ifs with hk
      · simp only [List.map_cons, List.mem_cons, hk]
        tauto
      · simp only [List.map_cons, List.mem_cons, ih, or_assoc]

theorem nodup_keys_addServed {buckets : List (Key × Bucket F)}
    (h : (buckets.map Prod.fst).Nodup) (f : ServedFacts F) :
    ((addServed buckets f).map Prod.fst).Nodup := by
  induction buckets with
  | nil => exact List.nodup_singleton _
  | cons entry buckets ih =>
      obtain ⟨hnotin, hnodup⟩ := List.nodup_cons.mp h
      rw [addServed]
      split_ifs with hk
      · exact List.nodup_cons.mpr ⟨hnotin, hnodup⟩
      · refine List.nodup_cons.mpr ⟨fun hmem => ?_, ih hnodup⟩
        rcases mem_keys_addServed.mp hmem with hmem | hmem
        · exact hnotin hmem
        · exact hk hmem

/-- Each model has one bucket. -/
theorem nodup_keys_foldl (facts : List (ServedFacts F)) :
    ((facts.foldl addServed []).map Prod.fst).Nodup := by
  induction facts using List.reverseRecOn with
  | nil => exact List.nodup_nil
  | append_singleton facts f ih =>
      rw [List.foldl_append]
      exact nodup_keys_addServed ih f

theorem foldl_cells (facts : List (ServedFacts F)) :
    facts.foldl (fun cell f => some ((cell.getD {}).add f)) none = bucketOf? facts := by
  induction facts using List.reverseRecOn with
  | nil => rfl
  | append_singleton facts f ih =>
      rw [List.foldl_append, ih]
      cases facts with
      | nil => rfl
      | cons g facts =>
        apply congrArg some
        exact (bucketOf_concat (g :: facts) f).symm

/-- The records of other models do not show in a model's bucket. -/
theorem lookup_foldl_addServed (facts : List (ServedFacts F)) (m : Key) :
    (facts.foldl addServed []).lookup m = bucketOf? (factsOf m facts) := by
  rw [← foldl_cells]
  exact foldl_view (fun buckets m => buckets.lookup m) (fun cell f => some ((cell.getD {}).add f))
    lookup_addServed_same (fun buckets f _ hne => lookup_addServed_ne buckets hne) [] facts m

/-! ## The statistics of a model -/

theorem statsOf_eq_ok {D : Doubles} {bucket : Bucket D.F} {stats : ServedModelStats D.F}
    (h : statsOf D bucket = .ok stats) :
    stats.nServed = bucket.nCompleted + bucket.nFailed ∧ stats.nCompleted = bucket.nCompleted ∧
      stats.nFailed = bucket.nFailed ∧
        stats.latencyMaxMs = (D.sorted bucket.latencies).getLast? ∧
          stats.weightsDigestPresent = bucket.weightsPresent ∧
            stats.weightsDigestAbsent = bucket.weightsAbsent := by
  obtain ⟨_, -, h⟩ := Py.bind_eq_ok.mp h
  obtain ⟨_, -, h⟩ := Py.bind_eq_ok.mp h
  obtain ⟨_, -, h⟩ := Py.bind_eq_ok.mp h
  obtain rfl := Except.ok.inj h
  exact ⟨rfl, rfl, rfl, rfl, rfl, rfl⟩

/-- A loop over the items of a dictionary keeps each value under its key. -/
theorem lookup_mapped {α β : Type} {f : α → Py β} {entries : List (Key × α)}
    {mapped : List (Key × β)} (h : (entries.mapM fun e => do return (e.1, ← f e.2)) = .ok mapped)
    (m : Key) : Option.Rel (fun a b => f a = .ok b) (entries.lookup m) (mapped.lookup m) := by
  have hall := Py.forall₂_of_map_eq (Py.mapM_eq_ok.mp h)
  clear h
  induction hall with
  | nil => exact .none
  | @cons entry _ _ _ hmade _ ih =>
      obtain ⟨b, hb, hentry⟩ := Py.bind_eq_ok.mp hmade
      obtain rfl := Except.ok.inj hentry
      rw [List.lookup_cons, List.lookup_cons]
      cases m == entry.1 with
      | true => exact .some hb
      | false => exact ih

theorem keys_mapped {α β : Type} {f : α → Py β} {entries : List (Key × α)}
    {mapped : List (Key × β)} (h : (entries.mapM fun e => do return (e.1, ← f e.2)) = .ok mapped) :
    mapped.map Prod.fst = entries.map Prod.fst := by
  have hall := Py.forall₂_of_map_eq (Py.mapM_eq_ok.mp h)
  clear h
  induction hall with
  | nil => rfl
  | cons hmade _ ih =>
      obtain ⟨b, -, hentry⟩ := Py.bind_eq_ok.mp hmade
      obtain rfl := Except.ok.inj hentry
      rw [List.map_cons, List.map_cons, ih]

/-! ## The facts and the records -/

/-- What the loop reads off the records: one entry for each that was served. -/
def servedFacts (D : Doubles) (capsules : List Json) (sourceLog : SourceLog) :
    Py (List (ServedFacts D.F)) := do
  (← servedOnly capsules sourceLog).mapM (readServed D)

def modelKey (capsule : Json) : Py Key := do (← modelRef capsule).key

/-- The record is labelled served, for the model. -/
def servedFor (sourceLog : SourceLog) (m : Key) (capsule : Json) : Bool :=
  marked (isServed · sourceLog) capsule && decide (modelKey capsule = .ok m)

theorem isServed_of_servedFor {sourceLog : SourceLog} {m : Key} {capsule : Json}
    (h : servedFor sourceLog m capsule = true) : isServed capsule sourceLog = .ok true := by
  rw [servedFor, Bool.and_eq_true] at h
  exact eq_ok_of_marked h.1

def recordStatus (capsule : Json) : StatusBucket :=
  statusBucket ((effectStatus capsule).toOption.getD .null)

def hasWeightsDigest (capsule : Json) : Bool :=
  !((weightsDigest capsule).toOption.getD .null).isNull

theorem readServed_eq_ok {D : Doubles} {capsule : Json} {f : ServedFacts D.F}
    (h : readServed D capsule = .ok f) :
    modelKey capsule = .ok f.model ∧ recordStatus capsule = f.status ∧
      latencyMs D capsule = .ok f.latency ∧ hasWeightsDigest capsule = f.weightsPresent := by
  obtain ⟨model, hmodel, h⟩ := Py.bind_eq_ok.mp h
  obtain ⟨m, hm, h⟩ := Py.bind_eq_ok.mp h
  obtain ⟨status, hstatus, h⟩ := Py.bind_eq_ok.mp h
  obtain ⟨latency, hlatency, h⟩ := Py.bind_eq_ok.mp h
  obtain ⟨weights, hweights, h⟩ := Py.bind_eq_ok.mp h
  obtain ⟨quantization, hquantization, h⟩ := Py.bind_eq_ok.mp h
  obtain ⟨q, hq, h⟩ := Py.bind_eq_ok.mp h
  obtain rfl := Except.ok.inj h
  refine ⟨?_, ?_, hlatency, ?_⟩
  · rw [modelKey, hmodel]
    exact hm
  · rw [recordStatus, hstatus]
    rfl
  · rw [hasWeightsDigest, hweights]
    rfl

theorem effectStatus_of_read {D : Doubles} {capsule : Json} {f : ServedFacts D.F}
    (h : readServed D capsule = .ok f) :
    ∃ status, effectStatus capsule = .ok status ∧ statusBucket status = f.status := by
  obtain ⟨_, -, h⟩ := Py.bind_eq_ok.mp h
  obtain ⟨_, -, h⟩ := Py.bind_eq_ok.mp h
  obtain ⟨status, hstatus, h⟩ := Py.bind_eq_ok.mp h
  obtain ⟨_, -, h⟩ := Py.bind_eq_ok.mp h
  obtain ⟨_, -, h⟩ := Py.bind_eq_ok.mp h
  obtain ⟨_, -, h⟩ := Py.bind_eq_ok.mp h
  obtain ⟨_, -, h⟩ := Py.bind_eq_ok.mp h
  obtain rfl := Except.ok.inj h
  exact ⟨status, hstatus, rfl⟩

/-- The served records, each beside what was read off it. -/
theorem servedFacts_eq_ok {D : Doubles} {capsules : List Json} {sourceLog : SourceLog}
    {facts : List (ServedFacts D.F)} (h : servedFacts D capsules sourceLog = .ok facts) :
    List.Forall₂ (fun c f => readServed D c = .ok f)
      (capsules.filter (marked (isServed · sourceLog))) facts := by
  obtain ⟨served, hserved, h⟩ := Py.bind_eq_ok.mp h
  obtain rfl := (filterM_eq_ok.mp hserved).2
  exact Py.forall₂_of_map_eq (Py.mapM_eq_ok.mp h)

theorem isServed_told {D : Doubles} {capsules : List Json} {sourceLog : SourceLog}
    {facts : List (ServedFacts D.F)} (h : servedFacts D capsules sourceLog = .ok facts) {c : Json}
    (hc : c ∈ capsules) : ∃ b, isServed c sourceLog = .ok b := by
  obtain ⟨served, hserved, -⟩ := Py.bind_eq_ok.mp h
  exact (filterM_eq_ok.mp hserved).1 c hc

theorem exists_readServed {D : Doubles} {capsules : List Json} {sourceLog : SourceLog}
    {facts : List (ServedFacts D.F)} (h : servedFacts D capsules sourceLog = .ok facts) {c : Json}
    (hc : c ∈ capsules) (hserved : isServed c sourceLog = .ok true) :
    ∃ f ∈ facts, readServed D c = .ok f := by
  have hmark : marked (isServed · sourceLog) c = true := marked_of_eq_ok hserved
  have hmem : c ∈ capsules.filter (marked (isServed · sourceLog)) :=
    List.mem_filter.mpr ⟨hc, hmark⟩
  obtain ⟨i, hi⟩ := List.getElem?_of_mem hmem
  obtain ⟨served, hserved, h⟩ := Py.bind_eq_ok.mp h
  obtain rfl := (filterM_eq_ok.mp hserved).2
  obtain ⟨f, hf, hread⟩ := Py.getElem?_mapM h hi
  exact ⟨f, List.mem_of_getElem? hf, hread⟩

/-- A record that the fold has read as served is served for the model read off it. -/
theorem servedFor_of_read {D : Doubles} {sourceLog : SourceLog} {c : Json}
    {f : ServedFacts D.F} (hserved : isServed c sourceLog = .ok true)
    (hread : readServed D c = .ok f) : servedFor sourceLog f.model c = true := by
  have hmark : marked (isServed · sourceLog) c = true := marked_of_eq_ok hserved
  rw [servedFor, hmark, (readServed_eq_ok hread).1, decide_eq_true rfl]
  rfl

/-- The facts of a model are those read off its own served records. -/
theorem read_factsOf {D : Doubles} {capsules : List Json} {sourceLog : SourceLog}
    {facts : List (ServedFacts D.F)} (h : servedFacts D capsules sourceLog = .ok facts) (m : Key) :
    List.Forall₂ (fun c f => readServed D c = .ok f) (capsules.filter (servedFor sourceLog m))
      (factsOf m facts) := by
  have hmodel : ∀ c f, readServed D c = .ok f →
      (decide (modelKey c = .ok m) = true ↔ decide (f.model = m) = true) := by
    intro c f hf
    rw [(readServed_eq_ok hf).1, decide_eq_true_iff, decide_eq_true_iff, Except.ok.injEq]
  have hfiltered := List.rel_filter (fun c f hf => hmodel c f hf) (servedFacts_eq_ok h)
  rw [List.filter_filter] at hfiltered
  have hboth : capsules.filter (servedFor sourceLog m) = capsules.filter fun c =>
      decide (modelKey c = .ok m) && marked (isServed · sourceLog) c := by
    apply List.filter_congr
    intro c _
    exact Bool.and_comm _ _
  rw [hboth]
  exact hfiltered

theorem countP_read {D : Doubles} {served : List Json} {facts : List (ServedFacts D.F)}
    (h : List.Forall₂ (fun c f => readServed D c = .ok f) served facts) {onRecord : Json → Bool}
    {onFacts : ServedFacts D.F → Bool}
    (hread : ∀ c f, readServed D c = .ok f → onFacts f = onRecord c) :
    facts.countP onFacts = served.countP onRecord := by
  induction h with
  | nil => rfl
  | cons hf _ ih => rw [List.countP_cons, List.countP_cons, ih, hread _ _ hf]

/-- Counting the facts of a model is counting its served records. -/
theorem countP_factsOf {D : Doubles} {capsules : List Json} {sourceLog : SourceLog}
    {facts : List (ServedFacts D.F)} (h : servedFacts D capsules sourceLog = .ok facts) (m : Key)
    {onRecord : Json → Bool} {onFacts : ServedFacts D.F → Bool}
    (hread : ∀ c f, readServed D c = .ok f → onFacts f = onRecord c) :
    (factsOf m facts).countP onFacts =
      capsules.countP fun c => onRecord c && servedFor sourceLog m c := by
  rw [countP_read (read_factsOf h m) hread, List.countP_filter]

theorem length_factsOf {D : Doubles} {capsules : List Json} {sourceLog : SourceLog}
    {facts : List (ServedFacts D.F)} (h : servedFacts D capsules sourceLog = .ok facts) (m : Key) :
    (factsOf m facts).length = capsules.countP (servedFor sourceLog m) := by
  rw [← (read_factsOf h m).length_eq, List.countP_eq_length_filter]

/-- The whole fold: a model's statistics are those of the facts read off its served records. -/
theorem foldServed_eq_ok {D : Doubles} {capsules : List Json} {sourceLog : SourceLog}
    {byModel : List (Key × ServedModelStats D.F)} (h : foldServed D capsules sourceLog = .ok byModel) :
    ∃ facts, servedFacts D capsules sourceLog = .ok facts ∧
      ∀ m, Option.Rel (fun bucket stats => statsOf D bucket = .ok stats)
        (bucketOf? (factsOf m facts)) (byModel.lookup m) := by
  obtain ⟨served, hserved, h⟩ := Py.bind_eq_ok.mp h
  obtain ⟨facts, hfacts, h⟩ := Py.bind_eq_ok.mp h
  refine ⟨facts, Py.bind_eq_ok.mpr ⟨served, hserved, hfacts⟩, ?_⟩
  intro m
  rw [← lookup_foldl_addServed]
  exact lookup_mapped h m

/-- The summary has an entry for a model exactly if a record of it was served. -/
theorem lookup_foldServed {D : Doubles} {capsules : List Json} {sourceLog : SourceLog}
    {byModel : List (Key × ServedModelStats D.F)}
    (h : foldServed D capsules sourceLog = .ok byModel) :
    ∃ facts, servedFacts D capsules sourceLog = .ok facts ∧ ∀ m,
      (factsOf m facts = [] → byModel.lookup m = none) ∧
        (factsOf m facts ≠ [] → ∃ stats, byModel.lookup m = some stats ∧
          statsOf D (bucketOf (factsOf m facts)) = .ok stats) := by
  obtain ⟨facts, hfacts, hfold⟩ := foldServed_eq_ok h
  refine ⟨facts, hfacts, fun m => ?_⟩
  have hrel := hfold m
  cases hof : factsOf m facts with
  | nil =>
      rw [hof] at hrel
      cases hlookup : byModel.lookup m with
      | none => exact ⟨fun _ => rfl, fun hne => absurd rfl hne⟩
      | some stats =>
        rw [hlookup] at hrel
        cases hrel
  | cons f rest =>
      rw [hof] at hrel
      refine ⟨fun hnil => absurd hnil (List.cons_ne_nil f rest), fun _ => ?_⟩
      cases hlookup : byModel.lookup m with
      | none =>
        rw [hlookup] at hrel
        cases hrel
      | some stats =>
        rw [hlookup] at hrel
        cases hrel with
        | some hstats => exact ⟨stats, rfl, hstats⟩

theorem nodup_keys_foldServed {D : Doubles} {capsules : List Json} {sourceLog : SourceLog}
    {byModel : List (Key × ServedModelStats D.F)}
    (h : foldServed D capsules sourceLog = .ok byModel) : (byModel.map Prod.fst).Nodup := by
  obtain ⟨served, -, h⟩ := Py.bind_eq_ok.mp h
  obtain ⟨facts, -, h⟩ := Py.bind_eq_ok.mp h
  rw [keys_mapped h]
  exact nodup_keys_foldl facts

/-- The summary of a ledger has the fold of the covered records. -/
theorem foldServed_of_build {D : Doubles} {leafCount : Int → Py ℕ} {nodeId : Json}
    {records : List Json} {latestCheckpoint : Option History.CheckpointLine}
    {sourceLog : SourceLog} {summary : ServedSummary D.F}
    (h : buildServedSummary D leafCount nodeId records latestCheckpoint sourceLog = .ok summary) :
    foldServed D (records.take summary.coveredEntries) sourceLog = .ok summary.byModel := by
  cases latestCheckpoint with
  | none =>
      obtain rfl := Except.ok.inj h
      rfl
  | some cp =>
      obtain ⟨leaves, -, h⟩ := Py.bind_eq_ok.mp h
      obtain ⟨own, -, h⟩ := Py.bind_eq_ok.mp h
      obtain ⟨byModel, hfold, h⟩ := Py.bind_eq_ok.mp h
      obtain ⟨received, -, h⟩ := Py.bind_eq_ok.mp h
      obtain rfl := Except.ok.inj h
      exact hfold

end CapsuleMesh.Account
