import CapsuleMesh.Python.Doubles
import CapsuleMesh.Pane.Exchange
import CapsuleMesh.History.Card

/-!
# The served summary

A node folds the records that its latest checkpoint covers into counts and a latency
distribution for each model, and counts the verdicts it has received about its own
capsules.
-/

namespace CapsuleMesh.Account

open Python Pane Sequence

def FLOOR : ℕ := 5

def FLOOR_LABEL : String := "fewer than 5"

def REFUSED_STATUS_ABSENT_REASON : String :=
  "agent_action_capsule.contracts.EFFECT_STATUSES carries no distinct 'refused' value; a " ++
  "pre-dispatch policy refusal is coarsened to effect.status='failed' before this module sees " ++
  "it (mesh_record_emitter.py's policy_denied terminal state) -- refused is always 0 until a " ++
  "status value distinguishes it, never inferred from other fields"

def WEIGHTS_DIGEST_ABSENT_REASON : String :=
  "no capsule field named weights_digest exists in records this sidecar emits today " ++
  "(same absence self_accountability.rung_summary documents) -- never fabricated"

/-! ## The fields of a record -/

def isServed (capsule : Json) (sourceLog : SourceLog) : Py Bool := do
  return decide ((← labelRole capsule sourceLog) = .served)

def servingProvenance (capsule : Json) : Py Json := do
  return (← (← pocBlock capsule).get "serving_provenance").or (.obj [])

def modelRef (capsule : Json) : Py Json := do
  return (← (← servingProvenance capsule).get "model_canonical_ref").or (.str "unknown")

def quantization (capsule : Json) : Py Json := do
  return (← (← servingProvenance capsule).get "quantization").or (.str "unknown")

def latencyMs (D : Doubles) (capsule : Json) : Py (Option D.F) := do
  D.floatOrNone (← (← pocBlock capsule).get "latency_ms")

def weightsDigest (capsule : Json) : Py Json := do
  (← servingProvenance capsule).get "weights_digest"

def effectStatus (capsule : Json) : Py Json := do
  ((← capsule.get "effect").or (.obj [])).get "status"

inductive StatusBucket where
  | completed
  | failed
  | unknown
deriving DecidableEq

def statusBucket (status : Json) : StatusBucket :=
  if status.pyEq (.str "confirmed") then .completed
  else if status.pyEq (.str "failed") || status.pyEq (.str "reverted") then .failed
  else .unknown

/-! ## The fold -/

/-- What the loop reads off one served record. -/
structure ServedFacts (F : Type) where
  model : Key
  status : StatusBucket
  latency : Option F
  weightsPresent : Bool
  quantization : Key

def readServed (D : Doubles) (capsule : Json) : Py (ServedFacts D.F) := do
  let model ← (← modelRef capsule).key
  let status ← effectStatus capsule
  let latency ← latencyMs D capsule
  let weights ← weightsDigest capsule
  let quantization ← (← quantization capsule).key
  return ⟨model, statusBucket status, latency, !weights.isNull, quantization⟩

structure Bucket (F : Type) where
  nCompleted : ℕ := 0
  nFailed : ℕ := 0
  nRefused : ℕ := 0
  latencies : List F := []
  weightsPresent : ℕ := 0
  weightsAbsent : ℕ := 0
  quantizations : List Key := []

def Bucket.add {F : Type} (bucket : Bucket F) (facts : ServedFacts F) : Bucket F where
  nCompleted := bucket.nCompleted + if facts.status = .completed then 1 else 0
  nFailed := bucket.nFailed + if facts.status = .failed then 1 else 0
  nRefused := bucket.nRefused
  latencies := bucket.latencies ++ facts.latency.toList
  weightsPresent := bucket.weightsPresent + if facts.weightsPresent then 1 else 0
  weightsAbsent := bucket.weightsAbsent + if facts.weightsPresent then 0 else 1
  quantizations :=
    if facts.quantization ∈ bucket.quantizations then bucket.quantizations
    else bucket.quantizations ++ [facts.quantization]

/-- `by_model.setdefault(model, ...)` and the updates of that bucket. -/
def addServed {F : Type} : List (Key × Bucket F) → ServedFacts F → List (Key × Bucket F)
  | [], facts => [(facts.model, Bucket.add {} facts)]
  | (k, bucket) :: buckets, facts =>
      if k = facts.model then (k, bucket.add facts) :: buckets
      else (k, bucket) :: addServed buckets facts

structure ServedModelStats (F : Type) where
  nServed : ℕ
  nCompleted : ℕ
  nFailed : ℕ
  nRefused : ℕ
  latencyP50Ms : Option F
  latencyP95Ms : Option F
  latencyMaxMs : Option F
  weightsDigestPresent : ℕ
  weightsDigestAbsent : ℕ
  quantizations : List Key

def sortedKeys (keys : List Key) : Py (List Key) :=
  Sidecar.sortedValues (keys.map fun k => (k, k))

def percentileOrNone (D : Doubles) (latencies : List D.F) (pct : D.F) : Py (Option D.F) :=
  if latencies.isEmpty then .ok none else some <$> D.percentile latencies pct

def statsOf (D : Doubles) (bucket : Bucket D.F) : Py (ServedModelStats D.F) := do
  let latencies := D.sorted bucket.latencies
  let p50 ← percentileOrNone D latencies D.p50
  let p95 ← percentileOrNone D latencies D.p95
  let quantizations ← sortedKeys bucket.quantizations
  return {
    nServed := bucket.nCompleted + bucket.nFailed
    nCompleted := bucket.nCompleted
    nFailed := bucket.nFailed
    nRefused := bucket.nRefused
    latencyP50Ms := p50
    latencyP95Ms := p95
    latencyMaxMs := latencies.getLast?
    weightsDigestPresent := bucket.weightsPresent
    weightsDigestAbsent := bucket.weightsAbsent
    quantizations := quantizations }

def servedOnly (capsules : List Json) (sourceLog : SourceLog) : Py (List Json) :=
  capsules.filterM (isServed · sourceLog)

/-- `_fold_range` of the served summary. -/
def foldServed (D : Doubles) (capsules : List Json) (sourceLog : SourceLog) :
    Py (List (Key × ServedModelStats D.F)) := do
  let served ← servedOnly capsules sourceLog
  let facts ← served.mapM (readServed D)
  (facts.foldl addServed []).mapM fun entry => do return (entry.1, ← statsOf D entry.2)

/-! ## Verdicts about this node -/

def LEGACY_RELATION_ADJUDICATES : String := "adjudicates"

def EPISTEMIC_TYPE_ADJUDICATION : String := "adjudication"

/-- `d.get(key)` behind an `isinstance(d, dict)`. -/
def memberOf (j : Json) (key : String) : Json :=
  match j with
  | .obj members => (members.lookup key).getD .null
  | _ => .null

def isDict : Json → Bool
  | .obj _ => true
  | _ => false

def isAdjudication (record : Json) : Bool :=
  let compute := memberOf (memberOf record "model_attestation") "compute_attestation"
  (memberOf (memberOf record "chain") "relation").pyEq (.str LEGACY_RELATION_ADJUDICATES) ||
    ((memberOf compute "epistemic_type").pyEq (.str EPISTEMIC_TYPE_ADJUDICATION) &&
      isDict (memberOf compute "adjudication"))

def isPadding (record : Json) : Py Bool := do
  return (← record.get "record_type").pyEq (.str "padding")

/-- The ids of this node's own records; padding is not one of them. -/
def ownCapsuleIds : List Json → Py (List Key)
  | [] => .ok []
  | record :: records => do
      let id ← record.get "capsule_id"
      let own : List Key ←
        if id.truthy then do
          if ← isPadding record then pure [] else do return [← id.key]
        else pure []
      return own ++ (← ownCapsuleIds records)

/-- Whether a verdict names one of the ids; the second half is looked up only when
the first is not among them. -/
def namesOwn (adjudication : Json) (own : List Key) : Py Bool := do
  let halfA ← (← adjudication.get "half_a_capsule_id").key
  let halfB ← adjudication.get "half_b_capsule_id"
  if halfA ∈ own then return true else return decide ((← halfB.key) ∈ own)

def adjudicationsReceived (own : List Key) : List Json → Py ℕ
  | [] => .ok 0
  | record :: records => do
      let received : ℕ ←
        if (← isPadding record) || !isAdjudication record then pure 0
        else do
          let attestation := (← record.get "model_attestation").or (.obj [])
          let compute := (← attestation.get "compute_attestation").or (.obj [])
          let adjudication ← compute.get "adjudication"
          if adjudication.truthy then do
            if ← namesOwn adjudication own then pure 1 else pure 0
          else pure 0
      return received + (← adjudicationsReceived own records)

/-! ## The summary -/

structure ServedSummary (F : Type) where
  nodeId : Json
  selectionFromEntry : ℕ
  selectionToEntry : ℕ
  coveredEntries : ℕ
  byModel : List (Key × ServedModelStats F)
  coverageRoot : String
  coverageMmrSize : Int
  coverageLogId : String
  coverageTimestamp : String
  coverageWitnesses : List String := []
  coverageWitnessed : Bool := false
  adjudicationsReceived : ℕ := 0

def witnessUrls (cp : History.CheckpointLine) : List String :=
  History.sortedSet (cp.witnesses.map History.Witness.tsUrl)

def emptySummary {F : Type} (nodeId : Json) : ServedSummary F where
  nodeId := nodeId
  selectionFromEntry := 0
  selectionToEntry := 0
  coveredEntries := 0
  byModel := []
  coverageRoot := ""
  coverageMmrSize := 0
  coverageLogId := ""
  coverageTimestamp := ""

def buildServedSummary (D : Doubles) (leafCount : Int → Py ℕ) (nodeId : Json)
    (capsuleRecords : List Json) (latestCheckpoint : Option History.CheckpointLine)
    (sourceLog : SourceLog) : Py (ServedSummary D.F) :=
  match latestCheckpoint with
  | none => .ok (emptySummary nodeId)
  | some cp => do
      let covered := min (← leafCount cp.mmrSize) capsuleRecords.length
      let selected := capsuleRecords.take covered
      let witnesses := witnessUrls cp
      let own ← ownCapsuleIds selected
      let byModel ← foldServed D selected sourceLog
      let received ← Account.adjudicationsReceived own selected
      return {
        nodeId := nodeId
        selectionFromEntry := if covered = 0 then 0 else 1
        selectionToEntry := covered
        coveredEntries := covered
        byModel := byModel
        coverageRoot := cp.root
        coverageMmrSize := cp.mmrSize
        coverageLogId := cp.logId
        coverageTimestamp := cp.timestamp
        coverageWitnesses := witnesses
        coverageWitnessed := !witnesses.isEmpty
        adjudicationsReceived := received }

/-! ## The published value -/

def keyJson : Key → Json
  | .null => .null
  | .int n => .int n
  | .float repr => .float repr
  | .str s => .str s

def ServedModelStats.toValue (D : Doubles) (stats : ServedModelStats D.F) : Py Json := do
  let belowFloor := decide (stats.nServed < FLOOR)
  let count (n : ℕ) : Json := if belowFloor then .str FLOOR_LABEL else .int n
  let latency (v : Option D.F) : Json :=
    if belowFloor then .null else Json.ofStr? (v.map D.fixed3)
  let names ← if belowFloor then pure [] else sortedKeys stats.quantizations
  return .obj
    [("served", count stats.nServed),
     ("completed", count stats.nCompleted),
     ("failed", count stats.nFailed),
     ("refused", count stats.nRefused),
     ("refused_note", if stats.nServed = 0 then .null else .str REFUSED_STATUS_ABSENT_REASON),
     ("latency_p50_ms", latency stats.latencyP50Ms),
     ("latency_p95_ms", latency stats.latencyP95Ms),
     ("latency_max_ms", latency stats.latencyMaxMs),
     ("weights_digest", .obj
       [("present", count stats.weightsDigestPresent),
        ("absent", count stats.weightsDigestAbsent),
        ("note", if stats.weightsDigestPresent = 0 then .str WEIGHTS_DIGEST_ABSENT_REASON
          else .null)]),
     ("quantizations", .arr (names.map keyJson)),
     ("floor_applied", .bool belowFloor)]

/-- `{model: stats.to_value() for model, stats in sorted(...)}`. -/
def byModelValue (D : Doubles) (byModel : List (Key × ServedModelStats D.F)) : Py Json := do
  let entries ← Sidecar.sortedValues (byModel.map fun entry => (entry.1, entry))
  let members ← entries.mapM fun entry => do
    let value ← entry.2.toValue D
    match Sidecar.keyText entry.1 with
    | some name => .ok (name, value)
    | none => .error .typeError
  return .obj members

def ServedSummary.toValue (D : Doubles) (definitionDigest : String)
    (summary : ServedSummary D.F) : Py Json := do
  let byModel ← byModelValue D summary.byModel
  return .obj
    [("schema", .str "mesh-served-summary/1"),
     ("node_id", summary.nodeId),
     ("selection", .obj
       [("from_entry", .int summary.selectionFromEntry),
        ("to_entry", .int summary.selectionToEntry),
        ("covered_entries", .int summary.coveredEntries),
        ("note", .str ("witnessed range only: entries appended after the latest witnessed " ++
          "checkpoint are excluded by design, same as account_capsule.py"))]),
     ("derivation", .obj
       [("kind", .str "served_summary_fold"),
        ("definition_digest", .str definitionDigest),
        ("by_model", byModel),
        ("note", .str ("counts + latency distribution per model, over the selected witnessed " ++
          "range; an ACCOUNT of what was served, not a score. The relying party " ++
          "computes its own predicate."))]),
     ("coverage", .obj
       [("checkpoint_root", .str summary.coverageRoot),
        ("mmr_size", .int summary.coverageMmrSize),
        ("log_id", .str summary.coverageLogId),
        ("timestamp", .str summary.coverageTimestamp),
        ("witnesses", .arr (summary.coverageWitnesses.map .str)),
        ("witnessed", .bool summary.coverageWitnessed),
        ("note", .str ("cross-check handle: recompute the fold from the node's ledger, check " ++
          "the ledger against this root, confirm the root was witnessed"))]),
     ("adjudications_received", .obj
       [("value", .int summary.adjudicationsReceived),
        ("source", .str "self_held"),
        ("note", .str ("verdicts this node has received() into its own log about its served " ++
          "exchanges -- not this node's own judgment of itself. The counterparty-held " ++
          "references path is what carries weight in an " ++
          "adversarial reading; this count is never presented as a substitute for it."))]),
     ("no_requester_identifiers", .str ("this summary reads and reports no requester-identity " ++
       "field (cross_party.initiator_ref, serving_provenance.requesting_party/counterparty_ref) " ++
       "-- it answers WHAT was served, never WHO asked")),
     ("not_a_score", .str ("An account of facts + a witness handle to verify them, not a score " ++
       "or routing recommendation."))]

/-! ## Only the covered records count -/

theorem covered_take (n : ℕ) (records : List Json) :
    min n (records.take n).length = min n records.length := by
  rw [List.length_take]
  omega

theorem selected_take (n : ℕ) (records : List Json) :
    (records.take n).take (min n records.length) = records.take (min n records.length) := by
  rw [List.take_take]
  congr 1
  omega

theorem buildServedSummary_take (D : Doubles) {leafCount : Int → Py ℕ}
    {cp : History.CheckpointLine} {n : ℕ} (hn : leafCount cp.mmrSize = .ok n) (nodeId : Json)
    (records : List Json) (sourceLog : SourceLog) :
    buildServedSummary D leafCount nodeId (records.take n) (some cp) sourceLog =
      buildServedSummary D leafCount nodeId records (some cp) sourceLog := by
  simp only [buildServedSummary, hn, Py.ok_bind, covered_take, selected_take]

end CapsuleMesh.Account
