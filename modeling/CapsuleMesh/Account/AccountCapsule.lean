import CapsuleMesh.Account.ServedSummary
import CapsuleMesh.Library.MountainRange

/-!
# The account capsule

The served/success fold over the range that the latest checkpoint covers.  Like the
served summary it is a function of the covered records: nothing that is appended
behind a checkpoint changes what is published under it.
-/

namespace CapsuleMesh.Account

open Python Pane

def SYBIL_RESIDUAL_TEXT : String :=
  "This is an account of facts, not a trust rating; anyone using it " ++
  "comparatively must bring their own Sybil resistance. A mesh node key is " ++
  "free to mint, so a node with a poor account can reset to a fresh key with " ++
  "an empty history at zero cost. The witness makes ONE identity's history " ++
  "tamper-evident; it does not bind that identity to a scarce real-world " ++
  "entity. A relying party that needs Sybil resistance must add its own " ++
  "(stake, counterparty attestation, allow-list, proof-of-personhood) — this " ++
  "account does not provide it."

def effectConfirmed (capsule : Json) : Py Bool := do
  let effect := (← capsule.get "effect").or (.obj [])
  return (← effect.get "status").pyEq (.str "confirmed")

structure AccountFold where
  nTotal : ℕ := 0
  nServed : ℕ := 0
  nRequested : ℕ := 0
  nUnknownRole : ℕ := 0
  nConflictRole : ℕ := 0
  nServedConfirmed : ℕ := 0
deriving DecidableEq

/-- One turn of the loop of `_fold_range`. -/
def AccountFold.add (sourceLog : SourceLog) (fold : AccountFold) (capsule : Json) :
    Py AccountFold := do
  match ← labelRole capsule sourceLog with
  | .served =>
      let confirmed ← effectConfirmed capsule
      return { fold with
        nServed := fold.nServed + 1
        nServedConfirmed := fold.nServedConfirmed + if confirmed then 1 else 0 }
  | .requested => return { fold with nRequested := fold.nRequested + 1 }
  | .conflict => return { fold with nConflictRole := fold.nConflictRole + 1 }
  | .unknown => return { fold with nUnknownRole := fold.nUnknownRole + 1 }

/-- `_fold_range` of the account capsule. -/
def foldAccount (capsules : List Json) (sourceLog : SourceLog) : Py AccountFold := do
  let fold ← capsules.foldlM (AccountFold.add sourceLog) {}
  return { fold with nTotal := capsules.length }

structure AccountCapsule where
  nodeId : Json
  selectionFromEntry : ℕ
  selectionToEntry : ℕ
  coveredEntries : ℕ
  fold : AccountFold
  coverageRoot : String
  coverageMmrSize : Int
  coverageLogId : String
  coverageTimestamp : String
  coverageWitnesses : List String := []
  coverageWitnessed : Bool := false
  sybilResidual : String := SYBIL_RESIDUAL_TEXT

def emptyAccount (nodeId : Json) (fold : AccountFold) : AccountCapsule where
  nodeId := nodeId
  selectionFromEntry := 0
  selectionToEntry := 0
  coveredEntries := 0
  fold := fold
  coverageRoot := ""
  coverageMmrSize := 0
  coverageLogId := ""
  coverageTimestamp := ""

def buildAccountCapsule (leafCount : Int → Py ℕ) (nodeId : Json) (capsules : List Json)
    (latestCheckpoint : Option History.CheckpointLine) (sourceLog : SourceLog) :
    Py AccountCapsule :=
  match latestCheckpoint with
  | none => do return emptyAccount nodeId (← foldAccount [] sourceLog)
  | some cp => do
      let covered := min (← leafCount cp.mmrSize) capsules.length
      let selected := capsules.take covered
      let witnesses := witnessUrls cp
      let fold ← foldAccount selected sourceLog
      return {
        nodeId := nodeId
        selectionFromEntry := if covered = 0 then 0 else 1
        selectionToEntry := covered
        coveredEntries := covered
        fold := fold
        coverageRoot := cp.root
        coverageMmrSize := cp.mmrSize
        coverageLogId := cp.logId
        coverageTimestamp := cp.timestamp
        coverageWitnesses := witnesses
        coverageWitnessed := !witnesses.isEmpty }

def AccountFold.toValue (fold : AccountFold) : Json :=
  .obj
    [("n_total", .int fold.nTotal),
     ("n_served", .int fold.nServed),
     ("n_requested", .int fold.nRequested),
     ("n_unknown_role", .int fold.nUnknownRole),
     ("n_conflict_role", .int fold.nConflictRole),
     ("n_served_confirmed", .int fold.nServedConfirmed)]

def AccountCapsule.toValue (definitionDigest : String) (account : AccountCapsule) : Json :=
  .obj
    [("schema", .str "mesh-account-capsule/1"),
     ("node_id", account.nodeId),
     ("selection", .obj
       [("from_entry", .int account.selectionFromEntry),
        ("to_entry", .int account.selectionToEntry),
        ("covered_entries", .int account.coveredEntries),
        ("note", .str ("witnessed range only: entries appended after the latest " ++
          "witnessed checkpoint are excluded by design"))]),
     ("derivation", .obj
       [("kind", .str "served_success_fold"),
        ("definition_digest", .str definitionDigest),
        ("fold", account.fold.toValue),
        ("note", .str ("plain counts over the selected range; an ACCOUNT, not a " ++
          "score. The relying party computes its own predicate."))]),
     ("coverage", .obj
       [("checkpoint_root", .str account.coverageRoot),
        ("mmr_size", .int account.coverageMmrSize),
        ("log_id", .str account.coverageLogId),
        ("timestamp", .str account.coverageTimestamp),
        ("witnesses", .arr (account.coverageWitnesses.map .str)),
        ("witnessed", .bool account.coverageWitnessed),
        ("note", .str ("cross-check handle: recompute the fold from the node's " ++
          "ledger, check the ledger against this root, confirm the " ++
          "root was witnessed"))]),
     ("sybil_residual", .str account.sybilResidual),
     ("not_a_score", .str ("This is an account of facts + a witness handle to verify them, " ++
       "not a score or routing recommendation. See example_predicate() " ++
       "for an EXAMPLE predicate only — never a default routing policy."))]

/-! ## What a node publishes -/

theorem buildAccountCapsule_take {leafCount : Int → Py ℕ} {cp : History.CheckpointLine} {n : ℕ}
    (hn : leafCount cp.mmrSize = .ok n) (nodeId : Json) (capsules : List Json)
    (sourceLog : SourceLog) :
    buildAccountCapsule leafCount nodeId (capsules.take n) (some cp) sourceLog =
      buildAccountCapsule leafCount nodeId capsules (some cp) sourceLog := by
  simp only [buildAccountCapsule, hn, Py.ok_bind, covered_take, selected_take]

/-- The two aggregates that a node publishes under a checkpoint, as values. -/
def publishedAggregates (D : Doubles) (leafCount : Int → Py ℕ) (digests : String × String)
    (nodeId : Json) (ledger : List Json) (cp : History.CheckpointLine) (sourceLog : SourceLog) :
    Py Json × Py Json :=
  (do (← buildServedSummary D leafCount nodeId ledger (some cp) sourceLog).toValue D digests.1,
    do return (← buildAccountCapsule leafCount nodeId ledger (some cp) sourceLog).toValue digests.2)

/-- Records behind the covered ones change neither aggregate. -/
theorem publishedAggregates_append (D : Doubles) (leafCount : Int → Py ℕ)
    (digests : String × String) (nodeId : Json) (ledger extra : List Json)
    (cp : History.CheckpointLine) (sourceLog : SourceLog) {n : ℕ}
    (hcovers : leafCount cp.mmrSize = .ok n) (hledger : n ≤ ledger.length) :
    buildServedSummary D leafCount nodeId (ledger ++ extra) (some cp) sourceLog =
        buildServedSummary D leafCount nodeId ledger (some cp) sourceLog ∧
      buildAccountCapsule leafCount nodeId (ledger ++ extra) (some cp) sourceLog =
        buildAccountCapsule leafCount nodeId ledger (some cp) sourceLog ∧
      publishedAggregates D leafCount digests nodeId (ledger ++ extra) cp sourceLog =
        publishedAggregates D leafCount digests nodeId ledger cp sourceLog := by
  have hpre : (ledger ++ extra).take n = ledger.take n := List.take_append_of_le_length hledger
  have hsummary : buildServedSummary D leafCount nodeId (ledger ++ extra) (some cp) sourceLog =
      buildServedSummary D leafCount nodeId ledger (some cp) sourceLog := by
    rw [← buildServedSummary_take D hcovers, hpre, buildServedSummary_take D hcovers]
  have haccount : buildAccountCapsule leafCount nodeId (ledger ++ extra) (some cp) sourceLog =
      buildAccountCapsule leafCount nodeId ledger (some cp) sourceLog := by
    rw [← buildAccountCapsule_take hcovers, hpre, buildAccountCapsule_take hcovers]
  refine ⟨hsummary, haccount, ?_⟩
  rw [publishedAggregates, publishedAggregates, hsummary, haccount]

def exactDoubles : Doubles where
  F := ℚ
  ofText := Sidecar.decimal
  ofInt n := some n
  ofRepr repr := (Sidecar.decimal repr).getD 0
  lt a b := decide (a < b)
  add a b := a + b
  sub a b := a - b
  mul a b := a * b
  cast n := n
  floor q := q.floor
  ceil q := q.ceil
  p50 := 1 / 2
  p95 := 19 / 20
  fixed3 := fixed3OfRat

def leafCountOfSize (size : Int) : Py ℕ := .ok (Library.MountainRange.leavesOfSize size.toNat)

def servedRecord (id model latency : String) : Json :=
  .obj
    [("capsule_id", .str id),
     ("effect", .obj [("status", .str "confirmed")]),
     ("model_attestation", .obj [("compute_attestation", .obj [("x-mesh-poc-v1", .obj
       [("role", .str "served"), ("latency_ms", .str latency),
        ("serving_provenance", .obj [("model_canonical_ref", .str model)])])])])]

def twoLeaves : History.CheckpointLine :=
  { mmrSize := 3, root := "r2", prevSize := 0, prevRoot := "", timestamp := "t", logId := "log",
    keyId := none, witnesses := [⟨"https://w", false⟩], checkpointCose := none }

theorem publishedAggregates_append_thirdRecord :
    let ledger := [servedRecord "aa" "m" "12.5", servedRecord "bb" "m" "7.25"]
    let extra := [servedRecord "cc" "other" "99.0"]
    let summary := buildServedSummary exactDoubles leafCountOfSize (.str "n") ledger
      (some twoLeaves) .sidecar
    (leafCountOfSize twoLeaves.mmrSize = .ok 2 ∧ 2 ≤ ledger.length ∧
      summary.toOption.map (fun s => (s.coveredEntries, s.byModel.map fun e =>
        (e.1, e.2.nServed, e.2.latencyMaxMs.map fixed3OfRat))) =
          some (2, [(.str "m", 2, some "12.500")])) ∧
    buildServedSummary exactDoubles leafCountOfSize (.str "n") (ledger ++ extra)
        (some twoLeaves) .sidecar = summary ∧
      buildAccountCapsule leafCountOfSize (.str "n") (ledger ++ extra) (some twoLeaves) .sidecar =
        buildAccountCapsule leafCountOfSize (.str "n") ledger (some twoLeaves) .sidecar ∧
      publishedAggregates exactDoubles leafCountOfSize ("d", "e") (.str "n") (ledger ++ extra)
          twoLeaves .sidecar =
        publishedAggregates exactDoubles leafCountOfSize ("d", "e") (.str "n") ledger twoLeaves
          .sidecar := by
  intro ledger extra summary
  refine ⟨⟨by decide +kernel, by decide, by decide +kernel⟩, ?_⟩
  exact publishedAggregates_append exactDoubles leafCountOfSize ("d", "e") (.str "n") ledger extra
    twoLeaves .sidecar (n := 2) (by decide +kernel) (by decide)

end CapsuleMesh.Account
