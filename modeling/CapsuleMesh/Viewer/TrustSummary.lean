import CapsuleMesh.Stranger.Agreement
import CapsuleMesh.Viewer.Exchange
import CapsuleMesh.Viewer.MachineView

/-!
# The trust summary of a history

`compute_gradient`, `honest_gaps` and `build_trust_summary` of `trust_summary.py`.  The records are
verified in order; the results are then looked up by the id that each record claims, and one
checkpoint counts for every row.
-/

namespace CapsuleMesh.Viewer

open Python Library Stranger

/-! ## The headline -/

inductive GradientLevel where
  | unknown
  | earnedOverN
  | anchored
deriving DecidableEq

structure Gradient where
  level : GradientLevel
  levelLabel : String
  nExchanges : ℕ
  nVerifiable : ℕ
  nVerifiedInBrowser : ℕ
  nWitnessed : ℕ
  nSelfAttested : ℕ
  anchored : Bool

/-- `sum(1 for e in exchanges if e["chip"]["kind"] == kind)`. -/
def countKind (exchanges : List Exchange) (kind : ChipKind) : ℕ :=
  exchanges.countP fun e => e.chip.kind = kind

def computeGradient (exchanges : List Exchange) (anchored : Bool) : Gradient :=
  let n := exchanges.length
  let nVerified := countKind exchanges .verified
  let nWitnessed := countKind exchanges .witnessed
  let nVerifiable := nVerified + nWitnessed
  let (level, label) : GradientLevel × String :=
    if anchored && decide (0 < nWitnessed) then
      (.anchored, "Anchored — " ++ toString nWitnessed ++ " of " ++ toString n ++
        " exchange(s) witnessed to a public checkpoint " ++
        "this node does not control, and offline-verifiable here. Tamper-evident.")
    else if 0 < nVerifiable then
      (.earnedOverN, "Earned over " ++ toString nVerifiable ++
        " exchange(s) — a portable track record you can recompute " ++
        "in this browser. Not yet witnessed to a public checkpoint (no anchor in this view).")
    else
      (.unknown, "Unknown — no exchange in this view is offline-verifiable yet. " ++
        "Trust starts at unknown and climbs on evidence.")
  { level := level
    levelLabel := label
    nExchanges := n
    nVerifiable := nVerifiable
    nVerifiedInBrowser := nVerified
    nWitnessed := nWitnessed
    nSelfAttested := countKind exchanges .selfAttested
    anchored := anchored && decide (0 < nWitnessed) }

def honestGaps (exchanges : List Exchange) (gradient : Gradient) : List String :=
  let nUnknownCp := exchanges.countP fun e => e.counterparty = "unknown"
  (if 0 < nUnknownCp then
    ["Who asked is self-attested on " ++ toString nUnknownCp ++ " of " ++
      toString exchanges.length ++ " exchange(s) " ++
      "(no bilateral counterparty attestation) — identity is not proven."] else []) ++
  (if !gradient.anchored then
    ["No public-witness checkpoint in this view — the record is provider-signed and " ++
      "offline-verifiable, but not yet anchored (not tamper-evident against equivocation)."]
    else []) ++
  (if 0 < gradient.nSelfAttested then
    [toString gradient.nSelfAttested ++
      " exchange(s) are self-attested only — the provider's " ++
      "signed claim, not confirmed by an in-browser recompute in this view."] else []) ++
  ["Hardware identity is not hardware-rooted (no TEE attestation); the signing key is " ++
      "self-attested, not rooted to a manufacturer.",
    "This is a metered history (input/output tokens), not a priced one — it carries no " ++
      "currency or rate by design."]

/-! ## The summary -/

def resolveIssuerKey (ledgerDir : Option BundleDir) (issuerKey : Option String) : Option String :=
  match issuerKey, ledgerDir with
  | some key, _ => some key
  | none, none => none
  | none, some dir =>
      let beside := dir.path ++ "/node-key.pub.pem"
      if dir.pathExists beside then some beside else none

/-- The arguments beside the records.  A checkpoint that is `None` is `null`. -/
structure SummaryOptions where
  sourceLog : String
  witnessCheckpoint : Json
  operator : Option String
  ledgerDir : Option BundleDir
  issuerKey : Option String

/-- `verify_results_for` has one result for each record.  `storeIds` are the `capsule_id`s that
`verify_store` puts on its results, where it puts any. -/
def summaryResults (T : Tools) (storeIds : List Json → List Json) (records : List Json)
    (options : SummaryOptions) : Option (List Result) :=
  (verifyResultsFor T records options.ledgerDir
    (resolveIssuerKey options.ledgerDir options.issuerKey)).map fun results =>
      results.zipIdx.map fun r => ⟨((storeIds records)[r.2]?).getD .null, r.1.ok⟩

/-- One turn of the loop: `vmap.get(cid)`, and the row. -/
def summaryExchange (vmap : List (Key × Bool)) (options : SummaryOptions) (record : Json) :
    Py Exchange := do
  let cid ← (← record.getD "capsule_id" (.str "")).key
  buildExchange record options.sourceLog (lastWritten vmap cid) (!options.witnessCheckpoint.isNull)

/-- The rows in the order of the records. -/
def summaryExchanges (T : Tools) (storeIds : List Json → List Json) (records : List Json)
    (options : SummaryOptions) : Py (List Exchange) := do
  let vmap ← verifyOkMap records (summaryResults T storeIds records options)
  records.mapM (summaryExchange vmap options)

/-- `exchanges.sort(key=..., reverse=True)`. -/
def newestFirst (exchanges : List Exchange) : Py (List Exchange) := do
  let sorted ← sortedByKey (exchanges.reverse.map fun e => (e.timestamp.or (.str ""), e))
  return (sorted.map Prod.snd).reverse

structure TrustSummary where
  viewVersion : String
  operator : Json
  nodeId : Json
  sourceLog : String
  exchanges : List Exchange
  gradient : Gradient
  honestGaps : List String

/-- `records[0].get("operator") if records else None`. -/
def firstOperator : List Json → Py Json
  | [] => .ok .null
  | record :: _ => record.get "operator"

def buildTrustSummary (T : Tools) (storeIds : List Json → List Json) (records : List Json)
    (options : SummaryOptions) : Py TrustSummary := do
  let inOrder ← summaryExchanges T storeIds records options
  let exchanges ← newestFirst inOrder
  let gradient := computeGradient exchanges (!options.witnessCheckpoint.isNull)
  let ofFirst ← firstOperator records
  return {
    viewVersion := "trust-summary-1"
    operator := (Json.ofStr? options.operator).or ofFirst
    nodeId := inOrder.foldl (fun nodeId e => nodeId.or e.nodeId) .null
    sourceLog := options.sourceLog
    exchanges := exchanges
    gradient := gradient
    honestGaps := Viewer.honestGaps exchanges gradient }

end CapsuleMesh.Viewer
