import CapsuleMesh.Coordinator.BundleFlow

/-!
# The coordinator's command line

`capsule_coordinator_verify.py`.  The command gathers the bundles, has the receipt verified, prints
four grades of each green stage and exits with a code that `summarize` reads off the stages.
-/

namespace CapsuleMesh.Coordinator

open Python Lifecycle

/-! ## The headline -/

namespace StageVerdict

def present (stage : StageVerdict) : Bool := stage.claimedBundle.pyEq (.str "present")

end StageVerdict

namespace ReceiptVerdict

variable (verdict : ReceiptVerdict)

def presentCount : ℕ := verdict.stages.countP StageVerdict.present

def greenCount : ℕ := verdict.stages.countP fun s => s.status = .green

def mismatchCount : ℕ := verdict.stages.countP fun s => s.status = .mismatch

end ReceiptVerdict

def summarize (verdict : ReceiptVerdict) : String × ℕ :=
  if 0 < verdict.mismatchCount then
    ("MISMATCH DETECTED -- " ++ toString verdict.mismatchCount ++ " of " ++
      toString verdict.presentCount ++ " present stage(s) failed binding", 1)
  else if verdict.presentCount = 0 then ("NO STAGES PRESENT -- nothing to verify", 2)
  else if verdict.greenCount < verdict.presentCount then
    ("INCOMPLETE -- " ++ toString (verdict.presentCount - verdict.greenCount) ++ " of " ++
      toString verdict.presentCount ++
      " present stage(s) not disclosed to this verifier (gap, not a failure)", 2)
  else
    ("ALL GREEN -- " ++ toString verdict.greenCount ++ "/" ++ toString verdict.presentCount ++
      " present stages verified", 0)

/-! ## The grades of a stage -/

/-- How `datetime.fromisoformat(value)` ends, with the age of the time that it returns: in
microseconds, and as `int(age_seconds)`. -/
inductive MadeAt where
  | malformed
  | naive
  | aware (micros wholeSeconds : Int)

/-- `CheckpointRecord(**kwargs)`, as far as it is read. -/
structure CheckpointRecord where
  mmrSize : Json
  timestamp : Json

/-- The checkpoint package, the clock, and the texts of the exceptions that are printed.  Of a
`WitnessRecord(**w)` only the `ts_url` is read. -/
structure GradeTools where
  checks : Checks
  clock : Int
  witnessRecord : Json → Py Json
  checkpointRecord : List (String × Json) → Py CheckpointRecord
  leafCount : Json → Py Int
  madeAt : String → MadeAt
  exceptionText : PyError → String
  recordErrorText : RecordError → String

def gradeCrossPartyRung (T : GradeTools) (bundle : StageBundle) : Py String :=
  match verifyRecordBytes T.checks ⟨true, true, true, none, [], T.clock⟩
      (capsuleToBytes bundle.stageCapsule) with
  | .ok verdict =>
      .ok (verdict.crossPartyRung.name ++
        ((verdict.rungResult.identityLimitation.map fun caveat =>
          "\n        caveat: " ++ caveat).getD ""))
  | .error (.python e) => .error e
  | .error exc => .ok ("n/a (" ++ T.recordErrorText exc ++ ")")

def runtimeDetail (runtime : Json) : Py String :=
  match runtime with
  | .obj _ => do
      let name ← runtime.getD "name" (.str "unknown")
      let digest ← runtime.get "runtime_digest"
      let measurementClass ← runtime.get "measurement_class"
      return if digest.isNull then name.pyStr
        else digest.pyStr ++ ":" ++ measurementClass.pyStr ++ ":" ++ name.pyStr
  | runtime => .ok runtime.pyStr

def gradeRuntime (bundle : StageBundle) : Py String := do
  let runtime ← (← computeAttestationOf bundle.stageCapsule).get "runtime"
  if !runtime.truthy then return "absent (no compute_attestation.runtime in this record)"
  else return "self-attested (unverified): " ++ (← runtimeDetail runtime)

/-- `", ".join(sorted({w.ts_url for w in cp.witnesses}))`. -/
def witnessUrls (urls : List Json) : Py String := do
  let texts ← urls.mapM Json.toStr
  return ", ".intercalate (texts.dedup.insertionSort (· ≤ ·))

/-- `describe_witness_state`, of a checkpoint that there is. -/
def describeWitnessState (T : GradeTools) (cp : CheckpointRecord) (witnesses : List Json)
    (currentEntries : Int) : Py String := do
  let checkpointedEntries ← T.leafCount cp.mmrSize
  let lag := currentEntries - checkpointedEntries
  let lagNote := if lag = 0 then "" else
    " -- " ++ toString lag ++ " more entr" ++ (if lag = 1 then "y" else "ies") ++ " appended since"
  if witnesses.isEmpty then
    return "self-checkpointed up to entry " ++ toString checkpointedEntries ++ " at " ++
      cp.timestamp.pyStr ++ ", NOT independently witnessed" ++ lagNote
  else
    return "witnessed up to entry " ++ toString checkpointedEntries ++ " at " ++
      cp.timestamp.pyStr ++ " by " ++ (← witnessUrls witnesses) ++ lagNote ++
      (if lag = 0 then "" else ", not yet witnessed")

/-- The body of the `try` block of `grade_log_integrity`. -/
def readCheckpoint (T : GradeTools) (cpDict : Json) : Py (CheckpointRecord × List Json × Int) := do
  let witnesses ← (← (← cpDict.getD "witnesses" (.arr [])).iter).mapM T.witnessRecord
  let members := match cpDict with
    | .obj members => members
    | _ => []
  let cp ← T.checkpointRecord members
  return (cp, witnesses, ← T.leafCount cp.mmrSize)

def gradeLogIntegrity (T : GradeTools) (bundle : StageBundle) : Py String := do
  let cpDict ← match bundle.inclusionProof.or (.obj []) with
    | .obj members => pure ((members.lookup "checkpoint").getD .null)
    | _ => pure .null
  if !cpDict.truthy then return "unwitnessed (no inclusion proof disclosed for this stage)"
  else
    match readCheckpoint T cpDict with
    | .ok (cp, witnesses, currentEntries) => describeWitnessState T cp witnesses currentEntries
    | .error e =>
        if e = .typeError ∨ e = .keyError then
          return "n/a (disclosed inclusion proof carries a malformed checkpoint record: " ++
            T.exceptionText e ++ ")"
        else throw e

/-- `value.replace("Z", "+00:00")`. -/
def replaceZ (value : String) : String :=
  String.ofList (value.toList.flatMap fun c => if c = 'Z' then "+00:00".toList else [c])

def ageBucket (micros : Int) : String :=
  if micros < 0 then "n/a"
  else if micros < 300 * 1000000 then "fresh (<5m)"
  else if micros < 3600 * 1000000 then "aging (<1h)"
  else if micros < 86400 * 1000000 then "stale (<1d)"
  else "stale (>=1d)"

def gradeFreshness (T : GradeTools) (bundle : StageBundle) : Py String := do
  let ts ← bundle.stageCapsule.get "timestamp"
  if !ts.truthy then return "n/a (record carries no timestamp)"
  else
    match ts with
    | .str value =>
        match T.madeAt (replaceZ value) with
        | .malformed => return "n/a (unparseable timestamp " ++ pyRepr value ++ ")"
        | .naive => throw .typeError
        | .aware micros wholeSeconds =>
          return ageBucket micros ++ " -- " ++ toString wholeSeconds ++
            "s since producer's own committed timestamp " ++ value ++
            " (self-reported, not witnessed)"
    | _ => throw .attributeError

/-- The four lines below a green stage. -/
def grades (T : GradeTools) (bundle : StageBundle) : Py (List String) := do
  return [
    "        cross_party_rung : " ++ (← gradeCrossPartyRung T bundle),
    "        runtime          : " ++ (← gradeRuntime bundle),
    "        log_integrity    : " ++ (← gradeLogIntegrity T bundle),
    "        freshness        : " ++ (← gradeFreshness T bundle) ++ "\n"]

/-! ## The report -/

def StageStatus.icon : StageStatus → String
  | .green => "PASS"
  | .gap => "GAP "
  | .mismatch => "FAIL"

def stageLines (T : GradeTools) (bundles : Dict String StageBundle) (stage : StageVerdict) :
    Py (List String) := do
  let line := "[" ++ stage.status.icon ++ "] seq " ++ stage.seq.pyStr ++ "  " ++
    stage.hopId.pyStr ++ "  claimed_bundle=" ++ stage.claimedBundle.pyStr ++ "  " ++ stage.detail
  if stage.status ≠ .green then
    return [line, "        grades: n/a -- stage did not verify green, not graded further\n"]
  else
    match disclosedTo bundles stage.hopId with
    | some (_, bundle) => return line :: (← grades T bundle)
    | none => throw .keyError

def printReport (T : GradeTools) (verdict : ReceiptVerdict) (bundles : Dict String StageBundle) :
    Py (List String) := do
  let order ← verdict.orderedHops.mapM Json.toStr
  let stages ← sortedByKey (verdict.stages.map fun s => (s.seq, s))
  let lines ← stages.mapM fun s => stageLines T bundles s.2
  return ["run_id: " ++ verdict.runId.pyStr, "order:  " ++ " -> ".intercalate order,
      "signer: UNVERIFIED (Class-1 payload verify only -- see verify_coordinator_receipt docstring)\n"]
    ++ lines.flatten ++ ["=== " ++ (summarize verdict).1 ++ " ==="] ++
    verdict.errors.map ("error: " ++ ·)

/-! ## The command -/

def stageBundleFromDict (data : Json) : Py StageBundle := do
  return {
    hopId := ← data.item "hop_id"
    stageCapsule := ← data.item "stage_capsule"
    inclusionProof := ← data.get "inclusion_proof" }

/-- Files and endpoints, as JSON; an endpoint has nothing where it answers with 404. -/
structure Sources where
  file : String → Py Json
  endpoint : String → Py (Option Json)

/-- `base_url.rstrip("/")`. -/
def stripSlashes (url : String) : String :=
  String.ofList (url.toList.reverse.dropWhile (· = '/')).reverse

def fetchBundle (sources : Sources) (baseUrl : String) (runId : Json) (hopId : String) :
    Py (Option StageBundle) := do
  match ← sources.endpoint (stripSlashes baseUrl ++ "/bundle/" ++ runId.pyStr ++ "/" ++ hopId) with
  | none => return none
  | some data => return some (← stageBundleFromDict data)

/-- The flags, as `_parse_kv_args` returns them. -/
structure Args where
  receipt : String
  bundle : List (String × String)
  bundleUrl : List (String × String)

def addLocal (sources : Sources) (bundles : Dict String StageBundle) (arg : String × String) :
    Py (Dict String StageBundle) := do
  return bundles.insert arg.1 (← stageBundleFromDict (← sources.file arg.2))

def addFetched (sources : Sources) (runId : Json) (bundles : Dict String StageBundle)
    (arg : String × String) : Py (Dict String StageBundle) := do
  match ← fetchBundle sources arg.2 runId arg.1 with
  | none => return bundles
  | some bundle => return bundles.insert arg.1 bundle

/-- The receipt and the bundles that the command gathers. -/
def gather (sources : Sources) (args : Args) : Py (Json × Dict String StageBundle) := do
  let receipt ← sources.file args.receipt
  let runId ← (← readReceiptBlock receipt).getD "run_id" (.str "")
  let bundles ← args.bundle.foldlM (addLocal sources) ∅
  return (receipt, ← args.bundleUrl.foldlM (addFetched sources runId) bundles)

def main (sha256 : Sha256) (verify : Json → Py VerifyResult) (T : GradeTools) (sources : Sources)
    (args : Args) : Py ℕ := do
  let (receipt, bundles) ← gather sources args
  let verdict ← verifyCoordinatorReceipt sha256 verify receipt bundles
  let _ ← printReport T verdict bundles
  return (summarize verdict).2

end CapsuleMesh.Coordinator
