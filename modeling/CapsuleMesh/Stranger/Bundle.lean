import Mathlib.Data.List.Infix
import CapsuleMesh.JoinCard.Card

/-!
# A disclosed bundle under a stranger's eyes

`stranger_verify_bundle.py`, with what it takes of `bilateral_demo.py`,
`capsule_sidecar.py` and `advertisement.py`.  Each capsule of a ledger directory is reported
with one line on its detached signed statement, and whether it counts as verified is read
off the text of that line.
-/

namespace CapsuleMesh.Stranger

open Python JoinCard

/-! ## Statements and keys -/

/-- `report.payload`. -/
structure Payload where
  capsuleId : Option String

/-- What `verify_transparent` reports; `None` is a signature that it did not look at. -/
structure Report where
  signatureVerified : Option Bool
  ok : Bool
  authenticatedCapsuleId : Option String
  payload : Option Payload

def authenticatedCapsuleId (report : Report) : Option String :=
  match report.authenticatedCapsuleId, report.payload with
  | some id, _ => some id
  | none, some payload => payload.capsuleId
  | none, none => none

structure Finding where
  check : Option ℕ := none
  code : String
  detail : String
  severity : String

structure VerificationResult where
  ok : Bool
  findings : List Finding

structure ClientAck where
  actionCapsuleId : String
  requestNonce : String
  ackBytes : Bytes
  sig : Bytes
  publicKeyPem : Bytes

/-- The packages that both verifiers call.  `verify_transparent` raises the two errors that
they catch, with these texts; `verify_store` has one result for each record. -/
structure Tools where
  verifyStore : List Json → List VerificationResult
  verifyTransparent : (statementPath issuerKeyPath : String) → Except String Report
  verifyCapsuleSignature : Json → Bool
  ackSignature : ClientAck → Bool
  text : JoinCard.Tools

/-- A ledger directory: its capsules, the files that it has, and the public keys in it in
sorted order. -/
structure BundleDir where
  path : String
  parent : String
  records : List Json
  archived : List Json
  isStoreLedger : Bool
  pathExists : String → Bool
  pubKeys : List String

def BundleDir.siblingKey (dir : BundleDir) : String := dir.parent ++ "/keys/node-key.pub.pem"

/-- `str(value)`. -/
def pyStr : Json → String
  | .str s => s
  | value => value.pyRepr

def BundleDir.statementPath (dir : BundleDir) (capsuleId : Json) : String :=
  dir.path ++ "/signed-statements/" ++ pyStr capsuleId ++ ".cose"

/-- `_issuer_key_for` of the bundle verifier. -/
def issuerKeyFor (dir : BundleDir) (issuerKey : Option String) : Option String :=
  match issuerKey with
  | some key => some key
  | none =>
      if dir.pathExists dir.siblingKey then some dir.siblingKey
      else if dir.pathExists (dir.path ++ "/node-key.pub.pem") then
        some (dir.path ++ "/node-key.pub.pem")
      else dir.pubKeys.head?

def pyBool (b : Bool) : String := if b then "True" else "False"

def pyBool? (b : Option Bool) : String := (b.map pyBool).getD "None"

def noSignatureText (capsuleId : Json) : String :=
  "NO SIGNATURE: no signed-statements/" ++ (pyStr capsuleId ++
    (".cose found for this capsule -- absence of a signed statement is not evidence of " ++
      "anything; a capsule with no signature at all can never read PASS"))

def unverifiedText : String :=
  "UNVERIFIED: signed statement present but no issuer pubkey found (pass --issuer-key, or " ++
    "put node-key.pub.pem in the bundle or a sibling keys/ dir) — signature NOT checked"

def subjectMismatchText (capsuleId : Json) (authenticatedId : String) : String :=
  "SUBJECT MISMATCH: statement at signed-statements/" ++ (pyStr capsuleId ++
    (".cose is validly signed, but authenticates capsule_id=" ++ authenticatedId ++ " -- NOT " ++
      pyStr capsuleId ++ ". Signed over a different capsule's bytes, filed under (or renamed " ++
      "to) this one's filename."))

def reportText (report : Report) : String :=
  "transparent verify: signature_verified=" ++ pyBool? report.signatureVerified ++ " ok=" ++
    pyBool report.ok

/-- The id that a report authenticates, where it is another than this one. -/
def otherId (report : Report) (capsuleId : Json) : Option String :=
  (authenticatedCapsuleId report).filter fun id => decide (capsuleId.str? ≠ some id)

def transparentCheck (T : Tools) (dir : BundleDir) (capsuleId : Json) (issuerKey : Option String) :
    String :=
  if !dir.pathExists (dir.statementPath capsuleId) then noSignatureText capsuleId
  else
    match issuerKey with
    | none => unverifiedText
    | some key =>
        match T.verifyTransparent (dir.statementPath capsuleId) key with
        | .error exc => "transparent verify error: " ++ exc
        | .ok report =>
          match report.signatureVerified, otherId report capsuleId with
          | some true, some authenticatedId => subjectMismatchText capsuleId authenticatedId
          | _, _ => reportText report

/-! ## The rung -/

def getCrossParty (capsule : Json) : Py Json := do
  let ca ← computeAttestationOf capsule
  ((← ca.get "x-mesh-poc-v1").or (.obj [])).get "cross_party"

def verifyClientAck (T : Tools) (ack : ClientAck) (capsuleId correlator : Json) : Bool :=
  T.ackSignature ack && decide (capsuleId.str? = some ack.actionCapsuleId) &&
    (correlator.isNull || decide (correlator.str? = some ack.requestNonce))

def deriveCrossPartyRung (crossParty : Json) (hasVerifiedAck : Bool) : Py String := do
  if !crossParty.truthy then return "unilateral_fallback"
  else if !(← crossParty.get "initiator_ref").truthy then return "unilateral_fallback"
  else if hasVerifiedAck then return "full_bilateral"
  else return "acknowledged_receipt"

def IDENTITY_LIMITATION_CAVEAT : String :=
  "non-conformant-demo-key: self-generated Ed25519 key; not bound to any third-party-issued " ++
    "credential or trusted root; draft-mih-agent-bilateral-attestation-01 §4.1 states " ++
    "first-use acceptance MUST NOT be treated as conformant bilateral attestation"

def identityLimitationForRung (rung : String) : Option String :=
  if rung = "full_bilateral" then some IDENTITY_LIMITATION_CAVEAT else none

/-- `acks_by_capsule_id.get(capsule_id)`. -/
def ackFor (acks : List (String × ClientAck)) (capsuleId : Json) : Py (Option ClientAck) := do
  let _ ← capsuleId.key
  return capsuleId.str?.bind fun id => acks.lookup id

/-- The rung of a record, with the acknowledgement that was disclosed for it. -/
def rungOf (T : Tools) (acks : List (String × ClientAck)) (record capsuleId : Json) :
    Py String := do
  let crossParty ← getCrossParty record
  let ackOk ← match ← ackFor acks capsuleId with
    | none => pure false
    | some ack => do
        let correlator ← if crossParty.truthy then crossParty.get "correlator" else pure .null
        pure (verifyClientAck T ack capsuleId correlator)
  deriveCrossPartyRung crossParty ackOk

/-! ## Advertised and served -/

/-- The facts that are reconciled, in the order of the report. -/
def RECONCILED_FIELDS : List String :=
  ["model_id", "model_canonical_ref", "quantization", "hardware_gpu", "hardware_vram_bytes",
   "hardware_is_soc"]

structure Advertisement where
  nodeId : Json
  /-- The advertised facts, in the order of `RECONCILED_FIELDS`. -/
  facts : List Json

def Advertisement.fromValue (value : Json) : Py Advertisement := do
  let hw := (← value.get "hardware").or (.obj [])
  return {
    nodeId := ← value.getD "node_id" (.str "")
    facts :=
      [← value.get "model_id", ← value.get "model_canonical_ref", ← value.get "quantization",
       ← hw.get "gpu", ← hw.get "vram_bytes", ← hw.get "is_soc"] }

/-- `first or second`, where the second is looked up only when it is needed. -/
def orGet (first : Py Json) (second : Py Json) : Py Json := do
  let value ← first
  if value.truthy then return value else second

/-- `first if first is not None else second`. -/
def ifNotNone (first : Py Json) (second : Py Json) : Py Json := do
  let value ← first
  if value.isNull then second else return value

/-- `clean`; `none` is `_SELF_REPORTED_ABSENT`. -/
def cleanServed : Json → Option Json
  | .str s => if isUnknown s then none else some (.str s)
  | value => some value

def servedFacts (servingProvenance : Json) : Py (List (Option Json)) := do
  let sp := servingProvenance.or (.obj [])
  let model := (← sp.get "model").or (.obj [])
  let hw := (← sp.get "hardware").or (.obj [])
  let facts ← [
    orGet (sp.get "model_id") (model.get "model_id"),
    orGet (sp.get "model_canonical_ref") (model.get "canonical_ref"),
    sp.get "quantization",
    orGet (hw.get "gpu") (sp.get "gpu"),
    ifNotNone (hw.get "vram_bytes") (sp.get "vram_bytes"),
    ifNotNone (hw.get "is_soc") (sp.get "is_soc")].mapM id
  return facts.map cleanServed

inductive FieldVerdict where
  | isMatch
  | mismatch
  | notAdvertised
  | absent
  | selfReportedAbsent
deriving DecidableEq

def reconcileField (T : Tools) (advertised : Json) (served : Option Json) : FieldVerdict :=
  match served with
  | none => .selfReportedAbsent
  | some served =>
      if served.isNull then .absent
      else if advertised.isNull then .notAdvertised
      else if valuesEqual T.text advertised served then .isMatch
      else .mismatch

/-- What `verify_bundle` reads of `reconcile_advertised_vs_served`. -/
structure Reconciliation where
  overall : String
  mismatches : List String

def reconcileAdvertisedVsServed (T : Tools) (advertisement : Option Advertisement)
    (servingProvenance : Json) : Py Reconciliation := do
  match advertisement with
  | none =>
      let _ ← (servingProvenance.or (.obj [])).get "served_by_node_id"
      return ⟨"advertisement_absent", []⟩
  | some ad =>
      let served ← servedFacts servingProvenance
      let servedNodeId ← (servingProvenance.or (.obj [])).get "served_by_node_id"
      let verdicts := List.zipWith (reconcileField T) ad.facts served
      let fieldMismatches := ((RECONCILED_FIELDS.zip verdicts).filter fun field =>
        field.2 = .mismatch).map Prod.fst
      let nodeMismatch := ad.nodeId.truthy && servedNodeId.truthy && !ad.nodeId.pyEq servedNodeId
      let mismatches := fieldMismatches ++ if nodeMismatch then ["node_id"] else []
      let hasNotAdvertised := verdicts.contains .notAdvertised
      let overall :=
        if !(verdicts.contains .isMatch || verdicts.contains .mismatch || hasNotAdvertised) then
          "no_served_facts"
        else if !mismatches.isEmpty then "mismatch"
        else if hasNotAdvertised then "partial_match"
        else "match"
      return ⟨overall, mismatches⟩

/-! ## The report -/

/-- `_poc_block`, which does not forgive a null on the way. -/
def pocBlock (capsule : Json) : Py Json := do
  let ma ← capsule.getD "model_attestation" (.obj [])
  let ca ← ma.getD "compute_attestation" (.obj [])
  return (← ca.getD "x-mesh-poc-v1" (.obj [])).or (.obj [])

def provenanceLines (record : Json) : Py (List String) := do
  let prov ← (← pocBlock record).get "serving_provenance"
  if !prov.truthy then return []
  else
    let model ← (← prov.getD "model" (.obj [])).get "canonical_ref"
    let quant ← prov.get "quantization"
    let gpu ← (← prov.getD "hardware" (.obj [])).get "gpu"
    let servedBy ← prov.get "served_by_node_id"
    let tokens ← (← prov.getD "usage" (.obj [])).get "total_tokens"
    return ["    serving_provenance: model=" ++ model.pyRepr ++ " quant=" ++ quant.pyRepr ++
      " gpu=" ++ gpu.pyRepr ++ " served_by=" ++ servedBy.pyRepr ++ " tokens=" ++ tokens.pyRepr]

def advertisedLine (T : Tools) (record : Json) : Py String := do
  let poc ← pocBlock record
  let advertisement ← poc.get "advertisement"
  let ad ← if advertisement.truthy then some <$> Advertisement.fromValue advertisement
    else pure none
  let recon ← reconcileAdvertisedVsServed T ad (← poc.get "serving_provenance")
  if recon.overall = "mismatch" then
    return "    advertised_vs_served: MISMATCH — broken promise on " ++
      ", ".intercalate recon.mismatches ++
      " (advertised != served; attributable, offline-checkable)"
  else return "    advertised_vs_served: " ++ recon.overall

/-- `needle in text`. -/
def isIn (needle text : String) : Bool := decide (needle.toList <:+: text.toList)

def startsWith (text start : String) : Bool := decide (start.toList <+: text.toList)

def isUnverifiedLine (line : String) : Bool := startsWith line "UNVERIFIED:"

/-- The texts that make a capsule fail. -/
def isFailureLine (line : String) : Bool :=
  startsWith line "NO SIGNATURE:" || startsWith line "SUBJECT MISMATCH:" ||
    isIn "signature_verified=False" line || isIn "error" line

structure BundleEntry where
  capsuleId : Json
  ok : Bool
  unverified : Bool
  lines : List String

/-- One turn of the loop of `verify_bundle`. -/
def bundleEntry (T : Tools) (dir : BundleDir) (acks : List (String × ClientAck))
    (issuerKey : Option String) (record : Json) (result : VerificationResult) :
    Py BundleEntry := do
  let capsuleId ← record.getD "capsule_id" (.str "<missing>")
  let rung ← rungOf T acks record capsuleId
  let transparentLine := transparentCheck T dir capsuleId issuerKey
  let unverified := isUnverifiedLine transparentLine
  let ok := result.ok && !unverified && !isFailureLine transparentLine
  let findings := if !ok && !unverified then
      result.findings.map fun f =>
        "    finding: " ++ ((f.check.map toString).getD "None") ++ " -- " ++ f.detail
    else []
  let caveat := (identityLimitationForRung rung).toList.map ("    identity_limitation: " ++ ·)
  let provenance ← provenanceLines record
  let advertised ← advertisedLine T record
  return {
    capsuleId := capsuleId
    ok := ok
    unverified := unverified
    lines := ["capsule " ++ pyStr capsuleId ++ ": verify.ok=" ++ pyBool ok ++
        " cross_party_rung=" ++ rung] ++ findings ++ caveat ++ ["    " ++ transparentLine] ++
      provenance ++ [advertised] }

structure BundleReport where
  allOk : Bool
  anyUnverified : Bool
  lines : List String
  entries : List BundleEntry

def emptyBundleText (dir : BundleDir) : String :=
  if !dir.archived.isEmpty then
    "every segment at " ++ dir.path ++ " is archived -- mount to view, nothing readable to verify"
  else if dir.isStoreLedger then
    "ledger store at " ++ dir.path ++ " is empty -- no exchange recorded"
  else "NO capsules.jsonl at " ++ dir.path ++ " -- nothing to verify"

/-- `verify_bundle`, with the entries that its lines were made of. -/
def verifyBundle (T : Tools) (dir : BundleDir) (acks : List (String × ClientAck))
    (issuerKey : Option String) : Py BundleReport :=
  if dir.records.isEmpty then .ok ⟨false, false, [emptyBundleText dir], []⟩
  else do
    let key := issuerKeyFor dir issuerKey
    let entries ← (dir.records.zip (T.verifyStore dir.records)).mapM fun pair =>
      bundleEntry T dir acks key pair.1 pair.2
    return {
      allOk := entries.all BundleEntry.ok
      anyUnverified := entries.any BundleEntry.unverified
      lines := entries.flatMap BundleEntry.lines
      entries := entries }

end CapsuleMesh.Stranger
