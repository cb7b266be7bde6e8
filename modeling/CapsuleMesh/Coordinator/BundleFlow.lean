import CapsuleMesh.Coordinator.Receipt
import CapsuleMesh.Digest

/-!
# What a receipt's green stages stand on

`verify_coordinator_receipt` of `mesh_coordinator_bundle_flow.py`.  The receipt and the bundles come
from an untrusted party.  A stage is green when its record has the digest that the receipt commits
to, verifies, and names its hop and its run; a ledger of the digests seen keeps one record from
standing for two hops.
-/

namespace CapsuleMesh.Coordinator

open Python Lifecycle

/-- What `agent_action_capsule.verify.verify` returns. -/
structure VerifyResult where
  ok : Bool
  errors : List String

inductive StageStatus where
  | green
  | gap
  | mismatch
deriving DecidableEq

structure StageVerdict where
  hopId : Json
  seq : Json
  claimedBundle : Json
  status : StageStatus
  detail : String

structure ReceiptVerdict where
  ok : Bool
  runId : Json
  orderedHops : List Json
  signerVerified : Bool := false
  stages : List StageVerdict
  errors : List String

/-- `capsule["model_attestation"]["compute_attestation"][key]`. -/
def attested (capsule : Json) (key : String) : Py Json := do
  (← (← capsule.item "model_attestation").item "compute_attestation").item key

/-- The hop and the run that a record's own sealed block names. -/
def innerRecordIdentity (stageCapsule : Json) : Json × Json :=
  match attested stageCapsule "x-mesh-lifecycle-v1" with
  | .ok (.obj block) =>
      ((block.lookup "hop_id").getD .null, (block.lookup "exchange_id").getD .null)
  | _ => (.null, .null)

def readReceiptBlock (receiptCapsule : Json) : Py Json := do
  let block ← match attested receiptCapsule "x-mesh-coordinator-receipt-v1" with
    | .ok block => .ok block
    | .error _ => throw (.valueError "receipt is missing x-mesh-coordinator-receipt-v1 block")
  if !(← block.get "kind").pyEq (.str "mesh-coordinator-receipt") then
    throw (.valueError "not a mesh-coordinator-receipt")
  return block

/-- The digests and the inner identities of the green stages so far, with their hops. -/
structure Seen where
  digests : Dict String String
  innerIds : Dict (Key × Key) String

def clip (text : String) : String := String.ofList (text.toList.take 16) ++ "…"

/-- The inner identity as the ledger keys it, where the record states both halves of it. -/
def innerKey (innerHop innerExch : Json) : Py (Option (Key × Key)) :=
  if innerExch.isNull || innerHop.isNull then .ok none
  else do return some (← innerExch.key, ← innerHop.key)

/-- What is wrong with a record that already stands for another hop. -/
def Seen.reuse (seen : Seen) (recomputed : String) (innerHop innerExch : Json) :
    Py (Option String) :=
  match seen.digests.lookup recomputed with
  | some prior => .ok (some ("same record digest " ++ clip recomputed ++ " already backs hop " ++
      pyRepr prior ++ " — one record cannot satisfy two distinct hops"))
  | none => do
      match (← innerKey innerHop innerExch).bind seen.innerIds.lookup with
      | some prior =>
        return some ("same inner record identity (exchange_id=" ++ innerExch.pyRepr ++
          ", hop_id=" ++ innerHop.pyRepr ++ ") already backs hop " ++ pyRepr prior ++
          " — one record cannot satisfy two distinct hops")
      | none => return none

section

variable (sha256 : Sha256) (verify : Json → Py VerifyResult)

/-- What is wrong with a bundle that was supplied for a hop. -/
def violation (runId committed : Json) (seen : Seen) (hop : String) (bundle : StageBundle) :
    Py (Option String) := do
  let recomputed := bundleDigest sha256 bundle
  if !(Json.str recomputed).pyEq committed then
    return some ("disclosed bytes digest " ++ clip recomputed ++ " != committed " ++
      clip committed.pyStr)
  let result ← verify bundle.stageCapsule
  if !result.ok then
    return some ("disclosed stage capsule failed AAC verification: " ++ reprTexts result.errors)
  if !bundle.hopId.pyEq (.str hop) then
    return some ("disclosed bundle envelope hop_id " ++ bundle.hopId.pyRepr ++ " != topology hop " ++
      pyRepr hop)
  let (innerHop, innerExch) := innerRecordIdentity bundle.stageCapsule
  if !innerHop.isNull && !innerHop.pyEq (.str hop) then
    return some ("inner record hop_id " ++ innerHop.pyRepr ++ " != topology hop " ++ pyRepr hop ++
      " (record is not this hop's record)")
  if !innerExch.isNull && runId.truthy && !innerExch.pyEq runId then
    return some ("inner record exchange_id " ++ innerExch.pyRepr ++ " != receipt run_id " ++
      runId.pyRepr ++ " (record is not from this run)")
  seen.reuse recomputed innerHop innerExch

def Seen.record (seen : Seen) (hop : String) (bundle : StageBundle) : Py Seen := do
  let (innerHop, innerExch) := innerRecordIdentity bundle.stageCapsule
  return {
    digests := seen.digests.insert (bundleDigest sha256 bundle) hop
    innerIds := match ← innerKey innerHop innerExch with
      | some key => seen.innerIds.insert key hop
      | none => seen.innerIds }

def greenDetail (hop : String) (bundle : StageBundle) : String :=
  "digest " ++ clip (bundleDigest sha256 bundle) ++ " matches, capsule verifies, bound to hop " ++ hop

/-- `disclosed_bundles.get(hop_id)`: the hops of the bundles are texts. -/
def disclosedTo (bundles : Dict String StageBundle) : Json → Option (String × StageBundle)
  | .str hop => (bundles.lookup hop).map fun bundle => (hop, bundle)
  | _ => none

variable (runId : Json) (index : Dict Key Json) (bundles : Dict String StageBundle)

/-- One turn of the loop, on a hop with its `seq`. -/
def judgeStage (seen : Seen) (topo : Json × Json) : Py (StageVerdict × Seen) := do
  let (seq, hopId) := topo
  match index.lookup (← hopId.key) with
  | none => return (⟨hopId, seq, .str "missing", .mismatch, "no stages[] entry for this hop"⟩, seen)
  | some stage =>
      let claimed ← stage.item "bundle"
      if !claimed.pyEq (.str "present") then
        return (⟨hopId, seq, claimed, .gap,
          "stage disclosed nothing (" ++ claimed.pyStr ++ ")"⟩, seen)
      let committed ← (← stage.getD "bundle_ref" (.obj [])).get "digest"
      match disclosedTo bundles hopId with
      | none => return (⟨hopId, seq, claimed, .gap,
          "receipt marks this stage present but no bundle was disclosed to the verifier"⟩, seen)
      | some (hop, bundle) =>
        match ← violation sha256 verify runId committed seen hop bundle with
        | some detail => return (⟨hopId, seq, claimed, .mismatch, detail⟩, seen)
        | none =>
          let seen ← seen.record sha256 hop bundle
          return (⟨hopId, seq, claimed, .green, greenDetail sha256 hop bundle⟩, seen)

def judgeStages (seen : Seen) : List (Json × Json) → Py (List StageVerdict)
  | [] => .ok []
  | topo :: topology => do
      let (verdict, seen) ← judgeStage sha256 verify runId index bundles seen topo
      return verdict :: (← judgeStages seen topology)

end

/-- The topology in the order of `seq`, each hop with it. -/
def orderedTopology (block : Json) : Py (List (Json × Json)) := do
  let topology ← (← block.getD "topology" (.arr [])).iter
  let keyed ← topology.mapM fun t => do return (← t.item "seq", t)
  (← sortedByKey keyed).mapM fun t => do return (t.1, ← t.2.item "hop_id")

def blockStages (block : Json) : Py (List Json) := do
  (← block.getD "stages" (.arr [])).iter

/-- `{s["hop_id"]: s for s in stages}`, onto what is there. -/
def stageIndex (index : Dict Key Json) : List Json → Py (Dict Key Json)
  | [] => .ok index
  | stage :: stages => do
      let key ← (← stage.item "hop_id").key
      stageIndex (index.insert key stage) stages

def verifyCoordinatorReceipt (sha256 : Sha256) (verify : Json → Py VerifyResult)
    (receiptCapsule : Json) (disclosedBundles : Dict String StageBundle) : Py ReceiptVerdict := do
  let result ← verify receiptCapsule
  let errors := if result.ok then [] else
    ["coordinator receipt capsule failed verification: " ++ reprTexts result.errors]
  let block ← readReceiptBlock receiptCapsule
  let runId ← block.getD "run_id" (.str "")
  let topology ← orderedTopology block
  let index ← stageIndex ∅ (← blockStages block)
  let stages ← judgeStages sha256 verify runId index disclosedBundles ⟨∅, ∅⟩ topology
  return {
    ok := errors.isEmpty && stages.all fun s => s.status ≠ .mismatch
    runId := runId
    orderedHops := topology.map Prod.snd
    stages := stages
    errors := errors }

/-! ## Green stages -/

variable {sha256 : Sha256} {verify : Json → Py VerifyResult} {runId committed : Json} {seen : Seen}
  {hop : String} {bundle : StageBundle}

/-- The record of a hop: it verifies, comes in that hop's envelope, and names no other hop and no
other run in its sealed block. -/
structure OwnRecord (verify : Json → Py VerifyResult) (runId : Json) (hop : String)
    (bundle : StageBundle) : Prop where
  verifies : ∃ result, verify bundle.stageCapsule = .ok result ∧ result.ok = true
  envelope : bundle.hopId = .str hop
  innerHop : (innerRecordIdentity bundle.stageCapsule).1 = .null ∨
    (innerRecordIdentity bundle.stageCapsule).1 = .str hop
  innerRun : (innerRecordIdentity bundle.stageCapsule).2 = .null ∨ runId.truthy = false ∨
    (innerRecordIdentity bundle.stageCapsule).2.pyEq runId = true

theorem guard_eq_none {c : Prop} [Decidable c] {text : String} {rest : Py (Option String)} :
    (if c then .ok (some text) else rest : Py (Option String)) = .ok none ↔ ¬c ∧ rest = .ok none := by
  by_cases hc : c <;> simp [hc]

theorem Seen.reuse_eq_none_iff {recomputed : String} {innerHop innerExch : Json} :
    seen.reuse recomputed innerHop innerExch = .ok none ↔
      seen.digests.lookup recomputed = none ∧
        ∃ key, innerKey innerHop innerExch = .ok key ∧ key.bind seen.innerIds.lookup = none := by
  unfold Seen.reuse
  cases seen.digests.lookup recomputed with
  | some prior => simp
  | none =>
      simp only [Py.bind_eq_ok, true_and]
      refine exists_congr fun key => and_congr_right fun _ => ?_
      cases key.bind seen.innerIds.lookup <;> simp

theorem violation_eq_none_iff :
    violation sha256 verify runId committed seen hop bundle = .ok none ↔
      committed = .str (bundleDigest sha256 bundle) ∧ OwnRecord verify runId hop bundle ∧
        seen.reuse (bundleDigest sha256 bundle) (innerRecordIdentity bundle.stageCapsule).1
          (innerRecordIdentity bundle.stageCapsule).2 = .ok none := by
  have hcommitted : (Json.str (bundleDigest sha256 bundle)).pyEq committed = true ↔
      committed = .str (bundleDigest sha256 bundle) :=
    ⟨Json.eq_str_of_str_pyEq, fun h => by rw [h]; simp [Json.pyEq]⟩
  have henvelope : ∀ j : Json, j.pyEq (.str hop) = true ↔ j = .str hop := fun j =>
    ⟨Json.eq_str_of_pyEq, fun h => by rw [h]; simp [Json.pyEq]⟩
  have hnull : ∀ j : Json, j.isNull = false ↔ j ≠ .null := fun j => by
    cases j <;> simp [Json.isNull]
  simp only [violation, guard_eq_none, Py.bind_eq_ok, Py.pure_eq_ok, Bool.not_eq_true',
    Bool.not_eq_false, hcommitted, henvelope, hnull, Bool.and_eq_true, not_and]
  constructor
  · rintro ⟨hdigest, result, hresult, hok, hhop, hinner, hrun, hreuse⟩
    refine ⟨hdigest, ⟨⟨result, hresult, hok⟩, hhop, ?_, ?_⟩, hreuse⟩
    · exact or_iff_not_imp_left.mpr hinner
    · rw [or_iff_not_imp_left, or_iff_not_imp_left]
      intro hne htruthy
      exact hrun ⟨hne, by simpa using htruthy⟩
  · rintro ⟨hdigest, ⟨⟨result, hresult, hok⟩, hhop, hinner, hrun⟩, hreuse⟩
    refine ⟨hdigest, result, hresult, hok, hhop, or_iff_not_imp_left.mp hinner, ?_, hreuse⟩
    rintro ⟨hne, htruthy⟩
    rcases hrun with hnone | hfalsy | heq
    · exact absurd hnone hne
    · rw [htruthy] at hfalsy
      cases hfalsy
    · exact heq

/-- The receipt marks the hop present and commits to the digest, in the entry that the verifier
reads for the hop. -/
def Cites (index : Dict Key Json) (hop digest : String) : Prop :=
  ∃ stage ref, index.lookup (.str hop) = some stage ∧
    stage.item "bundle" = .ok (.str "present") ∧ stage.getD "bundle_ref" (.obj []) = .ok ref ∧
    ref.get "digest" = .ok (.str digest)

theorem disclosedTo_eq_some {bundles : Dict String StageBundle} {hopId : Json}
    (h : disclosedTo bundles hopId = some (hop, bundle)) :
    hopId = .str hop ∧ bundles.lookup hop = some bundle := by
  cases hopId with
  | str s =>
      obtain ⟨b, hb, heq⟩ := Option.map_eq_some_iff.mp h
      obtain ⟨rfl, rfl⟩ := Prod.mk.inj heq
      exact ⟨rfl, hb⟩
  | _ => cases h

variable {index : Dict Key Json} {bundles : Dict String StageBundle}

section

variable {stages : List StageVerdict} {backing : List (String × StageBundle)}

end

theorem item_eq_ok {j value : Json} {key : String} :
    j.item key = .ok value ↔ ∃ members, j = .obj members ∧ members.lookup key = some value := by
  cases j with
  | obj members => cases h : members.lookup key <;> simp [Json.item, h]
  | _ => simp [Json.item]

variable {jsonDigest : Json → Option String} {localOnly : List String}

end CapsuleMesh.Coordinator
