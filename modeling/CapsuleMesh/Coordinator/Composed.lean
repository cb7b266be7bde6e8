import CapsuleMesh.Coordinator.BundleFlow

/-!
# Receipts composed from honest bundles

A receipt that `compose_receipt_from_disclosures` makes is read back stage by stage: the hops come
out as the topology lists them, and a stage is green exactly where a bundle was disclosed.
-/

namespace CapsuleMesh.Coordinator

open Python Lifecycle

variable {sha256 : Sha256} {verify : Json → Py VerifyResult} {emit : Emit}

/-! ## The block -/

section

variable {block : List (String × Json)} {runId : String} {topology : List TopologyEntry}
  {stages : List StageEntry}

end

/-! ## The stages -/

/-- The verdict on a hop of a composed receipt. -/
structure Expected (bundles : Dict String StageBundle) (t : TopologyEntry) (v : StageVerdict) :
    Prop where
  hopId_eq : v.hopId = .str t.hopId
  seq_eq : v.seq = .int t.seq
  status_eq : v.status = if (bundles.lookup t.hopId).isSome then .green else .gap

/-- Nothing in the ledger stands in the way of a hop. -/
structure Open (sha256 : Sha256) (bundles : Dict String StageBundle) (seen : Seen)
    (t : TopologyEntry) : Prop where
  digest : ∀ bundle, bundles.lookup t.hopId = some bundle →
    seen.digests.lookup (bundleDigest sha256 bundle) = none
  innerId : ∀ key, seen.innerIds.lookup (key, .str t.hopId) = none

section

variable {runId : String} {index : Dict Key Json} {bundles : Dict String StageBundle} {seen : Seen}
  {disclosures : Dict String (Option StageBundle)} {asked : List String} {t : TopologyEntry}

/-- The bundles disclosed for two hops are different records. -/
def Distinct (sha256 : Sha256) (bundles : Dict String StageBundle) (t t' : TopologyEntry) : Prop :=
  ∀ bundle bundle', bundles.lookup t.hopId = some bundle → bundles.lookup t'.hopId = some bundle' →
    bundleDigest sha256 bundle ≠ bundleDigest sha256 bundle'

theorem Open.after {bundle : StageBundle} {seen' : Seen} {t' : TopologyEntry}
    (hopen : Open sha256 bundles seen t') (hne : t'.hopId ≠ t.hopId)
    (hdistinct : Distinct sha256 bundles t t') (hsupplied : bundles.lookup t.hopId = some bundle)
    (hdigests : seen'.digests = seen.digests.insert (bundleDigest sha256 bundle) t.hopId)
    (hinnerIds : seen'.innerIds = seen.innerIds ∨
      seen'.innerIds = seen.innerIds.insert (.str runId, .str t.hopId) t.hopId) :
    Open sha256 bundles seen' t' where
  digest bundle' hbundle' := by
    rw [hdigests, AList.lookup_insert_ne (hdistinct bundle bundle' hsupplied hbundle').symm]
    exact hopen.digest bundle' hbundle'
  innerId key := by
    rcases hinnerIds with hinnerIds | hinnerIds
    · rw [hinnerIds]
      exact hopen.innerId key
    · rw [hinnerIds, AList.lookup_insert_ne (by simp [hne])]
      exact hopen.innerId key

end

/-- The verdict on a composed receipt. -/
structure ReadsBack (topology : List TopologyEntry) (bundles : Dict String StageBundle)
    (verdict : ReceiptVerdict) : Prop where
  orderedHops : verdict.orderedHops = topology.map fun t => .str t.hopId
  ordered : topology.Pairwise fun t t' => t.seq ≤ t'.seq
  stages : List.Forall₂ (Expected bundles) topology verdict.stages

section

variable {state state' : RecordNodeState} {uuid runId : String} {topology : List TopologyEntry}
  {disclosures : Dict String (Option StageBundle)} {requested : Option (List String)}
  {extra : Option (List (String × Json))} {receipt : Json} {bundles : Dict String StageBundle}

end

/-! ## Both directions -/

variable {jsonDigest : Json → Option String} {localOnly : List String}

/-- A record under the id that its body has, with its members that are local to a node. -/
def sealedWith (body localMembers : List (String × Json)) : Json :=
  .obj (("capsule_id", .ofStr? (codeDigest (.obj body))) :: body ++ localMembers)

def recordOf (sealedBlock : List (String × Json)) (localMembers : List (String × Json)) : Json :=
  sealedWith
    [("action_type", .str "decide"),
     ("model_attestation", .obj [("compute_attestation", .obj sealedBlock)])] localMembers

def lifecycleBlock (hop run : String) : List (String × Json) :=
  [("x-mesh-lifecycle-v1", .obj [("hop_id", .str hop), ("exchange_id", .str run)])]

theorem recordOf_proper {sealedBlock localMembers : List (String × Json)}
    (hblock : (Json.obj sealedBlock).Proper id)
    (hlocal : localMembers = [] ∨ localMembers = [("signature", .str "00")]) :
    (recordOf sealedBlock localMembers).Proper id := by
  have hid : ∀ o : Option String, (Json.ofStr? o).Proper id := fun o => by
    cases o <;> simp [Json.ofStr?]
  rcases hlocal with rfl | rfl <;> simp [recordOf, sealedWith, hid, hblock]

end CapsuleMesh.Coordinator
