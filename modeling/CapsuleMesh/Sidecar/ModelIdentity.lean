import CapsuleMesh.Digest
import CapsuleMesh.Python.Order
import CapsuleMesh.Python.SortKeys
import Mathlib.Data.List.ReduceOption

/-!
# The digest of a model package

`model_package_digest` of `model_identity.py`.  The digests of the parts of a package go into one
list without their names: what it commits to is that list, and the parts only where it is known
which of them are there.
-/

namespace CapsuleMesh.ModelIdentity

open Python

/-! ## What is digested -/

/-- One turn of the loop over the shared components. -/
def sharedDigest (manifest : Json) (key : String) : Py (Option Json) := do
  let shared ← manifest.getD "shared" (.obj [])
  let block ← shared.get key
  if block.truthy then return some (← block.item "sha256") else return none

/-- The layers in the order of their indices, each with its digest. -/
def layerDigests (manifest : Json) : Py (List (Json × Json)) := do
  let layers ← (← manifest.getD "layers" (.arr [])).iter
  let keyed ← layers.mapM fun item => do return (← item.item "layer_index", item)
  let sorted ← sortedByKey keyed
  sorted.mapM fun layer => do return (layer.1, ← layer.2.item "sha256")

def projectorDigests (manifest : Json) : Py (List Json) := do
  let projectors ← (← manifest.getD "projectors" (.arr [])).iter
  projectors.mapM fun projector => projector.item "sha256"

/-- `canonical_identity`. -/
def canonicalIdentity (manifest : Json) : Py Json := do
  let sourceModel ← manifest.item "source_model"
  let source ← sourceModel.item "sha256"
  let shared ← ["metadata", "embeddings", "output"].mapM (sharedDigest manifest)
  let layers ← layerDigests manifest
  let projectors ← projectorDigests manifest
  let modelId ← manifest.item "model_id"
  let canonicalRef ← sourceModel.getD "canonical_ref" modelId
  let runtimeAbi ← manifest.get "skippy_abi_version"
  return .obj [("model_id", modelId), ("canonical_ref", canonicalRef),
    ("source_model_sha256", source),
    ("artifact_digests",
      .arr (source :: (shared.reduceOption ++ layers.map Prod.snd ++ projectors))),
    ("runtime_abi", runtimeAbi)]

def modelPackageDigest (jsonDigest : Json → Py String) (manifest : Json) : Py String := do
  jsonDigest (← canonicalIdentity manifest)

/-! ## The parts of a package -/

/-- Two values that are one JSON value: the order of members does not matter. -/
def Same (a b : Json) : Prop := a.sortKeys = b.sortKeys

structure Parts where
  modelId : Json
  canonicalRef : Json
  source : Json
  shared : List (Option Json)
  layers : List (Json × Json)
  projectors : List Json
  runtimeAbi : Json

/-- The parts that a manifest names; without a canonical ref the model id is one. -/
structure Names (manifest : Json) (parts : Parts) : Prop where
  modelId : manifest.item "model_id" = .ok parts.modelId
  canonicalRef : (manifest.item "source_model" >>= fun m => m.getD "canonical_ref" parts.modelId) =
    .ok parts.canonicalRef
  source : (manifest.item "source_model" >>= fun m => m.item "sha256") = .ok parts.source
  shared : ["metadata", "embeddings", "output"].mapM (sharedDigest manifest) = .ok parts.shared
  layers : layerDigests manifest = .ok parts.layers
  projectors : projectorDigests manifest = .ok parts.projectors
  runtimeAbi : manifest.get "skippy_abi_version" = .ok parts.runtimeAbi

def Parts.artifactDigests (parts : Parts) : List Json :=
  parts.source :: (parts.shared.reduceOption ++ parts.layers.map Prod.snd ++ parts.projectors)

def Parts.identity (parts : Parts) : Json :=
  .obj [("model_id", parts.modelId), ("canonical_ref", parts.canonicalRef),
    ("source_model_sha256", parts.source), ("artifact_digests", .arr parts.artifactDigests),
    ("runtime_abi", parts.runtimeAbi)]

theorem canonicalIdentity_eq_ok {manifest identity : Json} :
    canonicalIdentity manifest = .ok identity ↔
      ∃ parts, Names manifest parts ∧ identity = parts.identity := by
  constructor
  · intro h
    obtain ⟨sourceModel, hsourceModel, h⟩ := Py.bind_eq_ok.mp h
    obtain ⟨source, hsource, h⟩ := Py.bind_eq_ok.mp h
    obtain ⟨shared, hshared, h⟩ := Py.bind_eq_ok.mp h
    obtain ⟨layers, hlayers, h⟩ := Py.bind_eq_ok.mp h
    obtain ⟨projectors, hprojectors, h⟩ := Py.bind_eq_ok.mp h
    obtain ⟨modelId, hmodelId, h⟩ := Py.bind_eq_ok.mp h
    obtain ⟨canonicalRef, hcanonicalRef, h⟩ := Py.bind_eq_ok.mp h
    obtain ⟨runtimeAbi, hruntimeAbi, h⟩ := Py.bind_eq_ok.mp h
    refine ⟨⟨modelId, canonicalRef, source, shared, layers, projectors, runtimeAbi⟩, ?_,
      (Except.ok.inj h).symm⟩
    exact
      { modelId := hmodelId
        canonicalRef := by rw [hsourceModel]; exact hcanonicalRef
        source := by rw [hsourceModel]; exact hsource
        shared := hshared
        layers := hlayers
        projectors := hprojectors
        runtimeAbi := hruntimeAbi }
  · rintro ⟨parts, hparts, rfl⟩
    obtain ⟨sourceModel, hsourceModel, hsource⟩ := Py.bind_eq_ok.mp hparts.source
    have hcanonicalRef := hparts.canonicalRef
    rw [hsourceModel, Py.ok_bind] at hcanonicalRef
    simp only [canonicalIdentity, hsourceModel, hsource, hparts.shared, hparts.layers,
      hparts.projectors, hparts.modelId, hcanonicalRef, hparts.runtimeAbi, Py.ok_bind]
    rfl

/-- The same shared components are there, and as many layers. -/
def SameLayout (these those : Parts) : Prop :=
  these.shared.map Option.isSome = those.shared.map Option.isSome ∧
    these.layers.length = those.layers.length

/-- The digests agree part by part. -/
structure SameParts (these those : Parts) : Prop where
  shared : these.shared.map (Option.map Json.sortKeys) = those.shared.map (Option.map Json.sortKeys)
  layers : these.layers.map (Json.sortKeys ∘ Prod.snd) = those.layers.map (Json.sortKeys ∘ Prod.snd)
  projectors : these.projectors.map Json.sortKeys = those.projectors.map Json.sortKeys

theorem sortKeys_arr (elems : List Json) :
    (Json.arr elems).sortKeys = .arr (elems.map Json.sortKeys) := by
  rw [Json.sortKeys]
  congr 1
  induction elems with
  | nil => rfl
  | cons e es ih => rw [Json.sortElems, ih, List.map_cons]

theorem length_reduceOption_of_isSome {α : Type} {as bs : List (Option α)}
    (h : as.map Option.isSome = bs.map Option.isSome) :
    as.reduceOption.length = bs.reduceOption.length := by
  have hcount : ∀ cs : List (Option α),
      cs.reduceOption.length = (cs.map Option.isSome).count true := by
    intro cs
    induction cs with
    | nil => rfl
    | cons c cs ih =>
        cases c with
        | none => simpa [List.reduceOption_cons_of_none] using ih
        | some c => simpa [List.reduceOption_cons_of_some] using ih
  rw [hcount, hcount, h]

/-- With the same places filled, the fillings give the list. -/
theorem map_eq_of_reduceOption {α β : Type} {f : α → β} {as bs : List (Option α)}
    (hplaces : as.map Option.isSome = bs.map Option.isSome)
    (hvalues : as.reduceOption.map f = bs.reduceOption.map f) :
    as.map (Option.map f) = bs.map (Option.map f) := by
  induction as generalizing bs with
  | nil =>
      cases bs with
      | nil => rfl
      | cons b bs => simp at hplaces
  | cons a as ih =>
      cases bs with
      | nil => simp at hplaces
      | cons b bs =>
        rw [List.map_cons, List.map_cons, List.cons.injEq] at hplaces
        obtain ⟨hhead, htail⟩ := hplaces
        cases a with
        | none =>
          cases b with
          | some b => cases hhead
          | none =>
            rw [List.reduceOption_cons_of_none, List.reduceOption_cons_of_none] at hvalues
            rw [List.map_cons, List.map_cons, ih htail hvalues]
        | some a =>
          cases b with
          | none => cases hhead
          | some b =>
            rw [List.reduceOption_cons_of_some, List.reduceOption_cons_of_some,
              List.map_cons, List.map_cons, List.cons.injEq] at hvalues
            rw [List.map_cons, List.map_cons, ih htail hvalues.2, Option.map_some,
              Option.map_some, hvalues.1]

/-- Where the layout is the same, one list of digests is one digest for each part. -/
theorem sameParts_of_layout {these those : Parts} (hlayout : SameLayout these those)
    (h : these.artifactDigests.map Json.sortKeys = those.artifactDigests.map Json.sortKeys) :
    SameParts these those := by
  obtain ⟨hshared, hlayers⟩ := hlayout
  rw [Parts.artifactDigests, Parts.artifactDigests, List.map_cons, List.map_cons,
    List.cons.injEq] at h
  have hrest := h.2
  rw [List.map_append, List.map_append, List.map_append, List.map_append, List.append_assoc,
    List.append_assoc] at hrest
  have hcount := length_reduceOption_of_isSome hshared
  obtain ⟨hfirst, hrest⟩ := List.append_inj hrest (by simpa using hcount)
  obtain ⟨hsecond, hthird⟩ := List.append_inj hrest (by simpa using hlayers)
  refine ⟨map_eq_of_reduceOption hshared hfirst, ?_, hthird⟩
  simpa [List.map_map] using hsecond

/-! ## The order of the layers -/

/-- Layers with integer indices, of which two have one index only with one digest. -/
structure Settled (layers : List Json) : Prop where
  indexed : ∀ layer ∈ layers, ∃ n : Int, layer.item "layer_index" = .ok (.int n)
  agree : ∀ a ∈ layers, ∀ b ∈ layers, a.item "layer_index" = b.item "layer_index" →
    a.item "sha256" = b.item "sha256"

def withIntKey {α : Type} (a : Int × α) : Json × α := (.int a.1, a.2)

theorem insertByKey_int {α : Type} (a : Int × α) (bs : List (Int × α)) :
    insertByKey (withIntKey a) (bs.map withIntKey) =
      .ok ((bs.orderedInsert (fun a b => a.1 ≤ b.1) a).map withIntKey) := by
  induction bs with
  | nil => rfl
  | cons b bs ih =>
      have hlt : (withIntKey b).1.lt (withIntKey a).1 = .ok (decide (b.1 < a.1)) := Json.lt_int _ _
      rw [List.map_cons, insertByKey, hlt, Py.ok_bind]
      by_cases hle : a.1 ≤ b.1
      · rw [List.orderedInsert_cons_of_le (fun a b : Int × α => a.1 ≤ b.1) bs hle,
          decide_eq_false (by omega)]
        rfl
      · rw [List.orderedInsert_of_not_le (fun a b : Int × α => a.1 ≤ b.1) bs hle,
          decide_eq_true (by omega), if_pos rfl, ih]
        rfl

theorem sortedByKey_int {α : Type} (as : List (Int × α)) :
    sortedByKey (as.map withIntKey) =
      .ok ((as.insertionSort fun a b => a.1 ≤ b.1).map withIntKey) := by
  induction as with
  | nil => rfl
  | cons a as ih => rw [List.map_cons, sortedByKey, ih, Py.ok_bind, insertByKey_int]; rfl

/-- Equal keys only of equal items: then the order before a sort does not matter. -/
theorem insertionSort_eq_of_perm {α : Type} {as bs : List (Int × α)} (hperm : as.Perm bs)
    (hkeys : ∀ a ∈ as, ∀ b ∈ as, a.1 = b.1 → a = b) :
    (as.insertionSort fun a b => a.1 ≤ b.1) = bs.insertionSort fun a b => a.1 ≤ b.1 := by
  have htotal : Std.Total fun a b : Int × α => a.1 ≤ b.1 := ⟨fun a b => le_total a.1 b.1⟩
  have htrans : IsTrans (Int × α) fun a b => a.1 ≤ b.1 := ⟨fun _ _ _ => le_trans⟩
  have has := List.perm_insertionSort (fun a b : Int × α => a.1 ≤ b.1) as
  have hbs := List.perm_insertionSort (fun a b : Int × α => a.1 ≤ b.1) bs
  refine (has.trans (hperm.trans hbs.symm)).eq_of_pairwise ?_
    (List.pairwise_insertionSort _ as) (List.pairwise_insertionSort _ bs)
  intro a b ha hb hab hba
  exact hkeys a (has.mem_iff.mp ha) b (hperm.mem_iff.mpr (hbs.mem_iff.mp hb)) (le_antisymm hab hba)

/-- What a sort reads of a layer. -/
def layerIndex (layer : Json) : Int :=
  match layer.item "layer_index" with
  | .ok (.int n) => n
  | _ => 0

theorem layerIndex_eq {layer : Json} {n : Int} (h : layer.item "layer_index" = .ok (.int n)) :
    layerIndex layer = n := by
  rw [layerIndex, h]

/-- For integer indices the layers are sorted by them, whatever is read of a layer after. -/
theorem layerDigests_of_indexed {members : List (String × Json)} {layers : List Json}
    (h : ∀ layer ∈ layers, ∃ n : Int, layer.item "layer_index" = .ok (.int n)) :
    layerDigests (.obj (Json.setMember "layers" (.arr layers) members)) =
      ((layers.map fun layer => (layerIndex layer, layer.item "sha256")).insertionSort
        fun a b => a.1 ≤ b.1).mapM fun read => do return (.int read.1, ← read.2) := by
  have hlayers : (Json.obj (Json.setMember "layers" (.arr layers) members)).getD "layers"
      (.arr []) = .ok (.arr layers) := by
    rw [Json.getD, Json.lookup_setMember_self]
    rfl
  have hkeyed : (layers.mapM fun item => do
      return (← item.item "layer_index", item) : Py (List (Json × Json))) =
      .ok ((layers.map fun layer => (layerIndex layer, layer)).map withIntKey) := by
    rw [Py.mapM_eq_ok, List.map_map, List.map_map]
    apply List.map_congr_left
    intro layer hlayer
    obtain ⟨n, hn⟩ := h layer hlayer
    rw [hn, Function.comp_apply, Function.comp_apply, withIntKey, layerIndex_eq hn]
    rfl
  rw [layerDigests, hlayers, Py.ok_bind, Json.iter, Py.ok_bind, hkeyed, Py.ok_bind,
    sortedByKey_int, Py.ok_bind, List.mapM_map]
  have hmap := List.map_insertionSort (fun a b : Int × Json => a.1 ≤ b.1)
    (fun a b : Int × Py Json => a.1 ≤ b.1) (fun a => (a.1, a.2.item "sha256"))
    (layers.map fun layer => (layerIndex layer, layer)) (fun _ _ _ _ => Iff.rfl)
  rw [List.map_map] at hmap
  change _ = List.mapM _ (((layers.map _)).insertionSort _)
  rw [show (layers.map fun layer => (layerIndex layer, layer.item "sha256")) =
    layers.map ((fun a : Int × Json => (a.1, a.2.item "sha256")) ∘ fun layer =>
      (layerIndex layer, layer)) from rfl, ← hmap, List.mapM_map]
  rfl

theorem layerDigests_perm {members : List (String × Json)} {layers layers' : List Json}
    (h : Settled layers) (hperm : layers'.Perm layers) :
    layerDigests (.obj (Json.setMember "layers" (.arr layers') members)) =
      layerDigests (.obj (Json.setMember "layers" (.arr layers) members)) := by
  have hindexed' : ∀ layer ∈ layers', ∃ n : Int, layer.item "layer_index" = .ok (.int n) :=
    fun layer hlayer => h.indexed layer (hperm.mem_iff.mp hlayer)
  rw [layerDigests_of_indexed h.indexed, layerDigests_of_indexed hindexed']
  congr 1
  apply insertionSort_eq_of_perm (hperm.map _)
  intro a ha b hb hkey
  obtain ⟨layer, hlayer, rfl⟩ := List.mem_map.mp ha
  obtain ⟨other, hother, rfl⟩ := List.mem_map.mp hb
  obtain ⟨n, hn⟩ := hindexed' layer hlayer
  obtain ⟨m, hm⟩ := hindexed' other hother
  have hnm : n = m := by
    rw [← layerIndex_eq hn, ← layerIndex_eq hm]
    exact hkey
  have hagree := h.agree layer (hperm.mem_iff.mp hlayer) other (hperm.mem_iff.mp hother)
    (by rw [hn, hm, hnm])
  rw [Prod.mk.injEq]
  exact ⟨hkey, hagree⟩

/-- Apart from the layers, the order of the layers is not read. -/
theorem Names.of_perm {members : List (String × Json)} {layers layers' : List Json} {parts : Parts}
    (h : Settled layers) (hperm : layers'.Perm layers)
    (hparts : Names (.obj (Json.setMember "layers" (.arr layers) members)) parts) :
    Names (.obj (Json.setMember "layers" (.arr layers') members)) parts := by
  have hitem : ∀ {key : String}, key ≠ "layers" →
      (Json.obj (Json.setMember "layers" (.arr layers') members)).item key =
        (Json.obj (Json.setMember "layers" (.arr layers) members)).item key := by
    intro key hkey
    rw [Json.item, Json.item, Json.lookup_setMember_ne hkey, Json.lookup_setMember_ne hkey]
  have hget : ∀ {key : String} {default : Json}, key ≠ "layers" →
      (Json.obj (Json.setMember "layers" (.arr layers') members)).getD key default =
        (Json.obj (Json.setMember "layers" (.arr layers) members)).getD key default := by
    intro key default hkey
    rw [Json.getD_obj, Json.getD_obj, Json.lookup_setMember_ne hkey, Json.lookup_setMember_ne hkey]
  have hshared : sharedDigest (.obj (Json.setMember "layers" (.arr layers') members)) =
      sharedDigest (.obj (Json.setMember "layers" (.arr layers) members)) := by
    funext key
    rw [sharedDigest, sharedDigest, hget (by decide)]
  exact
    { modelId := by
        rw [hitem (by decide)]
        exact hparts.modelId
      canonicalRef := by
        rw [hitem (by decide)]
        exact hparts.canonicalRef
      source := by
        rw [hitem (by decide)]
        exact hparts.source
      shared := by
        rw [hshared]
        exact hparts.shared
      layers := by
        rw [layerDigests_perm h hperm]
        exact hparts.layers
      projectors := by
        rw [projectorDigests, hget (by decide)]
        exact hparts.projectors
      runtimeAbi := by
        rw [Json.get, hget (by decide)]
        exact hparts.runtimeAbi }

/-! ## What the digest commits to -/

/-- A digest without collisions. -/
def Injective (jsonDigest : Json → Py String) : Prop :=
  ∀ a b digest, jsonDigest a = .ok digest → jsonDigest b = .ok digest → Same a b

theorem modelPackageDigest_eq_ok {jsonDigest : Json → Py String} {manifest : Json}
    {digest : String} : modelPackageDigest jsonDigest manifest = .ok digest ↔
      ∃ parts, Names manifest parts ∧ jsonDigest parts.identity = .ok digest := by
  rw [modelPackageDigest, Py.bind_eq_ok]
  constructor
  · rintro ⟨identity, hidentity, hdigest⟩
    obtain ⟨parts, hparts, rfl⟩ := canonicalIdentity_eq_ok.mp hidentity
    exact ⟨parts, hparts, hdigest⟩
  · rintro ⟨parts, hparts, hdigest⟩
    exact ⟨parts.identity, canonicalIdentity_eq_ok.mpr ⟨parts, hparts, rfl⟩, hdigest⟩

theorem same_identity {these those : Parts} (h : Same these.identity those.identity) :
    Same these.modelId those.modelId ∧ Same these.canonicalRef those.canonicalRef ∧
      Same these.source those.source ∧ Same these.runtimeAbi those.runtimeAbi ∧
      these.artifactDigests.map Json.sortKeys = those.artifactDigests.map Json.sortKeys := by
  rw [Same, Parts.identity, Parts.identity, Json.sortKeys_obj, Json.sortKeys_obj,
    Json.obj.injEq] at h
  have hmember : ∀ key, ((Json.sorted _).lookup key) = (Json.sorted _).lookup key :=
    fun key => congrArg (List.lookup key) h
  simp only [Json.lookup_sorted] at hmember
  have hmodelId := hmember "model_id"
  have hcanonicalRef := hmember "canonical_ref"
  have hsource := hmember "source_model_sha256"
  have hartifacts := hmember "artifact_digests"
  have hruntimeAbi := hmember "runtime_abi"
  simp only [List.lookup_cons, String.reduceBEq, Option.map_some, Option.some.injEq, sortKeys_arr,
    Json.arr.injEq] at hmodelId hcanonicalRef hsource hartifacts hruntimeAbi
  exact ⟨hmodelId, hcanonicalRef, hsource, hruntimeAbi, hartifacts⟩

/-- One digest is one model id, ref, source and runtime, and one list of the digests of the parts;
where the same parts are there, it is one digest for each.  The order of the layers does not
matter where two with one index have one digest. -/
theorem modelPackageDigest_commits (jsonDigest : Json → Py String)
    (hdigest : Injective jsonDigest) :
    (∀ manifest manifest' digest, modelPackageDigest jsonDigest manifest = .ok digest →
      modelPackageDigest jsonDigest manifest' = .ok digest →
      ∃ these those, Names manifest these ∧ Names manifest' those ∧
        Same these.modelId those.modelId ∧ Same these.canonicalRef those.canonicalRef ∧
        Same these.source those.source ∧ Same these.runtimeAbi those.runtimeAbi ∧
        these.artifactDigests.map Json.sortKeys = those.artifactDigests.map Json.sortKeys ∧
        (SameLayout these those → SameParts these those)) ∧
    ∀ (members : List (String × Json)) (layers layers' : List Json) (digest : String),
      Settled layers → layers'.Perm layers →
      modelPackageDigest jsonDigest (.obj (Json.setMember "layers" (.arr layers) members)) =
        .ok digest →
      modelPackageDigest jsonDigest (.obj (Json.setMember "layers" (.arr layers') members)) =
        .ok digest := by
  constructor
  · intro manifest manifest' digest h h'
    obtain ⟨these, hthese, hdigested⟩ := modelPackageDigest_eq_ok.mp h
    obtain ⟨those, hthose, hdigested'⟩ := modelPackageDigest_eq_ok.mp h'
    obtain ⟨hmodelId, hcanonicalRef, hsource, hruntimeAbi, hartifacts⟩ :=
      same_identity (hdigest _ _ _ hdigested hdigested')
    exact ⟨these, those, hthese, hthose, hmodelId, hcanonicalRef, hsource, hruntimeAbi,
      hartifacts, fun hlayout => sameParts_of_layout hlayout hartifacts⟩
  · intro members layers layers' digest hsettled hperm h
    obtain ⟨parts, hparts, hdigested⟩ := modelPackageDigest_eq_ok.mp h
    exact modelPackageDigest_eq_ok.mpr ⟨parts, hparts.of_perm hsettled hperm, hdigested⟩

/-- The code of a value with its members in order, as a text. -/
def plainDigest (value : Json) : Py String :=
  .ok (String.ofList (List.replicate (code value.sortKeys) '0'))

theorem plainDigest_injective : Injective plainDigest := by
  intro a b digest ha hb
  have hlist := congrArg String.toList (Except.ok.inj (ha.trans hb.symm))
  have hcode : code a.sortKeys = code b.sortKeys := by
    simpa using congrArg List.length hlist
  exact code_injective _ _ hcode

def packageMembers : List (String × Json) :=
  [("model_id", .str "m"), ("source_model", .obj [("sha256", .str "s")])]

/-- A manifest of one source and one thing else. -/
def packageWith (key : String) (value : Json) : Json :=
  .obj (Json.setMember key value packageMembers)

def layerOf (index : Int) (digest : String) : Json :=
  .obj [("layer_index", .int index), ("sha256", .str digest)]

def sharedOf (key : String) : Json := .obj [(key, .obj [("sha256", .str "d")])]

/-- Layers that are given in another order. -/
theorem layers_swapped_same_digest : ∃ digest,
    modelPackageDigest plainDigest (packageWith "layers" (.arr [layerOf 0 "x", layerOf 1 "y"])) =
      .ok digest ∧
    modelPackageDigest plainDigest (packageWith "layers" (.arr [layerOf 1 "y", layerOf 0 "x"])) =
      .ok digest := by
  have hsettled : Settled [layerOf 0 "x", layerOf 1 "y"] := by
    constructor
    · intro layer hlayer
      obtain rfl | rfl : layer = layerOf 0 "x" ∨ layer = layerOf 1 "y" := by simpa using hlayer
      · exact ⟨0, rfl⟩
      · exact ⟨1, rfl⟩
    · intro a ha b hb hindex
      obtain rfl | rfl : a = layerOf 0 "x" ∨ a = layerOf 1 "y" := by simpa using ha
      · obtain rfl | rfl : b = layerOf 0 "x" ∨ b = layerOf 1 "y" := by simpa using hb
        · rfl
        · exact absurd (Json.int.inj (Except.ok.inj hindex)) (by decide)
      · obtain rfl | rfl : b = layerOf 0 "x" ∨ b = layerOf 1 "y" := by simpa using hb
        · exact absurd (Json.int.inj (Except.ok.inj hindex)) (by decide)
        · rfl
  obtain ⟨digest, hdigest⟩ : ∃ digest, modelPackageDigest plainDigest
      (packageWith "layers" (.arr [layerOf 0 "x", layerOf 1 "y"])) = .ok digest := ⟨_, rfl⟩
  refine ⟨digest, hdigest, ?_⟩
  exact (modelPackageDigest_commits plainDigest plainDigest_injective).2 packageMembers
    [layerOf 0 "x", layerOf 1 "y"] [layerOf 1 "y", layerOf 0 "x"] digest hsettled
    (List.Perm.swap _ _ []) hdigest

/-- The parts of a manifest of two layers with one index. -/
def twoLayers (first second : String) : Parts where
  modelId := .str "m"
  canonicalRef := .str "m"
  source := .str "s"
  shared := [none, none, none]
  layers := [(.int 0, .str first), (.int 0, .str second)]
  projectors := []
  runtimeAbi := .null

/-- The digest of a component is taken for that of another one, the digest of a layer for that of
another index; and two layers with one index count in the order in which they are given. -/
theorem parts_without_names :
    (modelPackageDigest plainDigest (packageWith "shared" (sharedOf "metadata")) =
        modelPackageDigest plainDigest (packageWith "shared" (sharedOf "embeddings")) ∧
      sharedDigest (packageWith "shared" (sharedOf "metadata")) "metadata" = .ok (some (.str "d")) ∧
      sharedDigest (packageWith "shared" (sharedOf "embeddings")) "metadata" = .ok none) ∧
    modelPackageDigest plainDigest (packageWith "layers" (.arr [layerOf 0 "x"])) =
      modelPackageDigest plainDigest (packageWith "layers" (.arr [layerOf 5 "x"])) ∧
    modelPackageDigest plainDigest (packageWith "layers" (.arr [layerOf 0 "x", layerOf 0 "y"])) ≠
      modelPackageDigest plainDigest
        (packageWith "layers" (.arr [layerOf 0 "y", layerOf 0 "x"])) := by
  have hcomponents : canonicalIdentity (packageWith "shared" (sharedOf "metadata")) =
      canonicalIdentity (packageWith "shared" (sharedOf "embeddings")) := rfl
  have hindices : canonicalIdentity (packageWith "layers" (.arr [layerOf 0 "x"])) =
      canonicalIdentity (packageWith "layers" (.arr [layerOf 5 "x"])) := rfl
  refine ⟨⟨?_, rfl, rfl⟩, ?_, ?_⟩
  · rw [modelPackageDigest, hcomponents, modelPackageDigest]
  · rw [modelPackageDigest, hindices, modelPackageDigest]
  · intro hsame
    have hfirst : canonicalIdentity (packageWith "layers"
        (.arr [layerOf 0 "x", layerOf 0 "y"])) = .ok (twoLayers "x" "y").identity := rfl
    have hsecond : canonicalIdentity (packageWith "layers"
        (.arr [layerOf 0 "y", layerOf 0 "x"])) = .ok (twoLayers "y" "x").identity := rfl
    rw [modelPackageDigest, hfirst, modelPackageDigest, hsecond, Py.ok_bind, Py.ok_bind] at hsame
    obtain ⟨-, -, -, -, hartifacts⟩ :=
      same_identity (plainDigest_injective _ _ _ hsame rfl)
    have hlayer : (Json.str "x") = .str "y" := (List.cons.inj (List.cons.inj hartifacts).2).1
    exact absurd (Json.str.inj hlayer) (by decide)

end CapsuleMesh.ModelIdentity
