import CapsuleMesh.Library.MountainPaths
import CapsuleMesh.Python.Loads

/-!
# Inclusion proofs

`_proves` of `ask_history.py`: a proof is good for a leaf when it climbs, from the number of that
leaf, to the very peak of the anchor's range that holds the leaf.  The range is the one that
`_tree` of the responder rebuilds, and the honest proof is read off its nodes.
-/

namespace CapsuleMesh.Evidence

open Python Library MountainRange

/-- `n.to_bytes(width, "big")`. -/
def toBytesBig (n : Int) (width : ℕ) : Py Bytes := do return (← toBytesLittle n width).reverse

/-- The hash and the proof codec that `_proves` is given. -/
structure ProofTools where
  sha256 : Bytes → Bytes
  /-- `cbor2.loads`, for an index with a list of byte strings; `none` when it raises, and for
  anything else, which `verify_cll_inclusion` refuses. -/
  loads : Bytes → Option (Int × List Bytes)
  encodeInclusion : ℕ → List Bytes → Bytes
  /-- `verify_cll_inclusion` returns. -/
  verifyInclusion : List Bytes → Bytes → Bytes → Bool

/-- What `_proves` reads of a served checkpoint. -/
structure ServedCheckpoint where
  mmrSize : ℕ
  peaks : List Bytes
  covered : ℕ

/-- The loop of `_proves` over the path. -/
def climbPath (sha256 : Bytes → Bytes) : List Bytes → ℕ → ℕ → Bytes → Py (ℕ × Bytes)
  | [], i, _, root => .ok (i, root)
  | sibling :: path, i, g, root =>
      if g < heightAt (i + 1) then do
        let position ← toBytesBig (i + 1 + 1 : ℕ) 8
        climbPath sha256 path (i + 1) (g + 1) (sha256 (position ++ sibling ++ root))
      else do
        let position ← toBytesBig (i + 2 ^ (g + 1) + 1 : ℕ) 8
        climbPath sha256 path (i + 2 ^ (g + 1)) (g + 1) (sha256 (position ++ root ++ sibling))

/-- `next(i for i, p in enumerate(positions) if p >= index)`. -/
def firstPeakFrom (positions : List ℕ) (index : Int) : Py ℕ :=
  match positions.findIdx? fun p : ℕ => decide (index ≤ p) with
  | some k => .ok k
  | none => .error .stopIteration

/-- The checks of `_proves` behind the decoding, for the index of the leaf. -/
def climbsToPeak (sha256 : Bytes → Bytes) (path : List Bytes) (leaf : ℕ) (entry : Bytes)
    (anchor : ServedCheckpoint) : Py Bool := do
  let positions := MountainRange.peaks anchor.mmrSize
  let k ← firstPeakFrom positions (leafIndex leaf)
  let top := positions.getD k 0
  if path.length ≠ heightAt top ∨ positions.length ≠ anchor.peaks.length then return false
  else
    let reached ← climbPath sha256 path (leafIndex leaf) 0 (sha256 (0 :: entry))
    return decide (reached.1 = top ∧ anchor.peaks[k]? = some reached.2)

def proves (V : ProofTools) (proof : Bytes) (leaf : Int) (entryHex : String)
    (anchor : ServedCheckpoint) : Py Bool :=
  if leaf < 0 ∨ anchor.covered ≤ leaf then .ok false
  else
    match V.loads proof, bytesFromHex entryHex with
    | some (index, path), .ok entry =>
        if V.verifyInclusion anchor.peaks entry proof = false then .ok false
        else if index ≠ 2 * leaf - popcount leaf.toNat then .ok false
        else climbsToPeak V.sha256 path leaf.toNat entry anchor
    | _, _ => .ok false

/-! ## The range of a log -/

/-- `n` in eight bytes, the highest first. -/
def eightBytes (n : ℕ) : Bytes :=
  ((List.range 8).map fun i => UInt8.ofNat (n / 256 ^ i % 256)).reverse

/-- The entries of a log, so few that every position fits its eight bytes. -/
structure LogRange where
  entries : List Bytes
  fits : leafIndex entries.length < 256 ^ 8

namespace LogRange

def leafHash (sha256 : Bytes → Bytes) (entry : Bytes) : Bytes := sha256 (0 :: entry)

def nodeHash (sha256 : Bytes → Bytes) (position : ℕ) (left right : Bytes) : Bytes :=
  sha256 (eightBytes position ++ left ++ right)

def entryAt (range : LogRange) (i : ℕ) : Bytes := range.entries.getD i []

/-- The nodes that the appends of the entries leave. -/
def nodes (range : LogRange) (sha256 : Bytes → Bytes) : List Bytes :=
  build (leafHash sha256) (nodeHash sha256) range.entries

/-- The checkpoint over the range: its size and its peaks. -/
def anchor (range : LogRange) (sha256 : Bytes → Bytes) : ServedCheckpoint where
  mmrSize := (range.nodes sha256).length
  peaks := (MountainRange.peaks (range.nodes sha256).length).map ((range.nodes sha256).getD · [])
  covered := range.entries.length

/-- `_inclusion`: the proof of a leaf, read off the nodes. -/
def inclusion (range : LogRange) (V : ProofTools) (leaf : ℕ) : Bytes :=
  V.encodeInclusion leaf (inclusionPath (range.nodes V.sha256) leaf)

/-- The hash over a block of entries. -/
abbrev hashOver (range : LogRange) (sha256 : Bytes → Bytes) : ℕ → ℕ → Bytes :=
  subtree (leafHash sha256) (nodeHash sha256) range.entryAt

/-- What is hashed when the range is built. -/
inductive Hashed (range : LogRange) (sha256 : Bytes → Bytes) : Bytes → Prop
  | leaf (i : ℕ) : i < range.entries.length → Hashed range sha256 (0 :: range.entryAt i)
  | node (h a : ℕ) : 2 ^ (h + 1) ∣ a → a + 2 ^ (h + 1) ≤ range.entries.length →
      Hashed range sha256 (eightBytes (nodeIndex (h + 1) a + 1) ++
        range.hashOver sha256 h a ++ range.hashOver sha256 h (a + 2 ^ h))

/-- No other bytes have a hash of the range. -/
structure CollisionFree (range : LogRange) (sha256 : Bytes → Bytes) : Prop where
  length : ∀ bytes, (sha256 bytes).length = 32
  unique : ∀ {bytes}, range.Hashed sha256 bytes → ∀ other, sha256 other = sha256 bytes →
    other = bytes

end LogRange

/-- The codec reads back the index of the leaf with the path that it wrote, and the library's
check accepts a proof that climbs to one of the peaks. -/
structure ProofTools.Lawful (V : ProofTools) : Prop where
  loads_encode : ∀ leaf path, V.loads (V.encodeInclusion leaf path) =
    some (((leafIndex leaf : ℕ) : Int), path)
  accepts : ∀ peaks entry leaf path reached,
    climbPath V.sha256 path (leafIndex leaf) 0 (V.sha256 (0 :: entry)) = .ok reached →
      reached.2 ∈ peaks → V.verifyInclusion peaks entry (V.encodeInclusion leaf path) = true

/-! ## Positions in eight bytes -/

theorem toBytesBig_eq {n : ℕ} (h : n < 256 ^ 8) : toBytesBig n 8 = .ok (eightBytes n) := by
  have hbounds : (0 : Int) ≤ n ∧ (n : Int) < 256 ^ 8 := ⟨by omega, by exact_mod_cast h⟩
  rw [toBytesBig, toBytesLittle, if_pos hbounds]
  rfl

@[simp] theorem length_eightBytes (n : ℕ) : (eightBytes n).length = 8 := by
  rw [eightBytes, List.length_reverse, List.length_map, List.length_range]

/-- While the positions fit, the loop is the climb of the range. -/
theorem climbPath_eq {sha256 : Bytes → Bytes} {path : List Bytes} {i g : ℕ} {root : Bytes}
    (hfits : (climb (LogRange.nodeHash sha256) path i g root).1 + 1 < 256 ^ 8) :
    climbPath sha256 path i g root = .ok (climb (LogRange.nodeHash sha256) path i g root) := by
  induction path generalizing i g root with
  | nil => rfl
  | cons sibling path ih =>
      rw [climb] at hfits ⊢
      rw [climbPath]
      split_ifs at hfits ⊢ with hright
      · have hle : i + 1 ≤ (climb (LogRange.nodeHash sha256) path (i + 1) (g + 1)
            (LogRange.nodeHash sha256 (i + 1 + 1) sibling root)).1 := le_climb_fst _ _ _ _
        rw [toBytesBig_eq (by omega), Py.ok_bind]
        exact ih hfits
      · have hle : i + 2 ^ (g + 1) ≤ (climb (LogRange.nodeHash sha256) path (i + 2 ^ (g + 1)) (g + 1)
            (LogRange.nodeHash sha256 (i + 2 ^ (g + 1) + 1) root sibling)).1 := le_climb_fst _ _ _ _
        rw [toBytesBig_eq (by omega), Py.ok_bind]
        exact ih hfits

/-! ## The nodes of a range -/

section Range

variable {range : LogRange} {sha256 : Bytes → Bytes}

theorem LogRange.map_entryAt (range : LogRange) :
    (List.range range.entries.length).map range.entryAt = range.entries := by
  apply List.ext_getElem
  · rw [List.length_map, List.length_range]
  · intro i hi hi'
    rw [List.getElem_map, List.getElem_range, LogRange.entryAt, List.getD_eq_getElem?_getD,
      List.getElem?_eq_getElem hi', Option.getD_some]

theorem LogRange.stores (range : LogRange) (sha256 : Bytes → Bytes) :
    Stores (LogRange.leafHash sha256) (LogRange.nodeHash sha256) range.entryAt
      (range.nodes sha256) range.entries.length := by
  have hbuilt := stores_build (LogRange.leafHash sha256) (LogRange.nodeHash sha256) range.entryAt
    range.entries.length
  rwa [range.map_entryAt] at hbuilt

theorem LogRange.length_hashOver (hfree : range.CollisionFree sha256) (h a : ℕ) :
    (range.hashOver sha256 h a).length = 32 := by
  cases h with
  | zero => exact hfree.length _
  | succ h => exact hfree.length _

theorem LogRange.CollisionFree.binding (hfree : range.CollisionFree sha256) :
    Binding (LogRange.leafHash sha256) (LogRange.nodeHash sha256) range.entryAt
      (fun bytes : Bytes => bytes.length = 32) range.entries.length where
  leaf_sized _ := hfree.length _
  node_sized _ _ _ := hfree.length _
  leaf_binds m hm entry heq :=
    (List.cons.inj (hfree.unique (.leaf m hm) (0 :: entry) heq)).2
  node_binds h a hdvd hle left right hsized heq := by
    have hsame := hfree.unique (.node h a hdvd hle)
      (eightBytes (nodeIndex (h + 1) a + 1) ++ left ++ right) heq
    rw [List.append_assoc, List.append_assoc] at hsame
    have hchildren := List.append_cancel_left hsame
    have hleft := LogRange.length_hashOver hfree h a
    have hright := LogRange.length_hashOver hfree h (a + 2 ^ h)
    have hlength := congrArg List.length hchildren
    rw [List.length_append, List.length_append, hleft, hright] at hlength
    have hwidth : left.length = 32 := by
      rcases hsized with hsized | hsized
      · exact hsized
      · have hother : right.length = 32 := hsized
        omega
    exact List.append_inj hchildren (hwidth.trans hleft.symm)

/-! ## The checks against the anchor of a range -/

variable {m k h a : ℕ}

theorem PeakOver.firstPeakFrom_eq {positions : List ℕ} {n : ℕ}
    (hpeak : PeakOver positions n m k h a) : firstPeakFrom positions (leafIndex m) = .ok k := by
  have hle : leafIndex m ≤ nodeIndex h a := by
    have hpos := Nat.two_pow_pos h
    have hlt := hpeak.leaf_lt
    have hcarry := nodeIndex_of_carry ((Nat.pow_dvd_pow 2 (Nat.le_succ h)).trans hpeak.dvd)
    have hmono := leafIndex_strictMono.monotone (show m ≤ a + 2 ^ h - 1 by omega)
    omega
  obtain ⟨hk, hposition⟩ := List.getElem?_eq_some_iff.mp hpeak.position
  have hfound : positions.findIdx? (fun p : ℕ => decide ((leafIndex m : Int) ≤ p)) = some k := by
    rw [List.findIdx?_eq_some_iff_getElem]
    refine ⟨hk, ?_, fun j hj => ?_⟩
    · rw [hposition, decide_eq_true_eq]
      exact_mod_cast hle
    · have hbefore := hpeak.before j hj positions[j] (List.getElem?_eq_getElem (hj.trans hk))
      rw [decide_eq_true_eq]
      omega
  rw [firstPeakFrom, hfound]

/-- The path is measured against the tree of the leaf, and its hash against that peak. -/
theorem climbsToPeak_eq
    (hpeak : PeakOver (MountainRange.peaks (leafIndex range.entries.length)) range.entries.length
      m k h a) (path : List Bytes) (entry : Bytes) :
    climbsToPeak sha256 path m entry (range.anchor sha256) =
      .ok (decide (path.length = h ∧
        (climb (LogRange.nodeHash sha256) path (leafIndex m) 0 (sha256 (0 :: entry))).2 =
          range.hashOver sha256 h a)) := by
  have hstores := range.stores sha256
  have hdvd : 2 ^ h ∣ a := (Nat.pow_dvd_pow 2 (Nat.le_succ h)).trans hpeak.dvd
  have hblock : block h m = a := block_eq hdvd hpeak.le_leaf hpeak.leaf_lt
  have hsize : (range.anchor sha256).mmrSize = leafIndex range.entries.length := hstores.length
  have hpeaks : (range.anchor sha256).peaks =
      (MountainRange.peaks (leafIndex range.entries.length)).map
        ((range.nodes sha256).getD · []) := by
    rw [LogRange.anchor, hstores.length]
  have htop : (MountainRange.peaks (leafIndex range.entries.length)).getD k 0 = nodeIndex h a := by
    rw [List.getD_eq_getElem?_getD, hpeak.position, Option.getD_some]
  have hpeakHash : ((MountainRange.peaks (leafIndex range.entries.length)).map
      ((range.nodes sha256).getD · []))[k]? = some (range.hashOver sha256 h a) := by
    rw [List.getElem?_map, hpeak.position, Option.map_some, List.getD_eq_getElem?_getD,
      hstores.holds h a hdvd hpeak.le, Option.getD_some]
  rw [climbsToPeak, hsize, hpeaks]
  dsimp only
  rw [PeakOver.firstPeakFrom_eq hpeak, Py.ok_bind, htop, heightAt_nodeIndex hdvd]
  by_cases hlength : path.length = h
  · have hreached : (climb (LogRange.nodeHash sha256) path (leafIndex m) 0
        (sha256 (0 :: entry))).1 = nodeIndex h a := by
      have hfst := @climb_fst _ (LogRange.nodeHash sha256) 0 m path (sha256 (0 :: entry))
      rwa [block_zero, nodeIndex_leaf, Nat.zero_add, hlength, hblock] at hfst
    have hfits : nodeIndex h a + 1 < 256 ^ 8 := by
      have hnode := (List.getElem?_eq_some_iff.mp (hstores.holds h a hdvd hpeak.le)).1
      have hrange := range.fits
      rw [hstores.length] at hnode
      omega
    have hclimb := climbPath_eq (hreached.symm ▸ hfits)
    rw [if_neg (by simp [hlength]), hclimb, Py.ok_bind, hreached, hpeakHash]
    simp [hlength, eq_comm]
  · rw [if_pos (.inl hlength)]
    simp [hlength]

theorem leafIndex_cast (m : ℕ) : ((leafIndex m : ℕ) : Int) = 2 * m - popcount m := by
  have hle := popcount_le m
  rw [leafIndex]
  omega

theorem proves_natCast {V : ProofTools} {proof : Bytes} {entryHex : String}
    {anchor : ServedCheckpoint} (hm : m < anchor.covered) :
    proves V proof m entryHex anchor = .ok true ↔
      ∃ path entry, V.loads proof = some (((leafIndex m : ℕ) : Int), path) ∧
        bytesFromHex entryHex = .ok entry ∧ V.verifyInclusion anchor.peaks entry proof = true ∧
        climbsToPeak V.sha256 path m entry anchor = .ok true := by
  have hinside : ¬((m : Int) < 0 ∨ (anchor.covered : Int) ≤ m) := by omega
  rw [proves, if_neg hinside]
  constructor
  · intro h
    split at h
    · next index path entry hloads hentry =>
        split_ifs at h with hverify hindex
        · cases h
        · cases h
        · rw [Int.toNat_natCast, ← leafIndex_cast, not_not] at hindex
          rw [hindex] at hloads
          exact ⟨path, entry, hloads, hentry, by simpa using hverify, h⟩
    · cases h
  · rintro ⟨path, entry, hloads, hentry, hverify, hclimbs⟩
    rw [hloads, hentry]
    dsimp only
    rw [hverify, if_neg (by simp), Int.toNat_natCast, leafIndex_cast, if_neg (by simp)]
    exact hclimbs

/-- A proof is accepted exactly when it lists the path of the range for its leaf. -/
theorem proves_eq_true_iff {V : ProofTools} (hfree : range.CollisionFree V.sha256) {proof : Bytes}
    {entryHex : String} (hm : m < range.entries.length) :
    proves V proof m entryHex (range.anchor V.sha256) = .ok true ↔
      V.loads proof = some (((leafIndex m : ℕ) : Int), inclusionPath (range.nodes V.sha256) m) ∧
        bytesFromHex entryHex = .ok (range.entryAt m) ∧
        V.verifyInclusion (range.anchor V.sha256).peaks (range.entryAt m) proof = true := by
  obtain ⟨k, h, a, hpeak⟩ := exists_peakOver hm
  have hdvd : 2 ^ h ∣ a := (Nat.pow_dvd_pow 2 (Nat.le_succ h)).trans hpeak.dvd
  have hblock : block h m = a := block_eq hdvd hpeak.le_leaf hpeak.leaf_lt
  have hpath := (range.stores V.sha256).inclusionPath_eq hpeak
  rw [proves_natCast hm]
  constructor
  · rintro ⟨path, entry, hloads, hentry, hverify, hclimbs⟩
    rw [climbsToPeak_eq hpeak, Except.ok.injEq, decide_eq_true_eq] at hclimbs
    obtain ⟨hlength, hreached⟩ := hclimbs
    have hle : block (0 + path.length) m + 2 ^ (0 + path.length) ≤ range.entries.length := by
      rw [Nat.zero_add, hlength, hblock]
      exact hpeak.le
    have hclimb : (climb (LogRange.nodeHash V.sha256) path (nodeIndex 0 (block 0 m)) 0
          (V.sha256 (0 :: entry))).2 =
        subtree (LogRange.leafHash V.sha256) (LogRange.nodeHash V.sha256) range.entryAt
          (0 + path.length) (block (0 + path.length) m) := by
      rw [block_zero, nodeIndex_leaf, Nat.zero_add, hlength, hblock]
      exact hreached
    obtain ⟨hleaf, hsame⟩ := hfree.binding.path_unique (hfree.length _) hle hclimb
    rw [block_zero] at hleaf
    rw [hlength] at hsame
    obtain rfl : entry = range.entryAt m := hfree.binding.leaf_binds m hm entry hleaf
    rw [hpath]
    exact ⟨hsame ▸ hloads, hentry, hverify⟩
  · rintro ⟨hloads, hentry, hverify⟩
    refine ⟨_, _, hloads, hentry, hverify, ?_⟩
    have hclimb := @climb_pathFrom _ _ (LogRange.leafHash V.sha256) (LogRange.nodeHash V.sha256)
      range.entryAt m 0 h
    rw [block_zero, nodeIndex_leaf, Nat.zero_add, hblock] at hclimb
    rw [climbsToPeak_eq hpeak, hpath, Except.ok.injEq, decide_eq_true_eq]
    refine ⟨by rw [pathFrom, List.length_map, List.length_range'], ?_⟩
    exact congrArg Prod.snd hclimb

/-- What is accepted names the entry of its leaf, and the proof that is read off the range is
accepted for every leaf. -/
theorem proves_appended {V : ProofTools} {range : LogRange} (hV : V.Lawful)
    (hfree : range.CollisionFree V.sha256) :
    (∀ proof leaf entryHex, proves V proof leaf entryHex (range.anchor V.sha256) = .ok true →
      ∃ m entry, leaf = (m : ℕ) ∧ bytesFromHex entryHex = .ok entry ∧
        range.entries[m]? = some entry) ∧
    ∀ m entry entryHex, range.entries[m]? = some entry → bytesFromHex entryHex = .ok entry →
      proves V (range.inclusion V m) m entryHex (range.anchor V.sha256) = .ok true := by
  have hentryAt : ∀ {m}, m < range.entries.length → range.entries[m]? = some (range.entryAt m) := by
    intro m hm
    rw [LogRange.entryAt, List.getD_eq_getElem?_getD, List.getElem?_eq_getElem hm, Option.getD_some]
  constructor
  · intro proof leaf entryHex haccepted
    by_cases houtside : leaf < 0 ∨ ((range.anchor V.sha256).covered : Int) ≤ leaf
    · rw [proves, if_pos houtside] at haccepted
      cases haccepted
    · obtain ⟨m, rfl⟩ : ∃ m : ℕ, leaf = m := ⟨leaf.toNat, by omega⟩
      have hm : m < range.entries.length := by
        have hcovered : (range.anchor V.sha256).covered = range.entries.length := rfl
        omega
      obtain ⟨-, hentry, -⟩ := (proves_eq_true_iff hfree hm).mp haccepted
      exact ⟨m, range.entryAt m, rfl, hentry, hentryAt hm⟩
  · intro m entry entryHex hentry hhex
    have hm := (List.getElem?_eq_some_iff.mp hentry).1
    obtain rfl : range.entryAt m = entry := Option.some.inj ((hentryAt hm).symm.trans hentry)
    obtain ⟨k, h, a, hpeak⟩ := exists_peakOver hm
    have hdvd : 2 ^ h ∣ a := (Nat.pow_dvd_pow 2 (Nat.le_succ h)).trans hpeak.dvd
    have hblock : block h m = a := block_eq hdvd hpeak.le_leaf hpeak.leaf_lt
    have hstores := range.stores V.sha256
    refine (proves_eq_true_iff hfree hm).mpr ⟨hV.loads_encode m _, hhex, ?_⟩
    have hclimb := @climb_pathFrom _ _ (LogRange.leafHash V.sha256) (LogRange.nodeHash V.sha256)
      range.entryAt m 0 h
    rw [block_zero, nodeIndex_leaf, Nat.zero_add, hblock, ← hstores.inclusionPath_eq hpeak]
      at hclimb
    have hnode := hstores.holds h a hdvd hpeak.le
    have hfits : nodeIndex h a + 1 < 256 ^ 8 := by
      have hlt := (List.getElem?_eq_some_iff.mp hnode).1
      have hrange := range.fits
      rw [hstores.length] at hlt
      omega
    have hreached := @climbPath_eq V.sha256 (inclusionPath (range.nodes V.sha256) m) (leafIndex m) 0
      (V.sha256 (0 :: range.entryAt m))
    apply hV.accepts _ _ _ _ (nodeIndex h a, range.hashOver V.sha256 h a)
    · refine (hreached ?_).trans (congrArg _ hclimb)
      exact (congrArg Prod.fst hclimb).symm ▸ hfits
    · apply List.mem_map.mpr
      refine ⟨nodeIndex h a, ?_, ?_⟩
      · rw [hstores.length]
        exact List.mem_of_getElem? hpeak.position
      · rw [List.getD_eq_getElem?_getD, hnode, Option.getD_some]

end Range

/-! ## A range of three entries -/

def pathJson (index : Int) (path : List Bytes) : Json :=
  .arr (.int index :: path.map fun sibling => .str (hexText sibling))

def parsePath (proof : Bytes) : Option (Int × List Bytes) :=
  match (decodeUtf8 proof >>= Python.loads id).toOption with
  | some (.arr (.int index :: path)) =>
      (path.mapM fun sibling : Json => sibling.toStr >>= bytesFromHex).toOption.map (index, ·)
  | _ => none

theorem parsePath_pathJson (index : Int) (path : List Bytes) :
    parsePath (jcs (pathJson index path)) = some (index, path) := by
  have hproper : (pathJson index path).Proper id := by simp [pathJson]
  have helems : ∀ siblings : List Bytes, Json.sortElems
      (siblings.map fun sibling => .str (hexText sibling)) =
        siblings.map fun sibling => .str (hexText sibling) := by
    intro siblings
    induction siblings with
    | nil => rfl
    | cons sibling siblings ih => rw [List.map_cons, Json.sortElems, ih, Json.sortKeys] <;> simp
  have hsorted : (pathJson index path).sortKeys = pathJson index path := by
    rw [pathJson, Json.sortKeys, Json.sortElems, helems, Json.sortKeys] <;> simp
  have hpath : (path.map fun sibling => Json.str (hexText sibling)).mapM
      (fun sibling => sibling.toStr >>= bytesFromHex) = .ok path := by
    rw [Py.mapM_eq_ok, List.map_map]
    apply List.map_congr_left
    intro sibling _
    rw [Function.comp_apply, Json.toStr_str, Py.ok_bind, bytesFromHex_hexText]
  rw [parsePath, jcs, decodeUtf8_utf8, Py.ok_bind, loads_canonical hproper, hsorted, pathJson]
  simp only [Except.toOption, hpath, Option.map_some]

/-- Proofs as JSON texts, checked by the climb alone. -/
def jsonTools (sha256 : Bytes → Bytes) : ProofTools where
  sha256 := sha256
  loads := parsePath
  encodeInclusion leaf path := jcs (pathJson (leafIndex leaf : ℕ) path)
  verifyInclusion peaks entry proof :=
    (parsePath proof).any fun read =>
      (climbPath sha256 read.2 read.1.toNat 0 (sha256 (0 :: entry))).toOption.any fun reached =>
        decide (reached.2 ∈ peaks)

theorem jsonTools_lawful (sha256 : Bytes → Bytes) : (jsonTools sha256).Lawful where
  loads_encode leaf path := parsePath_pathJson _ _
  accepts peaks entry leaf path reached hreached hmem := by
    have hclimb : climbPath sha256 path (leafIndex leaf) 0 (sha256 (0 :: entry)) = .ok reached :=
      hreached
    simp [jsonTools, parsePath_pathJson, hclimb, Except.toOption, hmem]

/-- A hash that tells apart what is hashed for the entries 1, 2 and 3. -/
def tableHash (bytes : Bytes) : Bytes :=
  if bytes = [0, 1] then List.replicate 32 1
  else if bytes = [0, 2] then List.replicate 32 2
  else if bytes = [0, 3] then List.replicate 32 3
  else if bytes = eightBytes 3 ++ List.replicate 32 1 ++ List.replicate 32 2 then
    List.replicate 32 4
  else List.replicate 32 0

def threeEntries : LogRange := ⟨[[1], [2], [3]], by decide⟩

theorem threeEntries_collisionFree : threeEntries.CollisionFree tableHash where
  length bytes := by
    rw [tableHash]
    split_ifs <;> rfl
  unique {bytes} hhashed other hsame := by
    have hbytes : bytes = [0, 1] ∨ bytes = [0, 2] ∨ bytes = [0, 3] ∨
        bytes = eightBytes 3 ++ List.replicate 32 1 ++ List.replicate 32 2 := by
      cases hhashed with
      | leaf i hi =>
        have hlt : i < 3 := hi
        obtain rfl | rfl | rfl : i = 0 ∨ i = 1 ∨ i = 2 := by omega
        · exact .inl rfl
        · exact .inr (.inl rfl)
        · exact .inr (.inr (.inl rfl))
      | node h a hdvd hle =>
        have hthree : a + 2 ^ (h + 1) ≤ 3 := hle
        have hh : h = 0 := by
          have hlt : h + 1 < 2 ^ (h + 1) := Nat.lt_two_pow_self
          omega
        subst hh
        obtain rfl : a = 0 := by omega
        exact .inr (.inr (.inr (by decide)))
    rw [tableHash] at hsame
    rcases hbytes with rfl | rfl | rfl | rfl
    all_goals
      split_ifs at hsame with h1 h2 h3 h4
      all_goals first
        | assumption
        | exact absurd hsame (by decide)

/-- The third entry, itself a peak, is proven for its own leaf and for no other. -/
theorem proves_appended_threeEntries :
    proves (jsonTools tableHash) (threeEntries.inclusion (jsonTools tableHash) 2) 2 "03"
        (threeEntries.anchor tableHash) = .ok true ∧
      ∀ proof, proves (jsonTools tableHash) proof 0 "03" (threeEntries.anchor tableHash) ≠
        .ok true := by
  have hentry : bytesFromHex "03" = .ok [3] := by decide
  obtain ⟨hsound, hcomplete⟩ :=
    proves_appended (jsonTools_lawful tableHash) threeEntries_collisionFree
  refine ⟨hcomplete 2 [3] "03" rfl hentry, fun proof haccepted => ?_⟩
  obtain ⟨m, entry, hm, hread, hat⟩ := hsound proof 0 "03" haccepted
  obtain rfl : m = 0 := by omega
  obtain rfl := Except.ok.inj (hentry.symm.trans hread)
  exact absurd hat (by decide)

end CapsuleMesh.Evidence
