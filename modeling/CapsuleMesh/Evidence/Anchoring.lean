import CapsuleMesh.Evidence.Responder
import CapsuleMesh.Account.AccountCapsule

/-!
# What an anchor stands for

An artifact that is built from the tree depends on the covered records alone, and
there is none unless these reproduce the root.  The list of checkpoints and the served
summary do not pass through the tree: the summary counts the records it can read, so
a segment that is archived moves records from behind the anchor into its range.
-/

namespace CapsuleMesh

open Python

namespace Ledger.LedgerDir

/-- The whole log, with what is archived. -/
def log (dir : LedgerDir) : List Json :=
  match dir.store with
  | some store => store.records
  | none => dir.flat.getD []

end Ledger.LedgerDir

namespace Ledger

open Library

theorem readableFrom_of_archived_empty (active : List Json) {firstSeq : ℕ} (hfirst : 0 < firstSeq)
    {segments : List Segment} (h : ∀ d ∈ archivedFrom firstSeq segments, d.lastSeq = 0) :
    readableFrom active firstSeq segments =
      numbered firstSeq (segments.flatMap Segment.records ++ active) := by
  induction segments generalizing firstSeq with
  | nil => rfl
  | cons segment segments ih =>
      have hrest : ∀ d ∈ archivedFrom (firstSeq + segment.records.length) segments, d.lastSeq = 0 :=
        fun d hd => h d (by rw [archivedFrom]; exact List.mem_append_right _ hd)
      rw [readableFrom, ih (by omega) hrest, List.flatMap_cons, List.append_assoc,
        numbered_append firstSeq segment.records]
      cases hmounted : segment.mounted with
      | true => rfl
      | false =>
        -- An archived segment that ends before the first number holds nothing.
        have hlast := h ⟨segment.name, firstSeq, firstSeq + segment.records.length - 1,
          segment.records.length⟩ (by rw [archivedFrom]; simp [hmounted])
        have hempty : segment.records = [] := by
          apply List.eq_nil_of_length_eq_zero
          simp only at hlast
          omega
        rw [hempty]
        rfl

theorem LedgerDir.readable_eq_log {dir : LedgerDir} (h : dir.archivedSeen none 0 = []) :
    dir.readable.map Prod.snd = dir.log := by
  have hlast : ∀ d ∈ dir.archived, d.lastSeq = 0 := by
    intro d hd
    by_contra hpos
    have hseen := LedgerDir.archivedSeen_all hd (Nat.pos_of_ne_zero hpos)
    rw [h] at hseen
    simp at hseen
  unfold LedgerDir.readable LedgerDir.log
  unfold LedgerDir.archived at hlast
  cases hstore : dir.store with
  | none => simp
  | some store =>
      rw [hstore] at hlast
      simp only [Store.readable, readableFrom_of_archived_empty store.active Nat.one_pos hlast,
        map_snd_numbered]
      rfl

end Ledger

namespace Evidence

open Ledger History

theorem Serving.bind_eq_ok {α β : Type} {x : Serving α} {f : α → Serving β} {b : β} :
    x >>= f = .ok b ↔ ∃ a, x = .ok a ∧ f a = .ok b :=
  Library.Raising.bind_eq_ok

@[simp] theorem Serving.ofPy_eq_ok {α : Type} {x : Py α} {a : α} :
    Serving.ofPy x = .ok a ↔ x = .ok a :=
  Library.Raising.mapError_eq_ok

@[simp] theorem Serving.ofPy_ok {α : Type} (a : α) : Serving.ofPy (.ok a) = .ok a := rfl

@[simp] theorem Serving.ok_bind {α β : Type} (a : α) (f : α → Serving β) :
    (.ok a : Serving α) >>= f = f a := rfl

/-! ## Loading -/

theorem loadCheckpoint_anchor {lib : Library} {line : CheckpointLine} {cp : Checkpoint}
    (h : loadCheckpoint lib line = .ok cp) {anchor : Anchor} (hanchor : cp.anchor = some anchor) :
    lib.leafCount cp.line.mmrSize = .ok anchor.size ∧
      ∃ statement, bytesFromHex (cp.line.checkpointCose.getD "") = .ok statement := by
  unfold loadCheckpoint at h
  split at h
  · obtain rfl := Except.ok.inj h
    simp at hanchor
  · rename_i cose hcose
    split at h
    · obtain rfl := Except.ok.inj h
      simp at hanchor
    · obtain ⟨statement, hstatement, h⟩ := Py.bind_eq_ok.mp h
      obtain ⟨size, hsize, h⟩ := Py.bind_eq_ok.mp h
      obtain rfl := Except.ok.inj h
      obtain rfl := Option.some.inj hanchor
      exact ⟨hsize, statement, by simpa [hcose] using hstatement⟩

theorem mem_loadCheckpoints {lib : Library} {lines : List CheckpointLine}
    {checkpoints : List Checkpoint} (h : loadCheckpoints lib lines = .ok checkpoints)
    {cp : Checkpoint} (hcp : cp ∈ checkpoints) {anchor : Anchor} (hanchor : cp.anchor = some anchor) :
    lib.leafCount cp.line.mmrSize = .ok anchor.size ∧
      ∃ statement, bytesFromHex (cp.line.checkpointCose.getD "") = .ok statement := by
  have hloaded : (.ok cp : Py Checkpoint) ∈ lines.map (loadCheckpoint lib) := by
    rw [Py.mapM_eq_ok.mp h]
    exact List.mem_map_of_mem hcp
  obtain ⟨line, -, hline⟩ := List.mem_map.mp hloaded
  exact loadCheckpoint_anchor hline hanchor

theorem checkpointFor_eq_ok {checkpoints : List Checkpoint} {anchor : Anchor} {at_ : Checkpoint}
    (h : checkpointFor checkpoints anchor = .ok at_) :
    at_ ∈ checkpoints ∧ at_.anchor = some anchor := by
  unfold checkpointFor at h
  split at h
  · rename_i cp hfind
    obtain rfl := Except.ok.inj h
    exact ⟨List.mem_of_find?_eq_some hfind, by simpa using List.find?_some hfind⟩
  · cases h

/-- The anchor that the request resolved to, among the lines of the file. -/
def ServedUnder (lib : Library) (lines : List CheckpointLine) (anchor : Anchor)
    (checkpoints : List Checkpoint) (at_ : Checkpoint) : Prop :=
  loadCheckpoints lib lines = .ok checkpoints ∧ checkpointFor checkpoints anchor = .ok at_

theorem ServedUnder.unique {lib : Library} {lines : List CheckpointLine} {anchor : Anchor}
    {checkpoints checkpoints' : List Checkpoint} {at_ at' : Checkpoint}
    (h : ServedUnder lib lines anchor checkpoints at_)
    (h' : ServedUnder lib lines anchor checkpoints' at') : checkpoints' = checkpoints ∧ at' = at_ := by
  obtain rfl := Except.ok.inj (h.1.symm.trans h'.1)
  exact ⟨rfl, Except.ok.inj (h'.2.symm.trans h.2)⟩

/-- Whether the request is a summary that was not pinned. -/
def Unpinned (request : Request) : Prop :=
  request.derivation = some SERVED_SUMMARY_DERIVATION_TOKEN ∧ request.expectedPin = none

instance (request : Request) : Decidable (Unpinned request) :=
  inferInstanceAs (Decidable (_ ∧ _))

def storeOf (dir : LedgerDir) (indexOf : List (Key × ℕ)) (checkpoints : List Checkpoint) :
    MeshEvidenceStore :=
  ⟨dir.readable.map Prod.snd, dir.archivedSeen none 0, indexOf, checkpoints⟩

@[simp] theorem storeOf_checkpoints (dir : LedgerDir) (indexOf : List (Key × ℕ))
    (checkpoints : List Checkpoint) : (storeOf dir indexOf checkpoints).checkpoints = checkpoints :=
  rfl

theorem loadStore_eq_ok {lib : Library} {dir : LedgerDir} {lines : List CheckpointLine}
    {store : MeshEvidenceStore} :
    loadStore lib dir lines = .ok store ↔
      ∃ indexOf checkpoints, indexFrom 0 (dir.readable.map Prod.snd) = .ok indexOf ∧
        loadCheckpoints lib lines = .ok checkpoints ∧ store = storeOf dir indexOf checkpoints := by
  simp only [loadStore, dir.readAllCapsules_eq, Py.ok_bind, Py.bind_eq_ok, Py.pure_eq_ok,
    Except.ok.injEq]
  constructor
  · rintro ⟨indexOf, hindex, checkpoints, hload, rfl⟩
    exact ⟨indexOf, checkpoints, hindex, hload, rfl⟩
  · rintro ⟨indexOf, checkpoints, hindex, hload, rfl⟩
    exact ⟨indexOf, hindex, checkpoints, hload, rfl⟩

/-- What an answer consists of. -/
theorem answer_eq_ok {lib : Library} {dir : LedgerDir} {lines : List CheckpointLine}
    {request : Request} {anchor : Anchor} {out : Artifact} :
    answer lib dir lines request anchor = .ok out ↔
      ¬Unpinned request ∧ ∃ indexOf checkpoints at_ statement,
        indexFrom 0 (dir.readable.map Prod.snd) = .ok indexOf ∧
        ServedUnder lib lines anchor checkpoints at_ ∧
        bytesFromHex (at_.line.checkpointCose.getD "") = .ok statement ∧
        artifactUnder lib (storeOf dir indexOf checkpoints) at_ anchor statement request.subject
          request.derivation = .ok out := by
  unfold answer
  by_cases hpin : Unpinned request
  · have hpin' := hpin
    unfold Unpinned at hpin'
    simp [hpin, hpin']
  · have hpin' := hpin
    unfold Unpinned at hpin'
    rw [if_neg hpin']
    simp only [Serving.bind_eq_ok, Serving.ofPy_eq_ok, loadStore_eq_ok, artifact, hpin,
      not_false_eq_true, true_and]
    constructor
    · rintro ⟨store, ⟨indexOf, checkpoints, hindex, hload, rfl⟩, at_, hat, statement, hstatement, h⟩
      exact ⟨indexOf, checkpoints, at_, statement, hindex, ⟨hload, hat⟩, hstatement, h⟩
    · rintro ⟨indexOf, checkpoints, at_, statement, hindex, ⟨hload, hat⟩, hstatement, h⟩
      exact ⟨_, ⟨indexOf, checkpoints, hindex, hload, rfl⟩, at_, hat, statement, hstatement, h⟩

/-! ## Records under the tree -/

/-- The covered records are all there and give the root. -/
def Reproduces (lib : Library) (cp : CheckpointLine) (size : ℕ) (records : List Json) : Prop :=
  records.length = size ∧ ∃ entries, records.mapM entryOf = .ok entries ∧
    lib.treeSize (lib.rebuild entries) = cp.mmrSize ∧
    lib.rootAt (lib.rebuild entries) cp.mmrSize = .ok cp.root

theorem treeOf_eq_ok {lib : Library} {store : MeshEvidenceStore} {cp : CheckpointLine}
    {covered : ℕ} {tree : lib.Tree} (h : treeOf lib store cp covered = .ok tree) :
    store.archived = [] ∧ covered ≤ store.records.length ∧
      ∃ entries, (store.records.take covered).mapM entryOf = .ok entries ∧
        tree = lib.rebuild entries ∧ lib.treeSize tree = cp.mmrSize ∧
        lib.rootAt tree cp.mmrSize = .ok cp.root := by
  unfold treeOf at h
  split at h
  · cases h
  · rename_i hmounted
    obtain ⟨harchived, hlength⟩ : store.archived = [] ∧ covered ≤ store.records.length := by
      simpa using hmounted
    split at h
    · cases h
    · rename_i entries hentries
      simp only [] at h
      split at h
      · cases h
      · rename_i hsize
        obtain ⟨root, hroot, h⟩ := Serving.bind_eq_ok.mp h
        split at h
        · cases h
        · rename_i hsame
          obtain rfl := Except.ok.inj h
          obtain rfl := not_not.mp hsame
          exact ⟨harchived, hlength, entries, hentries, rfl, not_not.mp hsize,
            Serving.ofPy_eq_ok.mp hroot⟩

theorem indexFrom_append {i : ℕ} {before after : List Json} {pairs : List (Key × ℕ)}
    (h : indexFrom i (before ++ after) = .ok pairs) :
    ∃ pairs₁ pairs₂, indexFrom i before = .ok pairs₁ ∧
      indexFrom (i + before.length) after = .ok pairs₂ ∧ pairs = pairs₁ ++ pairs₂ := by
  induction before generalizing i pairs with
  | nil => exact ⟨[], pairs, rfl, by simpa using h, rfl⟩
  | cons record before ih =>
      rw [List.cons_append, indexFrom] at h
      obtain ⟨id, hid, h⟩ := Py.bind_eq_ok.mp h
      obtain ⟨key, hkey, h⟩ := Py.bind_eq_ok.mp h
      obtain ⟨rest, hrest, h⟩ := Py.bind_eq_ok.mp h
      obtain ⟨pairs₁, pairs₂, h₁, h₂, rfl⟩ := ih hrest
      refine ⟨(key, i) :: pairs₁, pairs₂, ?_, ?_, (Except.ok.inj h).symm⟩
      · simp [indexFrom, hid, hkey, h₁]
      · rw [← h₂, List.length_cons]
        congr 1
        omega

theorem le_of_mem_indexFrom {i j : ℕ} {records : List Json} {pairs : List (Key × ℕ)}
    (h : indexFrom i records = .ok pairs) {key : Key} (hmem : (key, j) ∈ pairs) : i ≤ j := by
  induction records generalizing i pairs with
  | nil =>
      obtain rfl := Except.ok.inj h
      simp at hmem
  | cons record records ih =>
      rw [indexFrom] at h
      obtain ⟨id, -, h⟩ := Py.bind_eq_ok.mp h
      obtain ⟨k, -, h⟩ := Py.bind_eq_ok.mp h
      obtain ⟨rest, hrest, h⟩ := Py.bind_eq_ok.mp h
      obtain rfl := Except.ok.inj h
      rcases List.mem_cons.mp hmem with hhead | hmem
      · exact (Prod.mk.inj hhead).2.symm.le
      · exact (Nat.le_succ i).trans (ih hrest hmem)

/-- A record that is found among the first ones is found without looking further. -/
theorem lookup_indexFrom_take {n i : ℕ} {records : List Json} (hn : n ≤ records.length)
    {pairs : List (Key × ℕ)} (h : indexFrom 0 records = .ok pairs) {key : Key}
    (hlookup : pairs.lookup key = some i) (hi : i < n) :
    ∃ pairs', indexFrom 0 (records.take n) = .ok pairs' ∧ pairs'.lookup key = some i := by
  rw [← List.take_append_drop n records] at h
  obtain ⟨pairs₁, pairs₂, h₁, h₂, rfl⟩ := indexFrom_append h
  refine ⟨pairs₁, h₁, ?_⟩
  rw [List.lookup_append] at hlookup
  cases hfirst : pairs₁.lookup key with
  | some j => rw [hfirst] at hlookup; exact hlookup
  | none =>
      rw [hfirst, Option.none_or] at hlookup
      obtain ⟨before, after, rfl, -⟩ := List.lookup_eq_some_iff.mp hlookup
      have hmem : (key, i) ∈ before ++ (key, i) :: after := by simp
      have hlow := le_of_mem_indexFrom h₂ hmem
      rw [List.length_take, Nat.min_eq_left hn] at hlow
      omega

/-- The indices of an answer are those of the covered records. -/
theorem recordIndices_eq_ok {store store' : MeshEvidenceStore} {subject : Subject} {n : ℕ}
    {indices indices' : List ℕ} (hindex : indexFrom 0 store.records = .ok store.indexOf)
    (hindex' : indexFrom 0 store'.records = .ok store'.indexOf)
    (hn : n ≤ store.records.length) (hn' : n ≤ store'.records.length)
    (hsame : store'.records.take n = store.records.take n)
    (hrange : ∀ first last, subject = .range first last → last < n)
    (h : recordIndices store subject n = .ok indices)
    (h' : recordIndices store' subject n = .ok indices') :
    indices' = indices ∧ ∀ i ∈ indices, i < n := by
  have hrecord : ∀ i < n, store'.records[i]? = store.records[i]? := by
    intro i hi
    have hi' := congrArg (·[i]?) hsame
    simpa [List.getElem?_take, hi] using hi'
  cases subject with
  | record digest =>
      simp only [recordIndices] at h h'
      split at h
      · cases h
      · rename_i i hi
        split at h
        · cases h
        · rename_i hcovered
          split at h'
          · cases h'
          · rename_i j hj
            split at h'
            · cases h'
            · rename_i hcovered'
              obtain rfl := Except.ok.inj h
              obtain rfl := Except.ok.inj h'
              obtain ⟨pairs, hpairs, hfound⟩ := lookup_indexFrom_take hn hindex hi (by omega)
              obtain ⟨pairs', hpairs', hfound'⟩ := lookup_indexFrom_take hn' hindex' hj (by omega)
              rw [hsame, hpairs] at hpairs'
              obtain rfl := Except.ok.inj hpairs'
              obtain rfl := Option.some.inj (hfound.symm.trans hfound')
              exact ⟨rfl, by simpa using hcovered⟩
  | range first last =>
      have hlast := hrange first last rfl
      obtain rfl := Except.ok.inj h
      obtain rfl := Except.ok.inj h'
      refine ⟨rfl, fun i hi => ?_⟩
      rw [List.mem_range'_1] at hi
      omega
  | correlation id =>
      simp only [recordIndices, Nat.min_eq_left hn, Nat.min_eq_left hn'] at h h'
      have hfilter : (List.range n).filter (fun i ↦ (store'.records[i]?).any (carriesCorrelation · id))
          = (List.range n).filter fun i => (store.records[i]?).any (carriesCorrelation · id) := by
        refine List.filter_congr fun i hi => ?_
        rw [hrecord i (List.mem_range.mp hi)]
      rw [hfilter] at h'
      split at h
      · cases h
      · rename_i hsome
        rw [if_neg hsome] at h'
        obtain rfl := Except.ok.inj h
        obtain rfl := Except.ok.inj h'
        exact ⟨rfl, fun i hi => List.mem_range.mp (List.mem_filter.mp hi).1⟩
  | checkpoints | fullHistory | exchange half =>
      simp only [recordIndices, Nat.min_eq_left hn, Nat.min_eq_left hn'] at h h'
      obtain rfl := Except.ok.inj h
      obtain rfl := Except.ok.inj h'
      exact ⟨rfl, fun i hi => List.mem_range.mp hi⟩

theorem mapM_congr_mem {α β : Type} {f g : α → Serving β} {as : List α}
    (h : ∀ a ∈ as, f a = g a) : as.mapM f = as.mapM g := by
  induction as with
  | nil => rfl
  | cons a as ih =>
      rw [List.mapM_cons, List.mapM_cons, h a (by simp), ih fun b hb => h b (by simp [hb])]

/-- An answer with records reads only the records it lists. -/
theorem recordAnswer_congr (lib : Library) (at_ : Checkpoint) (statement : Bytes)
    (head : List (String × Json)) (subject : Subject) (tree : lib.Tree)
    {records records' : List Json} {indices : List ℕ}
    (h : ∀ i ∈ indices, records'[i]? = records[i]?) :
    recordAnswer lib at_ statement head subject tree records' indices =
      recordAnswer lib at_ statement head subject tree records indices := by
  have hat : ∀ i ∈ indices, recordAt records' i = recordAt records i := by
    intro i hi
    rw [recordAt, recordAt, h i hi]
  cases subject with
  | record digest =>
      cases indices with
      | nil => rfl
      | cons i indices =>
        simp only [recordAnswer, List.head?_cons, Option.map_some, Option.getD_some,
          Serving.ofPy_ok, Serving.ok_bind, hat i (by simp)]
  | range _ _ | correlation _ | checkpoints | fullHistory | exchange _ =>
      simp only [recordAnswer]
      congr 1
      funext proofs
      congr 1
      refine mapM_congr_mem fun i hi => ?_
      rw [hat i hi]

theorem artifactUnder_records {lib : Library} {store : MeshEvidenceStore} {at_ : Checkpoint}
    {anchor : Anchor} {statement : Bytes} {subject : Subject} {derivation : Option String}
    {out : Artifact} (hderivation : derivation ≠ some SERVED_SUMMARY_DERIVATION_TOKEN)
    (hsubject : subject ≠ .checkpoints)
    (h : artifactUnder lib store at_ anchor statement subject derivation = .ok out) :
    ∃ indices tree, recordIndices store subject anchor.size = .ok indices ∧
      treeOf lib store at_.line anchor.size = .ok tree ∧
      recordAnswer lib at_ statement (headOf at_ anchor.digest subject) subject tree store.records
        indices = .ok out := by
  simp only [artifactUnder, if_neg hderivation, if_neg hsubject] at h
  obtain ⟨indices, hindices, h⟩ := Serving.bind_eq_ok.mp h
  split at h
  · cases h
  · obtain ⟨tree, htree, h⟩ := Serving.bind_eq_ok.mp h
    exact ⟨indices, tree, hindices, htree, h⟩

/-- A store whose tree is rebuilt reads the log itself. -/
theorem treeOf_storeOf {lib : Library} {dir : LedgerDir} {indexOf : List (Key × ℕ)}
    {checkpoints : List Checkpoint} {cp : CheckpointLine} {covered : ℕ} {tree : lib.Tree}
    (h : treeOf lib (storeOf dir indexOf checkpoints) cp covered = .ok tree) :
    (storeOf dir indexOf checkpoints).records = dir.log ∧ covered ≤ dir.log.length ∧
      Reproduces lib cp covered (dir.log.take covered) ∧
      ∃ entries, (dir.log.take covered).mapM entryOf = .ok entries ∧
        tree = lib.rebuild entries := by
  obtain ⟨harchived, hcovered, entries, hentries, rfl, hsize, hroot⟩ := treeOf_eq_ok h
  have hlog : (storeOf dir indexOf checkpoints).records = dir.log :=
    LedgerDir.readable_eq_log harchived
  rw [hlog] at hcovered hentries
  refine ⟨hlog, hcovered, ⟨?_, entries, hentries, hsize, hroot⟩, entries, hentries, rfl⟩
  rw [List.length_take, Nat.min_eq_left hcovered]

/-! ## The served summary -/

def latestAnchor (checkpoints : List Checkpoint) : Option Checkpoint :=
  (checkpoints.filter (·.anchor.isSome)).getLast?

/-- A summary is served under a root that is the latest anchor's. -/
structure SummaryServed (checkpoints : List Checkpoint) (cp : CheckpointLine)
    (latest : Checkpoint) : Prop where
  root_ne : cp.root ≠ ""
  isLatest : latestAnchor checkpoints = some latest
  sameRoot : latest.line.root = cp.root
  hasKey : latest.line.keyId ≠ none

/-- The summary of what the latest anchor covers of the records that can be read. -/
def summaryValue (lib : Library) (latest : CheckpointLine) (records : List Json) : Py Json := do
  let summary ← Account.buildServedSummary lib.doubles lib.leafCount
    (.str (nodeIdFromKeyId (latest.keyId.getD ""))) records (some latest) .sidecar
  summary.toValue lib.doubles lib.definitionDigest

theorem servedSummary_eq {lib : Library} {checkpoints : List Checkpoint} {cp : CheckpointLine}
    {latest : Checkpoint} (h : SummaryServed checkpoints cp latest) (records : List Json) :
    servedSummary lib records checkpoints cp =
      Serving.ofPy (summaryValue lib latest.line records) := by
  have hlast : ((checkpoints.filter (·.anchor.isSome)).map Checkpoint.line).getLast? =
      some latest.line := by
    rw [List.getLast?_map, ← latestAnchor, h.isLatest]
    rfl
  obtain ⟨keyId, hkey⟩ := Option.ne_none_iff_exists'.mp h.hasKey
  simp only [servedSummary, if_neg h.root_ne, hlast, h.sameRoot, hkey, ne_eq, not_true_eq_false,
    if_false, summaryValue, Option.getD_some]

theorem summaryServed_of_ok {lib : Library} {records : List Json} {checkpoints : List Checkpoint}
    {cp : CheckpointLine} {value : Json}
    (h : servedSummary lib records checkpoints cp = .ok value) :
    ∃ latest, SummaryServed checkpoints cp latest := by
  unfold servedSummary at h
  simp only [List.getLast?_map] at h
  split at h
  · cases h
  · rename_i hroot
    split at h
    · cases h
    · rename_i line hlast
      obtain ⟨latest, hlatest, rfl⟩ := Option.map_eq_some_iff.mp hlast
      split at h
      · cases h
      · rename_i hsame
        split at h
        · cases h
        · rename_i keyId hkey
          exact ⟨latest, hroot, hlatest, not_not.mp hsame, by simp [hkey]⟩

theorem SummaryServed.leafCount {lib : Library} {lines : List CheckpointLine}
    {checkpoints : List Checkpoint} (hload : loadCheckpoints lib lines = .ok checkpoints)
    {cp : CheckpointLine} {latest : Checkpoint} (h : SummaryServed checkpoints cp latest) :
    ∃ anchor, latest.anchor = some anchor ∧ lib.leafCount latest.line.mmrSize = .ok anchor.size := by
  have hmem := List.mem_of_getLast? h.isLatest
  obtain ⟨hmem, hsome⟩ := List.mem_filter.mp hmem
  obtain ⟨anchor, hanchor⟩ := Option.isSome_iff_exists.mp hsome
  exact ⟨anchor, hanchor, (mem_loadCheckpoints hload hmem hanchor).1⟩

theorem summaryValue_take {lib : Library} {latest : CheckpointLine} {n : ℕ}
    (hn : lib.leafCount latest.mmrSize = .ok n) (records : List Json) :
    summaryValue lib latest (records.take n) = summaryValue lib latest records := by
  rw [summaryValue, summaryValue, Account.buildServedSummary_take _ hn]

/-- How many records a summary says it covers. -/
def coveredEntries (summary : Json) : Py Json := do
  (← summary.get "selection").get "covered_entries"

theorem coveredEntries_summaryValue {lib : Library} {latest : CheckpointLine} {n : ℕ}
    (hn : lib.leafCount latest.mmrSize = .ok n) {records : List Json} {value : Json}
    (h : summaryValue lib latest records = .ok value) :
    coveredEntries value = .ok (.int (min n records.length : ℕ)) := by
  unfold summaryValue at h
  obtain ⟨summary, hsummary, hvalue⟩ := Py.bind_eq_ok.mp h
  have hcovered : summary.coveredEntries = min n records.length := by
    simp only [Account.buildServedSummary, hn, Py.ok_bind, Py.bind_eq_ok] at hsummary
    obtain ⟨own, -, byModel, -, received, -, hsummary⟩ := hsummary
    obtain rfl := Except.ok.inj hsummary
    rfl
  obtain ⟨byModel, -, hvalue⟩ := Py.bind_eq_ok.mp hvalue
  obtain rfl := Except.ok.inj hvalue
  rw [← hcovered]
  rfl

/-- A record that this node requested: a summary counts it as covered and reads nothing
else from it. -/
def requestedRecord : Json :=
  .obj [("model_attestation", .obj [("compute_attestation", .obj [("x-mesh-poc-v1", .obj
    [("role", .str "requested")])])])]

theorem summaryValue_nil (lib : Library) {latest : CheckpointLine} {n : ℕ}
    (hn : lib.leafCount latest.mmrSize = .ok n) : ∃ value, summaryValue lib latest [] = .ok value := by
  simp only [summaryValue, Account.buildServedSummary, hn, Py.ok_bind, List.take_nil]
  exact ⟨_, rfl⟩

theorem summaryValue_requested (lib : Library) {latest : CheckpointLine} {n : ℕ}
    (hn : lib.leafCount latest.mmrSize = .ok (n + 1)) :
    ∃ value, summaryValue lib latest [requestedRecord] = .ok value := by
  have hone : min (n + 1) [requestedRecord].length = 1 := by simp
  simp only [summaryValue, Account.buildServedSummary, hn, Py.ok_bind, hone]
  exact ⟨_, rfl⟩

/-! ## Answers under an anchor -/

/-- Whatever is returned under the anchor, for any log that begins with these records
and any pattern of archived segments: the records reproduce the root, and the artifact
is the same for all of them. -/
def AnchoredAnswer (lib : Library) (lines : List CheckpointLine) (request : Request)
    (anchor : Anchor) (covered : List Json) : Prop :=
  ∀ dir : LedgerDir, dir.log.take anchor.size = covered → ∀ out,
    answer lib dir lines request anchor = .ok out →
      (∃ checkpoints at_, ServedUnder lib lines anchor checkpoints at_ ∧
        Reproduces lib at_.line anchor.size covered) ∧
      ∀ dir' : LedgerDir, dir'.log.take anchor.size = covered → ∀ out',
        answer lib dir' lines request anchor = .ok out' → out' = out

/-- A list of checkpoints is served: it is not too long and has no gap. -/
def Listed (checkpoints : List Checkpoint) (at_ : Checkpoint) : Prop :=
  (chainTo checkpoints at_).length ≤ MAX_ANSWER_CHECKPOINTS ∧
    ∀ cp ∈ chainTo checkpoints at_, cp.anchor ≠ none

/-- Where an artifact that is not built from the tree is served, the covered records
reproduce the root, and a summary covers nothing. -/
structure KeepsAnchor (lib : Library) (lines : List CheckpointLine) (request : Request)
    (anchor : Anchor) (covered : List Json) : Prop where
  summary : request.derivation = some SERVED_SUMMARY_DERIVATION_TOKEN →
    request.expectedPin ≠ none → ∀ checkpoints at_, ServedUnder lib lines anchor checkpoints at_ →
      ∀ latest, SummaryServed checkpoints at_.line latest →
        latest.anchor.map Anchor.size = some 0 ∧ Reproduces lib at_.line anchor.size covered
  checkpointList : request.derivation ≠ some SERVED_SUMMARY_DERIVATION_TOKEN →
    request.subject = .checkpoints → ∀ checkpoints at_,
      ServedUnder lib lines anchor checkpoints at_ → Listed checkpoints at_ →
        Reproduces lib at_.line anchor.size covered

section

variable {lib : Library} {lines : List CheckpointLine} {request : Request} {anchor : Anchor}
  {covered : List Json}

theorem anchored_of_records (hderivation : request.derivation ≠ some SERVED_SUMMARY_DERIVATION_TOKEN)
    (hsubject : request.subject ≠ .checkpoints)
    (hrange : ∀ first last, request.subject = .range first last → last < anchor.size) :
    AnchoredAnswer lib lines request anchor covered := by
  intro dir hdir out hout
  obtain ⟨-, indexOf, checkpoints, at_, statement, hindex, hserved, hstatement, hartifact⟩ :=
    answer_eq_ok.mp hout
  obtain ⟨indices, tree, hindices, htree, hanswer⟩ :=
    artifactUnder_records hderivation hsubject hartifact
  obtain ⟨hlog, hlength, hreproduces, entries, hentries, rfl⟩ := treeOf_storeOf htree
  rw [hdir] at hreproduces hentries
  refine ⟨⟨checkpoints, at_, hserved, hreproduces⟩, ?_⟩
  intro dir' hdir' out' hout'
  obtain ⟨-, indexOf', checkpoints', at', statement', hindex', hserved', hstatement', hartifact'⟩ :=
    answer_eq_ok.mp hout'
  obtain ⟨rfl, rfl⟩ := hserved.unique hserved'
  obtain rfl := Except.ok.inj (hstatement.symm.trans hstatement')
  obtain ⟨indices', tree', hindices', htree', hanswer'⟩ :=
    artifactUnder_records hderivation hsubject hartifact'
  obtain ⟨hlog', hlength', -, entries', hentries', rfl⟩ := treeOf_storeOf htree'
  rw [hdir'] at hentries'
  obtain rfl := Except.ok.inj (hentries.symm.trans hentries')
  have hsame : dir'.log.take anchor.size = dir.log.take anchor.size := hdir'.trans hdir.symm
  obtain ⟨rfl, hcovered⟩ := recordIndices_eq_ok hindex hindex' (by rw [hlog]; exact hlength)
    (by rw [hlog']; exact hlength') (by rw [hlog, hlog']; exact hsame) hrange hindices hindices'
  have hrecords : ∀ i ∈ indices', dir'.log[i]? = dir.log[i]? := by
    intro i hi
    have hi' := congrArg (·[i]?) hsame
    simpa [List.getElem?_take, hcovered i hi] using hi'
  rw [hlog', recordAnswer_congr lib _ _ _ _ _ hrecords, ← hlog, hanswer] at hanswer'
  exact (Except.ok.inj hanswer').symm

theorem artifactUnder_summary {store : MeshEvidenceStore} {at_ : Checkpoint} {statement : Bytes}
    (hderivation : request.derivation = some SERVED_SUMMARY_DERIVATION_TOKEN) {out : Artifact} :
    artifactUnder lib store at_ anchor statement request.subject request.derivation = .ok out ↔
      ∃ summary, servedSummary lib store.records store.checkpoints at_.line = .ok summary ∧
        out = ⟨.obj (headOf at_ anchor.digest request.subject ++
          [("derivation", .str SERVED_SUMMARY_DERIVATION_TOKEN), ("served_summary", summary)]),
          [("cll-checkpoint", statement)]⟩ := by
  simp only [artifactUnder, if_pos hderivation, Serving.bind_eq_ok]
  constructor
  · rintro ⟨summary, hsummary, h⟩
    exact ⟨summary, hsummary, (Except.ok.inj h).symm⟩
  · rintro ⟨summary, hsummary, rfl⟩
    exact ⟨summary, hsummary, rfl⟩

theorem anchored_of_empty_summary
    (hderivation : request.derivation = some SERVED_SUMMARY_DERIVATION_TOKEN)
    (h : KeepsAnchor lib lines request anchor covered) :
    AnchoredAnswer lib lines request anchor covered := by
  intro dir hdir out hout
  obtain ⟨hpinned, indexOf, checkpoints, at_, statement, -, hserved, hstatement, hartifact⟩ :=
    answer_eq_ok.mp hout
  have hpin : request.expectedPin ≠ none := fun hnone => hpinned ⟨hderivation, hnone⟩
  obtain ⟨summary, hsummary, rfl⟩ := (artifactUnder_summary hderivation).mp hartifact
  rw [storeOf_checkpoints] at hsummary
  obtain ⟨latest, hlatest⟩ := summaryServed_of_ok hsummary
  obtain ⟨hzero, hreproduces⟩ := h.summary hderivation hpin checkpoints at_ hserved latest hlatest
  obtain ⟨a, ha, hleaves⟩ := hlatest.leafCount hserved.1
  have hleaves : lib.leafCount latest.line.mmrSize = .ok 0 := by
    rw [hleaves]
    simpa [ha] using hzero
  refine ⟨⟨checkpoints, at_, hserved, hreproduces⟩, ?_⟩
  intro dir' hdir' out' hout'
  obtain ⟨-, indexOf', checkpoints', at', statement', -, hserved', hstatement', hartifact'⟩ :=
    answer_eq_ok.mp hout'
  obtain ⟨rfl, rfl⟩ := hserved.unique hserved'
  obtain rfl := Except.ok.inj (hstatement.symm.trans hstatement')
  obtain ⟨summary', hsummary', rfl⟩ := (artifactUnder_summary hderivation).mp hartifact'
  -- A summary that covers nothing reads no record.
  have hread : ∀ records, summaryValue lib latest.line records = summaryValue lib latest.line [] :=
    fun records => (summaryValue_take hleaves records).symm
  rw [servedSummary_eq hlatest, hread] at hsummary
  rw [storeOf_checkpoints, servedSummary_eq hlatest, hread] at hsummary'
  obtain rfl := Except.ok.inj (hsummary.symm.trans hsummary')
  rfl

theorem artifactUnder_checkpoints {store : MeshEvidenceStore} {at_ : Checkpoint} {statement : Bytes}
    (hderivation : request.derivation ≠ some SERVED_SUMMARY_DERIVATION_TOKEN)
    (hsubject : request.subject = .checkpoints) {out : Artifact} :
    artifactUnder lib store at_ anchor statement request.subject request.derivation = .ok out ↔
      Listed store.checkpoints at_ ∧
        out = ⟨.obj (headOf at_ anchor.digest request.subject ++
          [("checkpoints", .arr ((chainTo store.checkpoints at_).map coseOf))]), []⟩ := by
  simp only [artifactUnder, if_neg hderivation, if_pos hsubject, checkpointList, Listed]
  split
  · rename_i hlong
    simp [Nat.not_le.mpr hlong]
  · rename_i hlong
    split
    · rename_i hgap
      obtain ⟨cp, hcp, hnone⟩ := List.any_eq_true.mp hgap
      have hlisted : ¬∀ cp ∈ chainTo store.checkpoints at_, cp.anchor ≠ none :=
        fun hall => hall cp hcp (Option.isNone_iff_eq_none.mp hnone)
      simp [unsatisfiable, hlisted]
    · rename_i hgap
      have hlisted : ∀ cp ∈ chainTo store.checkpoints at_, cp.anchor ≠ none := by
        intro cp hcp hnone
        exact hgap (List.any_eq_true.mpr ⟨cp, hcp, by simp [hnone]⟩)
      constructor
      · intro h
        exact ⟨⟨Nat.not_lt.mp hlong, hlisted⟩, (Except.ok.inj h).symm⟩
      · rintro ⟨-, rfl⟩
        rfl

theorem anchored_of_checkpoints
    (hderivation : request.derivation ≠ some SERVED_SUMMARY_DERIVATION_TOKEN)
    (hsubject : request.subject = .checkpoints) (h : KeepsAnchor lib lines request anchor covered) :
    AnchoredAnswer lib lines request anchor covered := by
  intro dir hdir out hout
  obtain ⟨-, indexOf, checkpoints, at_, statement, -, hserved, -, hartifact⟩ := answer_eq_ok.mp hout
  obtain ⟨hlisted, rfl⟩ := (artifactUnder_checkpoints hderivation hsubject).mp hartifact
  have hreproduces := h.checkpointList hderivation hsubject checkpoints at_ hserved hlisted
  refine ⟨⟨checkpoints, at_, hserved, hreproduces⟩, ?_⟩
  intro dir' hdir' out' hout'
  obtain ⟨-, indexOf', checkpoints', at', statement', -, hserved', -, hartifact'⟩ :=
    answer_eq_ok.mp hout'
  obtain ⟨rfl, rfl⟩ := hserved.unique hserved'
  exact ((artifactUnder_checkpoints hderivation hsubject).mp hartifact').2

/-! ## The answers that give an anchor away -/

/-- A log that is archived up to its active segment. -/
def archivedDir (log active : List Json) (h : active.length ≤ ACTIVE_WINDOW) : LedgerDir where
  flat := none
  store := some ⟨[⟨"segment-000001", log, false⟩], active, h⟩

@[simp] theorem archivedDir_readable (log active : List Json) (h : active.length ≤ ACTIVE_WINDOW) :
    (archivedDir log active h).readable.map Prod.snd = active := by
  simp [archivedDir, LedgerDir.readable, Store.readable, readableFrom]

@[simp] theorem archivedDir_log (log active : List Json) (h : active.length ≤ ACTIVE_WINDOW) :
    (archivedDir log active h).log = log ++ active := by
  simp [archivedDir, LedgerDir.log, Store.records]

/-- What the anchored summary of such a log is. -/
theorem answer_archivedDir
    (hderivation : request.derivation = some SERVED_SUMMARY_DERIVATION_TOKEN)
    (hpin : request.expectedPin ≠ none) {checkpoints : List Checkpoint} {at_ latest : Checkpoint}
    (hserved : ServedUnder lib lines anchor checkpoints at_)
    (hlatest : SummaryServed checkpoints at_.line latest) (log : List Json) {active : List Json}
    (hactive : active.length ≤ ACTIVE_WINDOW) {indexOf : List (Key × ℕ)}
    (hindex : indexFrom 0 active = .ok indexOf) {summary : Json}
    (hsummary : summaryValue lib latest.line active = .ok summary) :
    ∃ out, answer lib (archivedDir log active hactive) lines request anchor = .ok out ∧
      out.value.get "served_summary" = .ok summary := by
  obtain ⟨hmem, hanchor⟩ := checkpointFor_eq_ok hserved.2
  obtain ⟨-, statement, hstatement⟩ := mem_loadCheckpoints hserved.1 hmem hanchor
  refine ⟨_, answer_eq_ok.mpr ⟨fun h => hpin h.2, indexOf, checkpoints, at_, statement, ?_, hserved,
    hstatement, (artifactUnder_summary hderivation).mpr ⟨summary, ?_, rfl⟩⟩, rfl⟩
  · rw [archivedDir_readable]
    exact hindex
  · rw [storeOf_checkpoints, servedSummary_eq hlatest, Serving.ofPy_eq_ok]
    simpa only [storeOf, archivedDir_readable] using hsummary

theorem reproduces_of_anchored (h : AnchoredAnswer lib lines request anchor covered)
    {checkpoints : List Checkpoint} {at_ : Checkpoint}
    (hserved : ServedUnder lib lines anchor checkpoints at_) {dir : LedgerDir}
    (hdir : dir.log.take anchor.size = covered) {out : Artifact}
    (hout : answer lib dir lines request anchor = .ok out) :
    Reproduces lib at_.line anchor.size covered := by
  obtain ⟨⟨checkpoints', at', hserved', hreproduces⟩, -⟩ := h dir hdir out hout
  obtain ⟨-, rfl⟩ := hserved.unique hserved'
  exact hreproduces

theorem empty_of_anchored_summary (hcovered : covered.length ≤ anchor.size)
    (h : AnchoredAnswer lib lines request anchor covered)
    (hderivation : request.derivation = some SERVED_SUMMARY_DERIVATION_TOKEN)
    (hpin : request.expectedPin ≠ none) {checkpoints : List Checkpoint} {at_ latest : Checkpoint}
    (hserved : ServedUnder lib lines anchor checkpoints at_)
    (hlatest : SummaryServed checkpoints at_.line latest) :
    latest.anchor.map Anchor.size = some 0 ∧ Reproduces lib at_.line anchor.size covered := by
  obtain ⟨a, ha, hleaves⟩ := hlatest.leafCount hserved.1
  -- Nothing is mounted: the summary covers nothing.
  obtain ⟨nothing, hnothing⟩ := summaryValue_nil lib hleaves
  obtain ⟨out, hout, hvalue⟩ := answer_archivedDir hderivation hpin hserved hlatest covered
    (Nat.zero_le _) (show indexFrom 0 [] = .ok [] from rfl) hnothing
  have hdir : (archivedDir covered [] (Nat.zero_le _)).log.take anchor.size = covered := by
    rw [archivedDir_log, List.append_nil, List.take_of_length_le hcovered]
  have hreproduces := reproduces_of_anchored h hserved hdir hout
  refine ⟨?_, hreproduces⟩
  rw [ha, Option.map_some]
  cases hsize : a.size with
  | zero => rfl
  | succ n =>
      rw [hsize] at hleaves
      -- One record behind the anchor: the summary covers that one.
      have hroom : [requestedRecord].length ≤ ACTIVE_WINDOW := by simp [ACTIVE_WINDOW]
      obtain ⟨one, hone⟩ := summaryValue_requested lib hleaves
      obtain ⟨out', hout', hvalue'⟩ := answer_archivedDir hderivation hpin hserved hlatest covered
        hroom (show indexFrom 0 [requestedRecord] = .ok [(.null, 0)] from rfl) hone
      have hdir' : (archivedDir covered [requestedRecord] hroom).log.take anchor.size =
          covered := by
        rw [archivedDir_log, List.take_append_of_le_length hreproduces.1.ge,
          List.take_of_length_le hcovered]
      obtain rfl := (h _ hdir out hout).2 _ hdir' out' hout'
      obtain rfl := Except.ok.inj (hvalue.symm.trans hvalue')
      have hzero := coveredEntries_summaryValue hleaves hnothing
      rw [coveredEntries_summaryValue hleaves hone] at hzero
      simp at hzero

theorem reproduces_of_anchored_checkpoints (hcovered : covered.length ≤ anchor.size)
    (h : AnchoredAnswer lib lines request anchor covered)
    (hderivation : request.derivation ≠ some SERVED_SUMMARY_DERIVATION_TOKEN)
    (hsubject : request.subject = .checkpoints) {checkpoints : List Checkpoint} {at_ : Checkpoint}
    (hserved : ServedUnder lib lines anchor checkpoints at_) (hlisted : Listed checkpoints at_) :
    Reproduces lib at_.line anchor.size covered := by
  obtain ⟨hmem, hanchor⟩ := checkpointFor_eq_ok hserved.2
  obtain ⟨-, statement, hstatement⟩ := mem_loadCheckpoints hserved.1 hmem hanchor
  have hdir : (archivedDir covered [] (Nat.zero_le _)).log.take anchor.size = covered := by
    rw [archivedDir_log, List.append_nil, List.take_of_length_le hcovered]
  refine reproduces_of_anchored h hserved hdir (answer_eq_ok.mpr ⟨fun hpin ↦ hderivation hpin.1, [],
    checkpoints, at_, statement, ?_, hserved, hstatement,
    (artifactUnder_checkpoints hderivation hsubject).mpr ⟨hlisted, rfl⟩⟩)
  rw [archivedDir_readable]
  rfl

/-- What an anchor stands for: exactly the answers with records, and those others whose
covered records reproduce the root and that read none of them. -/
theorem anchoredAnswer_iff_keepsAnchor (lib : Library) (lines : List CheckpointLine)
    (request : Request) (anchor : Anchor) (log : List Json)
    (hrange : ∀ first last, request.subject = .range first last → last < anchor.size) :
    AnchoredAnswer lib lines request anchor (log.take anchor.size) ↔
      KeepsAnchor lib lines request anchor (log.take anchor.size) := by
  have hcovered : (log.take anchor.size).length ≤ anchor.size := by
    rw [List.length_take]
    exact Nat.min_le_left _ _
  constructor
  · intro h
    refine ⟨fun hderivation hpin checkpoints at_ hserved latest hlatest => ?_,
      fun hderivation hsubject checkpoints at_ hserved hlisted => ?_⟩
    · exact empty_of_anchored_summary hcovered h hderivation hpin hserved hlatest
    · exact reproduces_of_anchored_checkpoints hcovered h hderivation hsubject hserved hlisted
  · intro h
    by_cases hderivation : request.derivation = some SERVED_SUMMARY_DERIVATION_TOKEN
    · exact anchored_of_empty_summary hderivation h
    · by_cases hsubject : request.subject = .checkpoints
      · exact anchored_of_checkpoints hderivation hsubject h
      · exact anchored_of_records hderivation hsubject hrange

end

/-! ## An archived segment -/

/-- A range that is its leaves, with a root that spells them out. -/
def plainLibrary : Library where
  doubles := Account.exactDoubles
  leafCount := Account.leafCountOfSize
  sha256Hex bytes := toString (bytes.foldl (fun n b => 257 * n + b.toNat + 1) 0)
  jcsHex record := record.dumps
  definitionDigest := "d"
  Tree := List Bytes
  rebuild entries := entries
  treeSize tree := Library.MountainRange.sizeOfLeaves tree.length
  rootAt tree _ :=
    .ok (toString (tree.flatten.foldl (fun n b => 257 * n + b.toNat + 1) 0))
  inclusionProof tree i _ :=
    if i < tree.length then .ok [] else .error (.valueError "leaf index out of range")
  consistencyProof _ _ _ := .ok []

def coveredPair : List Json :=
  [Account.servedRecord "aa" "m" "12.5", Account.servedRecord "bb" "m" "7.25"]

def pairLine : CheckpointLine :=
  { mmrSize := 3, root := "44135", prevSize := 0, prevRoot := "", timestamp := "t",
    logId := "log", keyId := some "ab", witnesses := [], checkpointCose := some "d2" }

def pairAnchor : Anchor := ⟨"211", 2, "t"⟩

/-- The pair in a closed segment and one record behind the anchor. -/
def pairDir (mounted : Bool) : LedgerDir where
  flat := none
  store := some ⟨[⟨"segment-000001", coveredPair, mounted⟩],
    [Account.servedRecord "cc" "late" "1.0"], by simp [ACTIVE_WINDOW]⟩

def pairRange : Request := ⟨.range 0 1, none, none⟩

def pairSummary : Request := ⟨.fullHistory, some SERVED_SUMMARY_DERIVATION_TOKEN, some "211"⟩

/-- How many records the answer's summary covers. -/
def summaryCount (result : Serving Artifact) : Option Int := do
  let out ← result.toOption
  let summary ← (out.value.get "served_summary").toOption
  let count ← (coveredEntries summary).toOption
  count.asInt

theorem exists_answer_of_count {result : Serving Artifact} {n : Int}
    (h : summaryCount result = some n) : ∃ out, result = .ok out := by
  cases result with
  | ok out => exact ⟨out, rfl⟩
  | error e => simp [summaryCount, Except.toOption] at h

/-- With the pair archived, the summary under its anchor counts the record behind it. -/
theorem archived_segment_shifts_summary :
    (summaryCount (answer plainLibrary (pairDir true) [pairLine] pairSummary pairAnchor) = some 2 ∧
      summaryCount (answer plainLibrary (pairDir false) [pairLine] pairSummary pairAnchor) =
        some 1) ∧
    ¬AnchoredAnswer plainLibrary [pairLine] pairSummary pairAnchor coveredPair := by
  have htwo : summaryCount (answer plainLibrary (pairDir true) [pairLine] pairSummary pairAnchor) =
      some 2 := by decide +kernel
  have hone : summaryCount (answer plainLibrary (pairDir false) [pairLine] pairSummary pairAnchor) =
      some 1 := by decide +kernel
  refine ⟨⟨htwo, hone⟩, fun h => ?_⟩
  obtain ⟨out, hout⟩ := exists_answer_of_count htwo
  obtain ⟨out', hout'⟩ := exists_answer_of_count hone
  obtain rfl := (h (pairDir true) rfl out hout).2 (pairDir false) rfl out' hout'
  rw [hout] at htwo
  rw [hout', htwo] at hone
  simp at hone

theorem anchoredAnswer_iff_keepsAnchor_range :
    ((answer plainLibrary (pairDir true) [pairLine] pairRange pairAnchor).isOk = true ∧
      (answer plainLibrary (pairDir false) [pairLine] pairRange pairAnchor).isOk = false) ∧
    AnchoredAnswer plainLibrary [pairLine] pairRange pairAnchor
      ((pairDir true).log.take pairAnchor.size) := by
  refine ⟨⟨by decide +kernel, by decide +kernel⟩, ?_⟩
  refine (anchoredAnswer_iff_keepsAnchor plainLibrary [pairLine] pairRange pairAnchor
    (pairDir true).log ?_).mpr ⟨?_, ?_⟩
  · intro first last hsubject
    obtain ⟨rfl, rfl⟩ : 0 = first ∧ 1 = last := by simpa [pairRange] using hsubject
    decide
  · intro hderivation
    simp [pairRange] at hderivation
  · intro _ hsubject
    simp [pairRange] at hsubject

end Evidence

end CapsuleMesh
