import CapsuleMesh.Adjudication.Delivery
import CapsuleMesh.Ledger.Store
import CapsuleMesh.Library.Runs

/-!
# Moving a flat ledger into the store

`import_flat_ledger_once` of `ledger_store_backend.py`, as the sidecar's startup runs
it, with the two writers that append to the directory between startups.  A startup may
die at any point of the import; what stops it there (the process being killed, a line
that does not parse) makes no difference to the files.
-/

namespace CapsuleMesh.Ledger

open Python Library Adjudication

/-- When `LedgerStore` closes the active segment before an append, and the name it
gives it.  The size in bytes at which it does so is below the reader's window. -/
structure Rotation where
  crosses : List Json → Json → Bool
  crosses_of_full : ∀ active record, ¬ active.length < ACTIVE_WINDOW → crosses active record = true
  segmentName : Store → String

theorem singleton_le_activeWindow (record : Json) : [record].length ≤ ACTIVE_WINDOW := by
  simp [ACTIVE_WINDOW]

theorem Rotation.length_append_le {rotation : Rotation} {active : List Json} {record : Json}
    (h : ¬ rotation.crosses active record = true) :
    (active ++ [record]).length ≤ ACTIVE_WINDOW := by
  have hroom := mt (rotation.crosses_of_full active record) h
  rw [List.length_append, List.length_singleton]
  omega

namespace Store

/-- `append`, with the checkpointer attached that a rotation needs. -/
def append (rotation : Rotation) (store : Store) (record : Json) : Store :=
  if h : rotation.crosses store.active record = true then
    { closed := store.closed ++ [⟨rotation.segmentName store, store.active, true⟩]
      active := [record]
      active_le := singleton_le_activeWindow record }
  else
    { closed := store.closed
      active := store.active ++ [record]
      active_le := rotation.length_append_le h }

/-- `append` without a checkpointer, which raises where a rotation is due. -/
def appendUnrotated (rotation : Rotation) (store : Store) (record : Json) : Py Store :=
  if rotation.crosses store.active record then .error .runtimeError
  else .ok (store.append rotation record)

/-- `scan`, which raises over an archived segment. -/
def scan (store : Store) : Py (List Json) :=
  if store.closed.all Segment.mounted then .ok store.records else .error .runtimeError

/-- `import_jsonl`: one append for each line, in order. -/
def importJsonl (rotation : Rotation) (store : Store) (lines : List Json) : Store :=
  lines.foldl (append rotation) store

end Store

/-- Where a startup dies: when so many records are in the store, before the rename, or
after it. -/
inductive CrashPoint where
  | importing (count : ℕ)
  | imported
  | renamed
deriving DecidableEq

/-- The lines that reach the store before the crash. -/
def CrashPoint.reached (lines : List Json) : Option CrashPoint → List Json
  | some (.importing count) => lines.take count
  | _ => lines

/-- `flat_path.rename(...)`, unless the crash comes first. -/
def CrashPoint.renames : Option CrashPoint → Bool
  | some (.importing _) => false
  | some .imported => false
  | some .renamed => true
  | none => true

namespace LedgerDir

/-- `import_flat_ledger_once`, and whether it returned. -/
def importFlatLedgerOnce (rotation : Rotation) (crash : Option CrashPoint) (dir : LedgerDir)
    (store : Store) : LedgerDir × Bool :=
  match dir.flat with
  | none => (dir, crash.isNone)
  | some lines =>
      match store.scan with
      | .error _ => (dir, false)
      | .ok (_ :: _) => (dir, crash.isNone)
      | .ok [] =>
        ({ flat := if CrashPoint.renames crash then none else some lines
           store := some (store.importJsonl rotation (CrashPoint.reached lines crash)) },
          crash.isNone)

/-- `open_ledger_store` and the import, as `NodeState` runs them. -/
def startup (rotation : Rotation) (crash : Option CrashPoint) (dir : LedgerDir) :
    LedgerDir × Bool :=
  let store := dir.store.getD Store.empty
  importFlatLedgerOnce rotation crash { dir with store := some store } store

def appendCapsule (rotation : Rotation) (dir : LedgerDir) (capsule : Json) : Py LedgerDir :=
  match dir.store with
  | some store => do
      let store' ← store.appendUnrotated rotation capsule
      return { dir with store := some store' }
  | none => .ok { dir with flat := some (dir.flat.getD [] ++ [capsule]) }

end LedgerDir

/-- The directory of a node, whether its sidecar is up, and what was appended so far. -/
structure Node where
  dir : LedgerDir
  running : Bool
  appended : List Json

/-- A startup, a capsule of the running sidecar, or a body posted to the delivery door. -/
inductive Event where
  | startup (crash : Option CrashPoint)
  | record (capsule : Json)
  | deliver (body : Bytes) (now : String)

namespace Node

variable (rotation : Rotation) (door : Door)

def startup (crash : Option CrashPoint) (n : Node) : Node :=
  let (dir, running) := n.dir.startup rotation crash
  { n with dir := dir, running := running }

/-- `state.log_source.append(capsule)`. -/
def record (capsule : Json) (n : Node) : Node :=
  match n.running, n.dir.store with
  | true, some store =>
      { n with
        dir := { n.dir with store := some (store.append rotation capsule) }
        appended := n.appended ++ [capsule] }
  | _, _ => n

/-- `handle_delivery` with its append. -/
def deliver (body : Bytes) (now : String) (n : Node) : Node :=
  match n.dir.readAllCapsules with
  | .error _ => n
  | .ok (records, _) =>
      let rotates := fun _ capsule => !(n.dir.appendCapsule rotation capsule).isOk
      let door' := { door with isStore := n.dir.store.isSome, rotates := rotates }
      match handleDelivery door' records body now, door.loads body with
      | .ok (.received, _), some capsule =>
        match n.dir.appendCapsule rotation capsule with
        | .ok dir => { n with dir := dir, appended := n.appended ++ [capsule] }
        | .error _ => n
      | _, _ => n

def step (n : Node) : Event → Node
  | .startup crash => n.startup rotation crash
  | .record capsule => n.record rotation capsule
  | .deliver body now => n.deliver rotation door body now

/-- A node that has only a flat ledger. -/
def legacy (lines : List Json) : Node := ⟨⟨some lines, none⟩, false, []⟩

end Node

/-! ## What one event does -/

namespace Store

def AllMounted (store : Store) : Prop := ∀ segment ∈ store.closed, segment.mounted = true

@[simp] theorem records_append (rotation : Rotation) (store : Store) (record : Json) :
    (store.append rotation record).records = store.records ++ [record] := by
  unfold append records
  split <;> simp

theorem AllMounted.append {store : Store} (h : store.AllMounted) (rotation : Rotation)
    (record : Json) : (store.append rotation record).AllMounted := by
  unfold Store.append
  split
  · intro segment hsegment
    rcases List.mem_append.mp hsegment with hold | hnew
    · exact h segment hold
    · obtain rfl := List.mem_singleton.mp hnew
      rfl
  · exact h

theorem records_importJsonl (rotation : Rotation) (store : Store) (lines : List Json) :
    (store.importJsonl rotation lines).records = store.records ++ lines := by
  unfold importJsonl
  induction lines generalizing store with
  | nil => simp
  | cons line lines ih => rw [List.foldl_cons, ih, records_append, List.append_assoc]; rfl

theorem AllMounted.importJsonl {store : Store} (h : store.AllMounted) (rotation : Rotation)
    (lines : List Json) : (store.importJsonl rotation lines).AllMounted :=
  run_invariant AllMounted (fun _ line hs => hs.append rotation line) h lines

theorem scan_of_allMounted {store : Store} (h : store.AllMounted) : store.scan = .ok store.records := by
  rw [scan, if_pos (List.all_eq_true.mpr h)]

theorem map_snd_readableFrom (active : List Json) (first : ℕ) (segments : List Segment)
    (h : ∀ segment ∈ segments, segment.mounted = true) :
    (readableFrom active first segments).map Prod.snd =
      segments.flatMap Segment.records ++ active := by
  induction segments generalizing first with
  | nil => simp [readableFrom]
  | cons segment segments ih =>
      rw [readableFrom, if_pos (h segment (by simp)), List.map_append, map_snd_numbered,
        ih _ fun s hs => h s (by simp [hs]), List.flatMap_cons, List.append_assoc]

theorem allMounted_empty : empty.AllMounted := fun _ h => by cases h

end Store

theorem LedgerDir.readAllCapsules_store {dir : LedgerDir} {store : Store}
    (hstore : dir.store = some store) (h : store.AllMounted) :
    ∃ archived, dir.readAllCapsules = .ok (store.records, archived) := by
  have hread := dir.readAllCapsules_eq
  refine ⟨dir.archivedSeen none 0, ?_⟩
  rw [hread, LedgerDir.readable, hstore]
  simp only
  rw [Store.readable, Store.map_snd_readableFrom _ _ _ h, Store.records]

/-- The door takes nothing into an empty ledger: there is no own half to cite. -/
theorem handleDelivery_nil (door : Door) (body : Bytes) (now : String) (records : List Json) :
    handleDelivery door [] body now ≠ .ok (.received, records) := by
  intro h
  unfold handleDelivery at h
  split at h
  · split at h
    · simp [refuse] at h
    · dsimp only at h
      split at h
      · simp [refuse] at h
      · rw [Py.bind_eq_ok] at h
        obtain ⟨cited, -, h⟩ := h
        have hhalf : ownHalf [] cited = none := by simp [ownHalf, entryAt]
        split at h
        · simp [refuse] at h
        · simp [ownEntries, hhalf, refuse] at h
  · simp [refuse] at h

namespace Node

variable {rotation : Rotation} {door : Door} {lines : List Json} {n : Node}

/-- What an append leaves: nothing, one more record in the store, or one more line in
the flat file of a node without a store. -/
inductive Appends (rotation : Rotation) (n : Node) : Node → Prop
  | nothing : Appends rotation n n
  | store (store : Store) (capsule : Json) (hstore : n.dir.store = some store)
      (hopen : store.AllMounted → n.running = true ∨ store.records ≠ []) :
      Appends rotation n
        { n with
          dir := { n.dir with store := some (store.append rotation capsule) }
          appended := n.appended ++ [capsule] }
  | flat (capsule : Json) (hstore : n.dir.store = none) :
      Appends rotation n
        { n with
          dir := { n.dir with flat := some (n.dir.flat.getD [] ++ [capsule]) }
          appended := n.appended ++ [capsule] }

theorem record_appends (capsule : Json) (n : Node) :
    Appends rotation n (n.record rotation capsule) := by
  unfold record
  split
  · rename_i store hrunning hstore
    exact .store store capsule hstore fun _ => .inl hrunning
  · exact .nothing

theorem deliver_appends (body : Bytes) (now : String) (n : Node) :
    Appends rotation n (n.deliver rotation door body now) := by
  unfold deliver
  split
  · exact .nothing
  · rename_i records archived hread
    dsimp only
    split
    · rename_i answer _ capsule hreceived hloads
      cases hstore : n.dir.store with
      | none =>
        have happend : n.dir.appendCapsule rotation capsule =
            .ok { n.dir with flat := some (n.dir.flat.getD [] ++ [capsule]) } := by
          simp [LedgerDir.appendCapsule, hstore]
        rw [happend]
        exact .flat capsule hstore
      | some store =>
        simp only [LedgerDir.appendCapsule, hstore, Store.appendUnrotated]
        split_ifs
        · exact .nothing
        · refine .store store capsule hstore fun hmounted => .inr ?_
          -- The door read these records, and cites one of them.
          rintro hnil
          obtain ⟨archived', hread'⟩ := LedgerDir.readAllCapsules_store hstore hmounted
          rw [hread, hnil] at hread'
          obtain ⟨rfl, -⟩ := Prod.mk.inj (Except.ok.inj hread')
          exact handleDelivery_nil _ _ _ _ hreceived
    · exact .nothing

/-! ## The phases of a migration -/

/-- Still a flat ledger. -/
def Flat (lines : List Json) (n : Node) : Prop :=
  n.dir.store = none ∧ n.dir.flat = some (lines ++ n.appended) ∧ n.running = false

/-- The store is there and empty, and the flat file with it. -/
def Waiting (lines : List Json) (n : Node) : Prop :=
  ∃ store, n.dir.store = some store ∧ store.AllMounted ∧ store.records = [] ∧
    n.dir.flat = some (lines ++ n.appended) ∧ n.running = false

/-- The store holds everything, and no startup will import again. -/
def Moved (lines : List Json) (n : Node) : Prop :=
  ∃ store, n.dir.store = some store ∧ store.AllMounted ∧ store.records = lines ++ n.appended ∧
    (n.dir.flat = none ∨ store.records ≠ [])

/-- An import was cut short, and the rest of the flat file is out of sight. -/
def Cut (lines : List Json) (n : Node) : Prop :=
  ∃ store, n.dir.store = some store ∧ store.AllMounted ∧ store.records ≠ [] ∧
    store.records.length < (lines ++ n.appended).length

/-- Nothing is lost yet. -/
def Whole (lines : List Json) (n : Node) : Prop :=
  Flat lines n ∨ Waiting lines n ∨ Moved lines n

theorem Moved.appends (h : Moved lines n) {n' : Node} (hn : Appends rotation n n') :
    Moved lines n' := by
  obtain ⟨store, hstore, hmounted, hrecords, hflat⟩ := h
  cases hn with
  | nothing => exact ⟨store, hstore, hmounted, hrecords, hflat⟩
  | store store' capsule hstore' _ =>
      obtain rfl := Option.some.inj (hstore.symm.trans hstore')
      refine ⟨_, rfl, hmounted.append rotation capsule, ?_, .inr ?_⟩
      · rw [Store.records_append, hrecords, List.append_assoc]
      · simp
  | flat capsule hstore' => simp [hstore] at hstore'

theorem Cut.appends (h : Cut lines n) {n' : Node} (hn : Appends rotation n n') : Cut lines n' := by
  obtain ⟨store, hstore, hmounted, hne, hlength⟩ := h
  cases hn with
  | nothing => exact ⟨store, hstore, hmounted, hne, hlength⟩
  | store store' capsule hstore' _ =>
      obtain rfl := Option.some.inj (hstore.symm.trans hstore')
      refine ⟨_, rfl, hmounted.append rotation capsule, by simp, ?_⟩
      simp only [Store.records_append, List.length_append, List.length_singleton] at hlength ⊢
      omega
  | flat capsule hstore' => simp [hstore] at hstore'

theorem Flat.appends (h : Flat lines n) {n' : Node} (hn : Appends rotation n n') : Flat lines n' := by
  obtain ⟨hstore, hflat, hrunning⟩ := h
  cases hn with
  | nothing => exact ⟨hstore, hflat, hrunning⟩
  | store store' capsule hstore' _ => simp [hstore] at hstore'
  | flat capsule _ => exact ⟨hstore, by simp [hflat], hrunning⟩

theorem Waiting.appends (h : Waiting lines n) {n' : Node} (hn : Appends rotation n n') :
    Waiting lines n' := by
  obtain ⟨store, hstore, hmounted, hnil, hflat, hrunning⟩ := h
  cases hn with
  | nothing => exact ⟨store, hstore, hmounted, hnil, hflat, hrunning⟩
  | store store' capsule hstore' hopen =>
      obtain rfl := Option.some.inj (hstore.symm.trans hstore')
      rcases hopen hmounted with hup | hne
      · simp [hrunning] at hup
      · exact absurd hnil hne
  | flat capsule hstore' => simp [hstore] at hstore'

theorem Whole.appends (h : Whole lines n) {n' : Node} (hn : Appends rotation n n') :
    Whole lines n' := by
  rcases h with h | h | h
  · exact .inl (h.appends hn)
  · exact .inr (.inl (h.appends hn))
  · exact .inr (.inr (h.appends hn))

theorem startup_imports {crash : Option CrashPoint} (n : Node)
    (hmounted : (n.dir.store.getD .empty).AllMounted)
    (hnil : (n.dir.store.getD .empty).records = []) (hflat : n.dir.flat = some lines) :
    n.startup rotation crash =
      { n with
        dir :=
          { flat := if CrashPoint.renames crash then none else some lines
            store := some ((n.dir.store.getD .empty).importJsonl rotation
              (CrashPoint.reached lines crash)) }
        running := crash.isNone } := by
  simp only [startup, LedgerDir.startup, LedgerDir.importFlatLedgerOnce, hflat,
    Store.scan_of_allMounted hmounted, hnil]

theorem importFlatLedgerOnce_keeps (crash : Option CrashPoint) {dir : LedgerDir} {store : Store}
    (hmounted : store.AllMounted) (hdone : dir.flat = none ∨ store.records ≠ []) :
    dir.importFlatLedgerOnce rotation crash store = (dir, crash.isNone) := by
  unfold LedgerDir.importFlatLedgerOnce
  cases hflat : dir.flat with
  | none => rfl
  | some lines =>
      have hne : store.records ≠ [] := hdone.resolve_left (by simp [hflat])
      obtain ⟨r, rs, hrecords⟩ := List.exists_cons_of_ne_nil hne
      simp only [Store.scan_of_allMounted hmounted, hrecords]

/-- A startup over a store with records, or without a flat file, leaves the files. -/
theorem startup_keeps (crash : Option CrashPoint) {store : Store} (hstore : n.dir.store = some store)
    (hmounted : store.AllMounted) (hdone : n.dir.flat = none ∨ store.records ≠ []) :
    n.startup rotation crash = { n with running := crash.isNone } := by
  have hopened : n.dir.store.getD .empty = store := by rw [hstore]; rfl
  have hdir : ({ n.dir with store := some store } : LedgerDir) = n.dir := by rw [← hstore]
  simp only [startup, LedgerDir.startup, hopened, hdir, importFlatLedgerOnce_keeps crash hmounted hdone]

theorem Moved.startup (h : Moved lines n) (crash : Option CrashPoint) :
    Moved lines (n.startup rotation crash) := by
  obtain ⟨store, hstore, hmounted, hrecords, hflat⟩ := h
  rw [startup_keeps crash hstore hmounted hflat]
  exact ⟨store, hstore, hmounted, hrecords, hflat⟩

theorem Cut.startup (h : Cut lines n) (crash : Option CrashPoint) :
    Cut lines (n.startup rotation crash) := by
  obtain ⟨store, hstore, hmounted, hne, hlength⟩ := h
  rw [startup_keeps crash hstore hmounted (.inr hne)]
  exact ⟨store, hstore, hmounted, hne, hlength⟩

/-- A flat ledger is waiting as soon as its store is opened. -/
theorem unmoved_of_flat_or_waiting (h : Flat lines n ∨ Waiting lines n) :
    (n.dir.store.getD .empty).AllMounted ∧ (n.dir.store.getD .empty).records = [] ∧
      n.dir.flat = some (lines ++ n.appended) := by
  rcases h with ⟨hstore, hflat, -⟩ | ⟨store, hstore, hmounted, hnil, hflat, -⟩
  · rw [hstore]
    exact ⟨Store.allMounted_empty, rfl, hflat⟩
  · rw [hstore]
    exact ⟨hmounted, hnil, hflat⟩

/-- No startup dies with some of the flat file's records in the store but not all. -/
def ImportsWhole (n : Node) : Event → Prop
  | .startup (some (.importing count)) =>
      ∀ lines, n.dir.flat = some lines → (n.dir.store.getD .empty).records = [] →
        count = 0 ∨ lines.length ≤ count
  | _ => True

theorem moved_of_import (h : Flat lines n ∨ Waiting lines n) :
    Moved lines (n.startup rotation none) := by
  obtain ⟨hmounted, hnil, hflat⟩ := unmoved_of_flat_or_waiting h
  rw [startup_imports n hmounted hnil hflat]
  refine ⟨_, rfl, hmounted.importJsonl rotation _, ?_, .inl rfl⟩
  rw [Store.records_importJsonl, hnil]
  rfl

/-- After an import that got this far, the node waits, is moved, or is cut. -/
theorem startup_phase (h : Flat lines n ∨ Waiting lines n) (crash : Option CrashPoint) :
    (ImportsWhole n (.startup crash) ∧ Whole lines (n.startup rotation crash)) ∨
      (¬ ImportsWhole n (.startup crash) ∧ Cut lines (n.startup rotation crash)) := by
  obtain ⟨hmounted, hnil, hflat⟩ := unmoved_of_flat_or_waiting h
  rw [startup_imports n hmounted hnil hflat]
  set store := (n.dir.store.getD .empty).importJsonl rotation
    (CrashPoint.reached (lines ++ n.appended) crash) with hstore
  have hrecords : store.records = CrashPoint.reached (lines ++ n.appended) crash := by
    rw [hstore, Store.records_importJsonl, hnil, List.nil_append]
  have hmounted' : store.AllMounted := hmounted.importJsonl rotation _
  -- Everything is in the store; an empty flat file waits for its rename.
  have hall : ∀ flat running, store.records = lines ++ n.appended →
      (flat = none ∨ flat = some (lines ++ n.appended) ∧ running = false) →
      Whole lines { n with dir := ⟨flat, some store⟩, running := running } := by
    intro flat running heq hflat'
    rcases hflat' with rfl | ⟨rfl, rfl⟩
    · exact .inr (.inr ⟨store, rfl, hmounted', heq, .inl rfl⟩)
    · by_cases hempty : store.records = []
      · exact .inr (.inl ⟨store, rfl, hmounted', hempty, rfl, rfl⟩)
      · exact .inr (.inr ⟨store, rfl, hmounted', heq, .inr hempty⟩)
  match crash with
  | none => exact .inl ⟨trivial, hall _ _ hrecords (.inl rfl)⟩
  | some .renamed => exact .inl ⟨trivial, hall _ _ hrecords (.inl rfl)⟩
  | some .imported => exact .inl ⟨trivial, hall _ _ hrecords (.inr ⟨rfl, rfl⟩)⟩
  | some (.importing count) =>
      have hrecords : store.records = (lines ++ n.appended).take count := hrecords
      by_cases hzero : count = 0
      · refine .inl ⟨fun _ _ _ => .inl hzero, .inr (.inl ⟨store, rfl, hmounted', ?_, rfl, rfl⟩)⟩
        rw [hrecords, hzero, List.take_zero]
      · by_cases hlength : (lines ++ n.appended).length ≤ count
        · refine .inl ⟨?_, hall _ _ ?_ (.inr ⟨rfl, rfl⟩)⟩
          · intro lines' hlines' _
            obtain rfl := Option.some.inj (hlines'.symm.trans hflat)
            exact .inr hlength
          · rw [hrecords, List.take_of_length_le hlength]
        · refine .inr ⟨fun hwhole => ?_, store, rfl, hmounted', ?_, ?_⟩
          · rcases hwhole _ hflat hnil with h | h
            · exact hzero h
            · exact hlength h
          · rw [hrecords, ne_eq, List.take_eq_nil_iff]
            rintro (h | h)
            · exact hzero h
            · simp [h] at hlength
          · rw [hrecords, List.length_take]
            show min count _ < (lines ++ n.appended).length
            omega

theorem Moved.step (h : Moved lines n) (e : Event) : Moved lines (n.step rotation door e) := by
  cases e with
  | startup crash => exact h.startup crash
  | record capsule => exact h.appends (record_appends capsule n)
  | deliver body now => exact h.appends (deliver_appends body now n)

theorem Cut.step (h : Cut lines n) (e : Event) : Cut lines (n.step rotation door e) := by
  cases e with
  | startup crash => exact h.startup crash
  | record capsule => exact h.appends (record_appends capsule n)
  | deliver body now => exact h.appends (deliver_appends body now n)

theorem not_whole_of_cut (h : Cut lines n) : ¬ Whole lines n := by
  obtain ⟨store, hstore, -, hne, hlength⟩ := h
  rintro (⟨hnone, -⟩ | ⟨store', hstore', -, hnil, -⟩ | ⟨store', hstore', -, hrecords, -⟩)
  · simp [hstore] at hnone
  · obtain rfl := Option.some.inj (hstore.symm.trans hstore')
    exact hne hnil
  · obtain rfl := Option.some.inj (hstore.symm.trans hstore')
    rw [hrecords] at hlength
    omega

/-- One event loses something exactly when it cuts an import short. -/
theorem whole_step (h : Whole lines n) (e : Event) :
    (ImportsWhole n e ∧ Whole lines (n.step rotation door e)) ∨
      (¬ ImportsWhole n e ∧ Cut lines (n.step rotation door e)) := by
  cases e with
  | record capsule => exact .inl ⟨trivial, h.appends (record_appends capsule n)⟩
  | deliver body now => exact .inl ⟨trivial, h.appends (deliver_appends body now n)⟩
  | startup crash =>
      rcases h with h | h | h
      · exact startup_phase (.inl h) crash
      · exact startup_phase (.inr h) crash
      · refine .inl ⟨?_, .inr (.inr (h.startup crash))⟩
        obtain ⟨store, hstore, -, -, hflat⟩ := h
        match crash with
        | none => trivial
        | some .renamed => trivial
        | some .imported => trivial
        | some (.importing count) =>
          intro lines' hlines' hnil
          rw [hstore] at hnil
          rcases hflat with hnone | hne
          · simp [hlines'] at hnone
          · exact absurd hnil hne

theorem whole_step_iff (h : Whole lines n) (e : Event) :
    Whole lines (n.step rotation door e) ↔ ImportsWhole n e := by
  rcases whole_step h e with ⟨hkeeps, hwhole⟩ | ⟨hcuts, hcut⟩
  · exact iff_of_true hwhole hkeeps
  · exact iff_of_false (not_whole_of_cut hcut) hcuts

theorem legacy_whole (lines : List Json) : Whole lines (legacy lines) :=
  .inl ⟨rfl, by simp [legacy], rfl⟩

theorem run_whole_or_cut (rotation : Rotation) (door : Door) (lines : List Json)
    (es : List Event) :
    Whole lines (es.foldl (step rotation door) (legacy lines)) ∨
      Cut lines (es.foldl (step rotation door) (legacy lines)) := by
  refine run_invariant (fun n => Whole lines n ∨ Cut lines n) ?_ (.inl (legacy_whole lines)) es
  rintro n e (hwhole | hcut)
  · exact (whole_step hwhole e).imp And.right And.right
  · exact .inr (hcut.step e)

theorem run_whole_iff (lines : List Json) (es : List Event) :
    Whole lines (es.foldl (step rotation door) (legacy lines)) ↔
      Along (step rotation door) ImportsWhole (legacy lines) es := by
  refine good_run_iff (fun n => Whole lines n ∨ Cut lines n) (fun _ => True) (Whole lines)
    ?_ (fun _ _ _ _ _ _ => trivial) ?_ (fun n e _ _ hwhole => whole_step_iff hwhole e)
    (.inl (legacy_whole lines)) trivial (legacy_whole lines) es
  · rintro n e (hwhole | hcut)
    · exact (whole_step hwhole e).imp And.right And.right
    · exact .inr (hcut.step e)
  · rintro n e (hwhole | hcut) hnext
    · exact hwhole
    · exact absurd hnext (not_whole_of_cut (hcut.step e))

/-- A startup that runs to its end moves what is left to move. -/
theorem Whole.startup_moved (h : Whole lines n) : Moved lines (n.startup rotation none) := by
  rcases h with h | h | h
  · exact moved_of_import (.inl h)
  · exact moved_of_import (.inr h)
  · exact h.startup none

/-- After a startup that ran to its end, and whatever came after it, the readers see the
flat file's records and then those appended since, exactly when no earlier startup died
in the middle of its import. -/
theorem readAllCapsules_after_startup_iff (rotation : Rotation) (door : Door) (lines : List Json)
    (before after : List Event) :
    (∃ archived,
      ((before ++ .startup none :: after).foldl (step rotation door) (legacy lines)).dir.readAllCapsules =
        .ok (lines ++
          ((before ++ .startup none :: after).foldl (step rotation door) (legacy lines)).appended,
          archived)) ↔
      Along (step rotation door) ImportsWhole (legacy lines) before := by
  rw [← run_whole_iff, List.foldl_append, List.foldl_cons]
  set n := before.foldl (step rotation door) (legacy lines) with hn
  rcases run_whole_or_cut rotation door lines before with hwhole | hcut
  · have hmoved : Moved lines (after.foldl (step rotation door) (n.step rotation door (.startup none))) :=
      run_invariant (Moved lines) (fun _ e h => h.step e) hwhole.startup_moved after
    refine iff_of_true ?_ hwhole
    obtain ⟨store, hstore, hmounted, hrecords, -⟩ := hmoved
    rw [← hrecords]
    exact LedgerDir.readAllCapsules_store hstore hmounted
  · have hcut' : Cut lines (after.foldl (step rotation door) (n.step rotation door (.startup none))) :=
      run_invariant (Cut lines) (fun _ e h => h.step e) (hcut.step (.startup none)) after
    refine iff_of_false ?_ (not_whole_of_cut hcut)
    rintro ⟨_, hread⟩
    obtain ⟨store, hstore, hmounted, -, hlength⟩ := hcut'
    obtain ⟨archived', hread'⟩ := LedgerDir.readAllCapsules_store hstore hmounted
    rw [hread'] at hread
    rw [(Prod.mk.inj (Except.ok.inj hread)).1] at hlength
    omega

/-- Segments that close only at the reader's window. -/
def wideRotation : Rotation where
  crosses active _ := !decide (active.length < ACTIVE_WINDOW)
  crosses_of_full active _ h := by simp [h]
  segmentName _ := "seg-0"

def shutDoor : Door where
  loads _ := none
  verify _ := false
  sha256Hex _ := ""
  isStore := true
  rotates _ _ := false

def numberedCapsule (id : String) : Json := .obj [("capsule_id", .str id)]

/-- A startup that dies after the first of two records: the next one finds the store in
use and leaves the second record behind. -/
theorem second_record_lost_after_crash :
    ∃ n, n = [.startup (some (.importing 1)), .startup none].foldl (step wideRotation shutDoor)
        (legacy [numberedCapsule "a", numberedCapsule "b"]) ∧
      n.running = true ∧
      n.dir.readAllCapsules = .ok ([numberedCapsule "a"], []) ∧
      ¬ ∃ archived, n.dir.readAllCapsules =
        .ok ([numberedCapsule "a", numberedCapsule "b"] ++ n.appended, archived) := by
  refine ⟨_, rfl, rfl, rfl, ?_⟩
  rintro ⟨_, hread⟩
  cases hread

end Node

end CapsuleMesh.Ledger
