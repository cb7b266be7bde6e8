import CapsuleMesh.Library.FirstSeen
import CapsuleMesh.Library.LastWrite
import CapsuleMesh.Python.Order
import CapsuleMesh.Viewer.Labels

/-!
# What my machine did

`_verify_ok_map` and `build_machine_view` of `capsule_mesh_view.py`: one row for each capsule id
over several logs.  The results of a log are collapsed to one for each id before the logs are
merged, and the last one stands; so does the last log of a name.
-/

namespace CapsuleMesh.Viewer

open Python Library Stranger

/-! ## The results of one log -/

/-- A result of `verify_store`, as far as the map reads it; the id may be `None`. -/
structure Result where
  capsuleId : Json
  ok : Bool

/-- The key that a result is filed under: its own id, or that of the record at its place. -/
def verifyEntry (records : List Json) (i : ℕ) (result : Result) : Py (Option (Key × Bool)) := do
  let cid ←
    if result.capsuleId.truthy then pure result.capsuleId
    else
      match records[i]? with
      | some record => record.getD "capsule_id" (.str "")
      | none => pure (.str "")
  if cid.truthy then return some (← cid.key, result.ok) else return none

/-- `_verify_ok_map`, as its writes in order. -/
def verifyOkMap (records : List Json) (verifyResults : Option (List Result)) :
    Py (List (Key × Bool)) := do
  let entries ← (verifyResults.getD []).zipIdx.mapM fun r => verifyEntry records r.2 r.1
  return entries.reduceOption

/-- `vmap.get(key)`: the last write. -/
def lastWritten (writes : List (Key × Bool)) (key : Key) : Option Bool :=
  (lastWith (fun w => decide (w.1 = key)) writes).map Prod.snd

/-! ## The rows -/

structure Source where
  log : String
  records : List Json
  results : Option (List Result)

/-- A record with an id, and what the map of its log says of that id. -/
structure Occurrence where
  key : Key
  capsuleId : Json
  log : String
  record : Json
  ok : Option Bool

/-- `None` for a record without an id, which is skipped. -/
def occurrence (log : String) (vmap : List (Key × Bool)) (record : Json) :
    Py (Option Occurrence) := do
  let capsuleId ← record.getD "capsule_id" (.str "")
  if !capsuleId.truthy then return none
  else
    let key ← capsuleId.key
    return some ⟨key, capsuleId, log, record, lastWritten vmap key⟩

/-- A row, with what `verify_by_source` holds for it. -/
structure SeenRow where
  key : Key
  capsuleId : Json
  timestamp : Json
  sourceLogs : List String
  labels : Labels
  verifyBySource : Dict String (Option Bool)

def SeenRow.see (row : SeenRow) (o : Occurrence) : SeenRow :=
  { row with
    sourceLogs := if o.log ∈ row.sourceLogs then row.sourceLogs else row.sourceLogs ++ [o.log]
    verifyBySource := row.verifyBySource.insert o.log o.ok }

def newRow (T : Tools) (o : Occurrence) : Py SeenRow := do
  return {
    key := o.key
    capsuleId := o.capsuleId
    timestamp := ← o.record.get "timestamp"
    sourceLogs := [o.log]
    labels := ← labels T o.record o.log
    verifyBySource := AList.insert o.log o.ok ∅ }

/-- One record; the rows are in the order of `order`. -/
def see (T : Tools) (rows : List SeenRow) (o : Occurrence) : Py (List SeenRow) :=
  if o.key ∈ rows.map SeenRow.key then
    .ok (rows.map fun row => if row.key = o.key then row.see o else row)
  else do return rows ++ [← newRow T o]

def viewRecord (T : Tools) (log : String) (vmap : List (Key × Bool)) (rows : List SeenRow)
    (record : Json) : Py (List SeenRow) := do
  match ← occurrence log vmap record with
  | none => return rows
  | some o => see T rows o

def viewSource (T : Tools) (rows : List SeenRow) (source : Source) : Py (List SeenRow) := do
  let vmap ← verifyOkMap source.records source.results
  source.records.foldlM (viewRecord T source.log vmap) rows

structure MachineRow where
  capsuleId : Json
  timestamp : Json
  sourceLogs : List String
  labels : Labels
  verifyOk : Option Bool
  witnessedByBoth : Bool
  sourceLog : String

/-- `any(ok is False)`, then `all(ok is True)`. -/
def mergedOk (oks : List (Option Bool)) : Option Bool :=
  if oks.any (· = some false) then some false
  else if oks.all (· = some true) then some true
  else none

def SeenRow.finish (row : SeenRow) : MachineRow where
  capsuleId := row.capsuleId
  timestamp := row.timestamp
  sourceLogs := row.sourceLogs
  labels := row.labels
  verifyOk := mergedOk (row.verifyBySource.entries.map Sigma.snd)
  witnessedByBoth := decide (1 < row.sourceLogs.length)
  sourceLog := "+".intercalate row.sourceLogs

def buildMachineView (T : Tools) (sources : List Source) : Py (List MachineRow) := do
  let rows ← sources.foldlM (viewSource T) []
  let sorted ← sortedByKey (rows.map fun row => (row.timestamp.or (.str ""), row))
  return sorted.map fun row => row.2.finish

/-! ## The loops as one walk over the occurrences -/

section

variable (T : Tools)

/-- The records of one log that have an id. -/
def sourceOccurrences (source : Source) : Py (List Occurrence) := do
  let vmap ← verifyOkMap source.records source.results
  return (← source.records.mapM (occurrence source.log vmap)).reduceOption

theorem viewRecords_eq_ok {log : String} {vmap : List (Key × Bool)} {records : List Json}
    {rows rows' : List SeenRow} :
    records.foldlM (viewRecord T log vmap) rows = .ok rows' ↔
      ∃ os, records.mapM (occurrence log vmap) = .ok os ∧
        os.reduceOption.foldlM (see T) rows = .ok rows' := by
  induction records generalizing rows with
  | nil =>
      simp only [List.foldlM_nil, List.mapM_nil, Py.pure_eq_ok, Except.ok.injEq]
      constructor
      · rintro rfl
        exact ⟨[], rfl, rfl⟩
      · rintro ⟨_, rfl, h⟩
        exact Except.ok.inj h
  | cons record records ih =>
      rw [List.foldlM_cons, Py.bind_eq_ok]
      simp only [ih, List.mapM_cons, Py.bind_eq_ok, Py.pure_eq_ok, Except.ok.injEq]
      constructor
      · rintro ⟨middle, hrecord, os, hos, hrest⟩
        obtain ⟨o, ho, hsee⟩ := Py.bind_eq_ok.mp hrecord
        refine ⟨o :: os, ⟨o, ho, os, hos, rfl⟩, ?_⟩
        cases o with
        | none =>
          obtain rfl := Except.ok.inj hsee
          exact hrest
        | some o =>
          rw [List.reduceOption_cons_of_some, List.foldlM_cons, Py.bind_eq_ok]
          exact ⟨middle, hsee, hrest⟩
      · rintro ⟨_, ⟨o, ho, os, hos, rfl⟩, hrest⟩
        cases o with
        | none => exact ⟨rows, Py.bind_eq_ok.mpr ⟨none, ho, rfl⟩, os, hos, hrest⟩
        | some o =>
          rw [List.reduceOption_cons_of_some, List.foldlM_cons, Py.bind_eq_ok] at hrest
          obtain ⟨middle, hsee, hrest⟩ := hrest
          exact ⟨middle, Py.bind_eq_ok.mpr ⟨some o, ho, hsee⟩, os, hos, hrest⟩

theorem viewSource_eq_ok {source : Source} {rows rows' : List SeenRow} :
    viewSource T rows source = .ok rows' ↔
      ∃ os, sourceOccurrences source = .ok os ∧ os.foldlM (see T) rows = .ok rows' := by
  simp only [viewSource, sourceOccurrences, Py.bind_eq_ok, viewRecords_eq_ok, Py.pure_eq_ok,
    Except.ok.injEq]
  constructor
  · rintro ⟨vmap, hvmap, os, hos, hrows⟩
    exact ⟨_, ⟨vmap, hvmap, os, hos, rfl⟩, hrows⟩
  · rintro ⟨_, ⟨vmap, hvmap, os, hos, rfl⟩, hrows⟩
    exact ⟨vmap, hvmap, os, hos, hrows⟩

theorem viewSources_eq_ok {sources : List Source} {rows rows' : List SeenRow} :
    sources.foldlM (viewSource T) rows = .ok rows' ↔
      ∃ pages, sources.mapM sourceOccurrences = .ok pages ∧
        pages.flatten.foldlM (see T) rows = .ok rows' := by
  induction sources generalizing rows with
  | nil =>
      simp only [List.foldlM_nil, List.mapM_nil, Py.pure_eq_ok, Except.ok.injEq]
      constructor
      · rintro rfl
        exact ⟨[], rfl, rfl⟩
      · rintro ⟨_, rfl, h⟩
        exact Except.ok.inj h
  | cons source sources ih =>
      simp only [List.foldlM_cons, Py.bind_eq_ok, viewSource_eq_ok, ih, List.mapM_cons,
        Py.pure_eq_ok, Except.ok.injEq]
      constructor
      · rintro ⟨middle, ⟨os, hos, hmiddle⟩, pages, hpages, hrows⟩
        refine ⟨os :: pages, ⟨os, hos, pages, hpages, rfl⟩, ?_⟩
        rw [List.flatten_cons, List.foldlM_append, Py.bind_eq_ok]
        exact ⟨middle, hmiddle, hrows⟩
      · rintro ⟨_, ⟨os, hos, pages, hpages, rfl⟩, hrows⟩
        rw [List.flatten_cons, List.foldlM_append, Py.bind_eq_ok] at hrows
        obtain ⟨middle, hmiddle, hrows⟩ := hrows
        exact ⟨middle, ⟨os, hos, hmiddle⟩, pages, hpages, hrows⟩

/-! ## The rows after the walk -/

/-- The last occurrence of a key in a log decides for that log. -/
def lastIn (key : Key) (log : String) (os : List Occurrence) : Option Occurrence :=
  lastWith (fun o => decide (o.key = key ∧ o.log = log)) os

/-- The row of a first occurrence, after all of these. -/
structure RowOf (os : List Occurrence) (first : Occurrence) (row : SeenRow) : Prop where
  key : row.key = first.key
  capsuleId : row.capsuleId = first.capsuleId
  timestamp : first.record.get "timestamp" = .ok row.timestamp
  labels : labels T first.record first.log = .ok row.labels
  nodup : row.sourceLogs.Nodup
  logs : ∀ log, log ∈ row.sourceLogs ↔ ∃ o ∈ os, o.key = first.key ∧ o.log = log
  verified : ∀ log, row.verifyBySource.lookup log = (lastIn first.key log os).map Occurrence.ok

variable {T} {os : List Occurrence} {first o : Occurrence} {row : SeenRow}

/-- An occurrence of another key changes nothing. -/
theorem RowOf.skip (h : RowOf T os first row) (hne : o.key ≠ first.key) :
    RowOf T (os ++ [o]) first row := by
  obtain ⟨hkey, hid, htime, hlabels, hnodup, hlogs, hverified⟩ := h
  refine ⟨hkey, hid, htime, hlabels, hnodup, fun log => ?_, fun log => ?_⟩
  · rw [hlogs]
    simp [or_and_right, exists_or, hne]
  · rw [hverified, lastIn, lastIn, lastWith_concat]
    simp [hne]

/-- One of its own key adds its log and overwrites the result of that log. -/
theorem RowOf.see (h : RowOf T os first row) (heq : o.key = first.key) :
    RowOf T (os ++ [o]) first (row.see o) := by
  obtain ⟨hkey, hid, htime, hlabels, hnodup, hlogs, hverified⟩ := h
  refine ⟨hkey, hid, htime, hlabels, ?_, fun log => ?_, fun log => ?_⟩
  · unfold SeenRow.see
    split_ifs with hmem
    · exact hnodup
    · rw [List.nodup_append]
      refine ⟨hnodup, by simp, ?_⟩
      rintro log hlog _ ho rfl
      exact hmem (List.mem_singleton.mp ho ▸ hlog)
  · have hexists : (∃ o' ∈ os ++ [o], o'.key = first.key ∧ o'.log = log) ↔
        (∃ o' ∈ os, o'.key = first.key ∧ o'.log = log) ∨ o.log = log := by
      simp [or_and_right, exists_or, heq]
    rw [hexists, ← hlogs]
    unfold SeenRow.see
    split_ifs with hmem
    · constructor
      · exact .inl
      · rintro (hlog | rfl)
        · exact hlog
        · exact hmem
    · rw [List.mem_append, List.mem_singleton, eq_comm]
  · rw [lastIn, lastWith_concat]
    by_cases hlog : o.log = log
    · subst hlog
      simp [SeenRow.see, heq]
    · have hne : log ≠ o.log := fun h => hlog h.symm
      have hlookup : (row.see o).verifyBySource.lookup log = row.verifyBySource.lookup log :=
        AList.lookup_insert_ne hne
      rw [hlookup, hverified, lastIn]
      simp [hlog]

theorem RowOf.new {new : SeenRow} (hnone : ∀ o' ∈ os, o'.key ≠ o.key)
    (hnew : newRow T o = .ok new) : RowOf T (os ++ [o]) o new := by
  obtain ⟨timestamp, htime, hnew⟩ := Py.bind_eq_ok.mp hnew
  obtain ⟨rowLabels, hlabels, hnew⟩ := Py.bind_eq_ok.mp hnew
  obtain rfl := Except.ok.inj hnew
  have hlast : ∀ log, lastIn o.key log os = none := fun log =>
    lastWith_eq_none.mpr fun o' ho' => by simp [hnone o' ho']
  refine ⟨rfl, rfl, htime, hlabels, by simp, fun log => ?_, fun log => ?_⟩
  · constructor
    · intro hlog
      exact ⟨o, by simp, rfl, (List.mem_singleton.mp hlog).symm⟩
    · rintro ⟨o', ho', hkey, rfl⟩
      obtain ho' | ho' := List.mem_append.mp ho'
      · exact absurd hkey (hnone o' ho')
      · rw [List.mem_singleton.mp ho']
        exact List.mem_singleton_self _
  · have hnone := hlast log
    rw [lastIn] at hnone
    rw [lastIn, lastWith_concat, hnone]
    by_cases hlog : o.log = log
    · subst hlog
      rw [AList.lookup_insert]
      simp
    · rw [AList.lookup_insert_ne (Ne.symm hlog), AList.lookup_empty]
      simp [hlog]

theorem keys_of_rows {fs : List Occurrence} {rows : List SeenRow}
    (h : List.Forall₂ (RowOf T os) fs rows) : fs.map Occurrence.key = rows.map SeenRow.key := by
  rw [← List.forall₂_eq_eq_eq, List.forall₂_map_left_iff, List.forall₂_map_right_iff]
  exact h.imp fun _ _ hrow => hrow.key.symm

/-- One occurrence more. -/
theorem rows_step {rows rows' : List SeenRow}
    (hrows : List.Forall₂ (RowOf T os) (firsts Occurrence.key os) rows)
    (hsee : Viewer.see T rows o = .ok rows') :
    List.Forall₂ (RowOf T (os ++ [o])) (firsts Occurrence.key (os ++ [o])) rows' := by
  rw [firsts_concat]
  unfold Viewer.see at hsee
  rw [← keys_of_rows hrows] at hsee
  split_ifs at hsee ⊢ with hmem
  · obtain rfl := Except.ok.inj hsee
    rw [List.forall₂_map_right_iff]
    apply hrows.imp
    intro first row hrow
    split_ifs with hkey
    · exact hrow.see (hkey.symm.trans hrow.key)
    · exact hrow.skip fun heq => hkey (hrow.key.trans heq.symm)
  · obtain ⟨new, hnew, hsee⟩ := Py.bind_eq_ok.mp hsee
    obtain rfl := Except.ok.inj hsee
    have hother : ∀ first ∈ firsts Occurrence.key os, o.key ≠ first.key :=
      fun first hfirst heq => hmem (heq ▸ List.mem_map_of_mem hfirst)
    have hold : List.Forall₂ (RowOf T (os ++ [o])) (firsts Occurrence.key os) rows := by
      apply ((List.forall₂_and_left _ _).mpr ⟨hother, hrows⟩).imp
      rintro first row ⟨hne, hrow⟩
      exact hrow.skip hne
    have hnone : ∀ o' ∈ os, o'.key ≠ o.key :=
      fun o' ho' heq => hmem (mem_keys_firsts.mpr ⟨o', ho', heq⟩)
    exact List.rel_append hold (.cons (.new hnone hnew) .nil)

/-- The rows stand for the first occurrences of their keys, in order. -/
theorem rows_of_see {os : List Occurrence} {rows : List SeenRow}
    (h : os.foldlM (Viewer.see T) [] = .ok rows) :
    List.Forall₂ (RowOf T os) (firsts Occurrence.key os) rows := by
  induction os using List.reverseRecOn generalizing rows with
  | nil =>
      obtain rfl := Except.ok.inj h
      exact .nil
  | append_singleton os o ih =>
      rw [List.foldlM_append, Py.bind_eq_ok] at h
      obtain ⟨middle, hmiddle, h⟩ := h
      rw [List.foldlM_cons, Py.bind_eq_ok] at h
      obtain ⟨_, hsee, h⟩ := h
      obtain rfl := Except.ok.inj h
      exact rows_step (ih hmiddle) hsee

/-- The walk ends where every first occurrence has its labels. -/
theorem see_returns {os : List Occurrence} :
    (∃ rows, os.foldlM (Viewer.see T) [] = .ok rows) ↔
      ∀ first ∈ firsts Occurrence.key os, ∃ row, newRow T first = .ok row := by
  induction os using List.reverseRecOn with
  | nil => exact iff_of_true ⟨[], rfl⟩ (by simp [firsts])
  | append_singleton os o ih =>
      simp only [List.foldlM_append, Py.bind_eq_ok, List.foldlM_cons, List.foldlM_nil]
      rw [firsts_concat]
      constructor
      · rintro ⟨rows', middle, hmiddle, rows, hsee, -⟩
        have hall := ih.mp ⟨middle, hmiddle⟩
        unfold Viewer.see at hsee
        rw [← keys_of_rows (rows_of_see hmiddle)] at hsee
        split_ifs at hsee ⊢ with hmem
        · exact hall
        · obtain ⟨new, hnew, -⟩ := Py.bind_eq_ok.mp hsee
          intro first hfirst
          obtain hfirst | hfirst := List.mem_append.mp hfirst
          · exact hall first hfirst
          · rw [List.mem_singleton.mp hfirst]
            exact ⟨new, hnew⟩
      · intro hall
        have hold : ∀ first ∈ firsts Occurrence.key os, ∃ row, newRow T first = .ok row := by
          intro first hfirst
          apply hall first
          split_ifs
          · exact hfirst
          · exact List.mem_append_left _ hfirst
        obtain ⟨middle, hmiddle⟩ := ih.mpr hold
        have hsee : ∃ rows, Viewer.see T middle o = .ok rows := by
          unfold Viewer.see
          rw [← keys_of_rows (rows_of_see hmiddle)]
          split_ifs at hall ⊢ with hmem
          · exact ⟨_, rfl⟩
          · obtain ⟨new, hnew⟩ := hall o (by simp)
            rw [hnew]
            exact ⟨_, rfl⟩
        obtain ⟨rows, hsee⟩ := hsee
        exact ⟨rows, middle, hmiddle, rows, hsee, rfl⟩

end

end CapsuleMesh.Viewer
