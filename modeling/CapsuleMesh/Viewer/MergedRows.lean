import CapsuleMesh.Viewer.MergedVerdicts

/-!
# What the merged view says

The rows of `build_machine_view` against the records they stand for: one row for each id, and on
each row the verdict of all occurrences of its id.  The ids and the logs of a row are always these;
the verdict is that of the occurrences where the results that decide it hide none of them.
-/

namespace CapsuleMesh.Viewer

open Python Library Stranger

section

variable {sources : List Source} {pages : List (List Occurrence)} {key : Key}

/-! ## What decides a row -/

theorem mergedOk_eq_true {oks : List (Option Bool)} :
    mergedOk oks = some true ↔ ∀ ok ∈ oks, ok = some true := by
  unfold mergedOk
  split_ifs with hany hall
  · apply iff_of_false (by simp)
    intro hall
    obtain ⟨ok, hok, hfalse⟩ := List.any_eq_true.mp hany
    rw [hall ok hok] at hfalse
    simp at hfalse
  · exact iff_of_true rfl (by simpa using hall)
  · apply iff_of_false (by simp)
    intro h
    exact hall (by simpa using h)

theorem mergedOk_eq_false {oks : List (Option Bool)} :
    mergedOk oks = some false ↔ some false ∈ oks := by
  unfold mergedOk
  split_ifs with hany hall
  · exact iff_of_true rfl (by simpa using hany)
  · exact iff_of_false (by simp) (by simpa using hany)
  · exact iff_of_false (by simp) (by simpa using hany)

theorem mem_verifyBySource {os : List Occurrence} {T : Tools} {first : Occurrence} {row : SeenRow}
    (h : RowOf T os first row) {ok : Option Bool} :
    ok ∈ row.verifyBySource.entries.map Sigma.snd ↔
      ∃ log, (lastIn first.key log os).map Occurrence.ok = some ok := by
  simp only [← h.verified]
  constructor
  · intro hmem
    obtain ⟨⟨log, _⟩, hentry, rfl⟩ := List.mem_map.mp hmem
    exact ⟨log, AList.mem_lookup_iff.mpr hentry⟩
  · rintro ⟨log, hlookup⟩
    exact List.mem_map.mpr ⟨⟨log, ok⟩, AList.mem_lookup_iff.mp hlookup, rfl⟩

/-- What a row has to say of its id. -/
structure RowSays (sources : List Source) (key : Key) (row : MachineRow) : Prop where
  logs : ∀ log, log ∈ row.sourceLogs ↔ ∃ source ∈ sources, source.log = log ∧ source.Has key
  nodup : row.sourceLogs.Nodup
  verified : row.verifyOk = some true ↔ ∀ ok, OccursWith sources key ok → ok = some true
  failed : OccursWith sources key (some false) → row.verifyOk = some false

/-- A failure, then no result, then a success. -/
def rank : Option Bool → ℕ
  | some false => 0
  | none => 1
  | some true => 2

/-- No occurrence is hidden by better ones, or held back by results of other records. -/
structure Unmasked (sources : List Source) (key : Key) : Prop where
  noBetter : ∀ ok, OccursWith sources key ok → ∃ d, Decides sources key d ∧ rank d ≤ rank ok
  noWorse : (∀ ok, OccursWith sources key ok → ok = some true) →
    ∀ d, Decides sources key d → d = some true

theorem rank_le_iff {d ok : Option Bool} : rank d ≤ rank ok ↔
    (ok = none → d ≠ some true) ∧ (ok = some false → d = some false) := by
  cases ok with
  | none =>
      cases d with
      | none => simp
      | some b => cases b <;> simp [rank]
  | some ok =>
      cases d with
      | none => cases ok <;> simp [rank]
      | some b => cases ok <;> cases b <;> simp [rank]

theorem unmasked_iff {verifyOk : Option Bool} (hexists : ∃ d, Decides sources key d)
    (htrue : verifyOk = some true ↔ ∀ d, Decides sources key d → d = some true)
    (hfalse : verifyOk = some false ↔ Decides sources key (some false)) :
    ((verifyOk = some true ↔ ∀ ok, OccursWith sources key ok → ok = some true) ∧
      (OccursWith sources key (some false) → verifyOk = some false)) ↔ Unmasked sources key := by
  rw [htrue, hfalse]
  constructor
  · rintro ⟨hverified, hfailed⟩
    refine ⟨fun ok hok => ?_, hverified.mpr⟩
    by_cases hbad : ok = some false
    · subst hbad
      exact ⟨some false, hfailed hok, le_rfl⟩
    · by_cases hnone : ok = none
      · -- Were every deciding result a success, the row would be verified.
        by_contra hnot
        have hall : ∀ d, Decides sources key d → d = some true := by
          intro d hd
          by_contra hne
          exact hnot ⟨d, hd, rank_le_iff.mpr ⟨fun _ => hne, fun h => absurd h hbad⟩⟩
        have hsuccess := hverified.mp hall ok hok
        rw [hnone] at hsuccess
        cases hsuccess
      · obtain ⟨d, hd⟩ := hexists
        exact ⟨d, hd, rank_le_iff.mpr ⟨fun h => absurd h hnone, fun h => absurd h hbad⟩⟩
  · rintro ⟨hnoBetter, hnoWorse⟩
    refine ⟨⟨fun hall ok hok => ?_, hnoWorse⟩, fun hok => ?_⟩
    · obtain ⟨d, hd, hle⟩ := hnoBetter ok hok
      obtain ⟨hnone, hbad⟩ := rank_le_iff.mp hle
      rw [hall d hd] at hnone hbad
      cases ok with
      | none => exact absurd rfl (hnone rfl)
      | some b =>
        cases b with
        | true => rfl
        | false => cases hbad rfl
    · obtain ⟨d, hd, hle⟩ := hnoBetter _ hok
      exact (rank_le_iff.mp hle).2 rfl ▸ hd

/-- What the rows have to say: one row for each id, and of each id what its occurrences say. -/
structure ViewSays (sources : List Source) (rows : List MachineRow) : Prop where
  distinct : (rows.map fun row => row.capsuleId.key).Nodup
  complete : ∀ key, (∃ row ∈ rows, row.capsuleId.key = .ok key) ↔ ∃ source ∈ sources, source.Has key
  verdicts : ∀ row ∈ rows, ∃ key, row.capsuleId.key = .ok key ∧ RowSays sources key row

/-- The first record of each id, with its log. -/
def firstRecords (sources : List Source) : List (String × Json) :=
  firsts (fun e => idKey? e.2) ((sources.flatMap fun source =>
    (source.records.filter fun record => (idKey? record).isSome).map fun record =>
      (source.log, record)))

/-- `record.get("timestamp") or ""`. -/
def timeKey (record : Json) : Json := ((record.get "timestamp").toOption.getD .null).or (.str "")

/-- Logs that a view can be made of: ids can be looked up, the first record of each id has its
labels, and the times of these records can be compared. -/
structure Viewable (T : Tools) (sources : List Source) : Prop where
  readable : ∀ source ∈ sources, source.Readable
  labels : ∀ e ∈ firstRecords sources, ∃ l, labels T e.2 e.1 = .ok l
  timestamps : ∃ sorted, sortedByKey ((firstRecords sources).map fun e => (timeKey e.2, ())) =
    .ok sorted

/-! ## When a view is made -/

theorem map_flatten_pages (h : List.Forall₂ PageOf sources pages) :
    pages.flatten.map (fun o => (o.log, o.record)) = sources.flatMap fun source =>
      (source.records.filter fun record => (idKey? record).isSome).map fun record =>
        (source.log, record) := by
  induction h with
  | nil => rfl
  | cons hpage _ ih => rw [List.flatten_cons, List.map_append, ih, hpage.records, List.flatMap_cons]

theorem idKey_of_mem (h : List.Forall₂ PageOf sources pages) {o : Occurrence}
    (ho : o ∈ pages.flatten) : idKey? o.record = some o.key ∧ o.capsuleId.key = .ok o.key := by
  obtain ⟨page, hpage, ho⟩ := List.mem_flatten.mp ho
  obtain ⟨source, -, hof⟩ := exists_beside h hpage
  exact ⟨hof.idKey o ho, hof.capsuleId o ho⟩

theorem firstRecords_eq (h : List.Forall₂ PageOf sources pages) :
    firstRecords sources =
      (firsts Occurrence.key pages.flatten).map fun o => (o.log, o.record) := by
  rw [firstRecords, ← map_flatten_pages h]
  apply firsts_map
  intro o ho o' ho'
  rw [(idKey_of_mem h ho).1, (idKey_of_mem h ho').1, Option.some.injEq]

theorem get_returns {record : Json} (h : idKey? record = some key) (name : String) :
    ∃ value, record.get name = .ok value := by
  obtain ⟨id, hid, -⟩ := idKey?_eq_some.mp h
  cases record with
  | obj members => exact ⟨_, rfl⟩
  | _ => cases hid

theorem newRow_returns {T : Tools} {o : Occurrence} (h : idKey? o.record = some o.key) :
    (∃ row, newRow T o = .ok row) ↔ ∃ l, labels T o.record o.log = .ok l := by
  obtain ⟨timestamp, htime⟩ := get_returns h "timestamp"
  rw [newRow, htime]
  cases labels T o.record o.log <;> simp

/-- The time of a row is the time of its first record. -/
theorem timeKeys_of_rows {T : Tools} {os fs : List Occurrence} {seen : List SeenRow}
    (h : List.Forall₂ (RowOf T os) fs seen) :
    seen.map (fun row => row.timestamp.or (.str "")) = fs.map fun o => timeKey o.record := by
  rw [← List.forall₂_eq_eq_eq, List.forall₂_map_left_iff, List.forall₂_map_right_iff]
  apply h.flip.imp
  intro row first hrow
  rw [timeKey, hrow.timestamp]
  rfl

theorem buildMachineView_eq_ok {T : Tools} {rows : List MachineRow} :
    buildMachineView T sources = .ok rows ↔ ∃ pages, sources.mapM sourceOccurrences = .ok pages ∧
      ∃ seen, pages.flatten.foldlM (see T) [] = .ok seen ∧
      ∃ sorted, sortedByKey (seen.map fun row => (row.timestamp.or (.str ""), row)) = .ok sorted ∧
        sorted.map (fun row => row.2.finish) = rows := by
  simp only [buildMachineView, Py.bind_eq_ok, viewSources_eq_ok, Py.pure_eq_ok, Except.ok.injEq]
  constructor
  · rintro ⟨seen, ⟨pages, hpages, hseen⟩, sorted, hsorted, hrows⟩
    exact ⟨pages, hpages, seen, hseen, sorted, hsorted, hrows⟩
  · rintro ⟨pages, hpages, seen, hseen, sorted, hsorted, hrows⟩
    exact ⟨seen, ⟨pages, hpages, hseen⟩, sorted, hsorted, hrows⟩

theorem pages_of_mapM (h : sources.mapM sourceOccurrences = .ok pages) :
    List.Forall₂ PageOf sources pages :=
  (Py.forall₂_of_map_eq (Py.mapM_eq_ok.mp h)).imp fun _ _ => pageOf_sourceOccurrences

theorem timestamps_iff {T : Tools} {seen : List SeenRow} (hpages : List.Forall₂ PageOf sources pages)
    (hseen : pages.flatten.foldlM (see T) [] = .ok seen) :
    (∃ sorted, sortedByKey (seen.map fun row => (row.timestamp.or (.str ""), row)) = .ok sorted) ↔
      ∃ sorted, sortedByKey ((firstRecords sources).map fun e => (timeKey e.2, ())) =
        .ok sorted := by
  apply sortedByKey_returns_congr
  rw [firstRecords_eq hpages]
  simp only [List.map_map]
  exact timeKeys_of_rows (rows_of_see hseen)

theorem labels_iff {T : Tools} (hpages : List.Forall₂ PageOf sources pages) :
    (∃ seen, pages.flatten.foldlM (see T) [] = .ok seen) ↔
      ∀ e ∈ firstRecords sources, ∃ l, labels T e.2 e.1 = .ok l := by
  rw [see_returns, firstRecords_eq hpages, List.forall_mem_map]
  apply forall₂_congr
  intro first hfirst
  exact newRow_returns (idKey_of_mem hpages (mem_of_mem_firsts hfirst)).1

theorem buildMachineView_returns {T : Tools} :
    (∃ rows, buildMachineView T sources = .ok rows) ↔ Viewable T sources := by
  simp only [buildMachineView_eq_ok]
  constructor
  · rintro ⟨_, pages, hmapM, seen, hseen, sorted, hsorted, rfl⟩
    have hpages := pages_of_mapM hmapM
    refine ⟨fun source hsource => ?_, ?_, ?_⟩
    · exact sourceOccurrences_returns.mp (Py.mapM_returns.mp ⟨pages, hmapM⟩ source hsource)
    · exact (labels_iff hpages).mp ⟨seen, hseen⟩
    · exact (timestamps_iff hpages hseen).mp ⟨sorted, hsorted⟩
  · rintro ⟨hreadable, hlabels, htimestamps⟩
    obtain ⟨pages, hmapM⟩ : ∃ pages, sources.mapM sourceOccurrences = .ok pages :=
      Py.mapM_returns.mpr fun source hsource =>
        sourceOccurrences_returns.mpr (hreadable source hsource)
    have hpages := pages_of_mapM hmapM
    obtain ⟨seen, hseen⟩ := (labels_iff hpages).mpr hlabels
    obtain ⟨sorted, hsorted⟩ := (timestamps_iff hpages hseen).mpr htimestamps
    exact ⟨_, pages, hmapM, seen, hseen, sorted, hsorted, rfl⟩

/-! ## What it says then -/

section

variable {T : Tools} {seen : List SeenRow} (hpages : List.Forall₂ PageOf sources pages)

include hpages

/-- A row says what it has to exactly where no occurrence of its id is hidden. -/
theorem rowSays_iff {first : Occurrence} {row : SeenRow} (hfirst : first ∈ pages.flatten)
    (h : RowOf T pages.flatten first row) :
    RowSays sources first.key row.finish ↔ Unmasked sources first.key := by
  have hlogs : ∀ log, log ∈ row.sourceLogs ↔
      ∃ source ∈ sources, source.log = log ∧ source.Has first.key := by
    intro log
    rw [h.logs, exists_occurrence_iff hpages]
  have hdecides : ∀ d, d ∈ row.verifyBySource.entries.map Sigma.snd ↔
      Decides sources first.key d := by
    intro d
    rw [mem_verifyBySource h, exists_lastIn_iff hpages]
  have htrue : row.finish.verifyOk = some true ↔
      ∀ d, Decides sources first.key d → d = some true := by
    simp only [← hdecides]
    exact mergedOk_eq_true
  have hfalse : row.finish.verifyOk = some false ↔ Decides sources first.key (some false) := by
    rw [← hdecides]
    exact mergedOk_eq_false
  have hexists : ∃ d, Decides sources first.key d := by
    obtain ⟨source, hsource, -, hhas⟩ :=
      (exists_occurrence_iff hpages).mp ⟨first, hfirst, rfl, rfl⟩
    exact exists_decides hpages hsource hhas
  rw [← unmasked_iff hexists htrue hfalse]
  constructor
  · rintro ⟨-, -, hverified, hfailed⟩
    exact ⟨hverified, hfailed⟩
  · rintro ⟨hverified, hfailed⟩
    exact ⟨hlogs, h.nodup, hverified, hfailed⟩

theorem exists_first_iff :
    (∃ first ∈ firsts Occurrence.key pages.flatten, first.key = key) ↔
      ∃ source ∈ sources, source.Has key := by
  have hmem : key ∈ (firsts Occurrence.key pages.flatten).map Occurrence.key ↔
      ∃ o ∈ pages.flatten, o.key = key := mem_keys_firsts
  rw [List.mem_map] at hmem
  rw [hmem]
  constructor
  · rintro ⟨o, ho, hkey⟩
    obtain ⟨source, hsource, -, hhas⟩ := (exists_occurrence_iff hpages).mp ⟨o, ho, hkey, rfl⟩
    exact ⟨source, hsource, hhas⟩
  · rintro ⟨source, hsource, hhas⟩
    obtain ⟨o, ho, hkey, -⟩ := (exists_occurrence_iff hpages).mpr ⟨source, hsource, rfl, hhas⟩
    exact ⟨o, ho, hkey⟩

/-- The row of a first occurrence carries its id, and says of it what it has to where nothing is
hidden. -/
theorem finished_of_rows
    (hseen : List.Forall₂ (RowOf T pages.flatten) (firsts Occurrence.key pages.flatten) seen) :
    List.Forall₂ (fun first row => row.finish.capsuleId.key = .ok first.key ∧
        (RowSays sources first.key row.finish ↔ Unmasked sources first.key))
      (firsts Occurrence.key pages.flatten) seen := by
  have hmem : ∀ first ∈ firsts Occurrence.key pages.flatten, first ∈ pages.flatten :=
    fun _ => mem_of_mem_firsts
  apply ((List.forall₂_and_left _ _).mpr ⟨hmem, hseen⟩).imp
  rintro first row ⟨hfirst, hrow⟩
  refine ⟨?_, rowSays_iff hpages hfirst hrow⟩
  have hid := (idKey_of_mem hpages hfirst).2
  rw [← hrow.capsuleId] at hid
  exact hid

/-- The ids are those of the records; each row is right where none of its occurrences is hidden. -/
theorem viewSays_iff {rows : List MachineRow}
    (hseen : List.Forall₂ (RowOf T pages.flatten) (firsts Occurrence.key pages.flatten) seen)
    (hperm : rows.Perm (seen.map SeenRow.finish)) :
    ViewSays sources rows ↔ ∀ key, (∃ source ∈ sources, source.Has key) → Unmasked sources key := by
  have hfinished := finished_of_rows hpages hseen
  have hkeys : (rows.map fun row => row.capsuleId.key).Perm
      ((firsts Occurrence.key pages.flatten).map fun o => .ok o.key) := by
    have heq : seen.map (fun row => row.finish.capsuleId.key) =
        (firsts Occurrence.key pages.flatten).map fun o => .ok o.key := by
      rw [← List.forall₂_eq_eq_eq, List.forall₂_map_left_iff, List.forall₂_map_right_iff]
      exact hfinished.flip.imp fun _ _ h => h.1
    rw [← heq]
    have hmap := hperm.map fun row : MachineRow => row.capsuleId.key
    rwa [List.map_map] at hmap
  have hdistinct : (rows.map fun row => row.capsuleId.key).Nodup := by
    rw [hkeys.nodup_iff]
    have hok : Function.Injective (Except.ok : Key → Py Key) := fun _ _ => Except.ok.inj
    have hnodup : (((firsts Occurrence.key pages.flatten).map Occurrence.key).map
        (Except.ok : Key → Py Key)).Nodup := (nodup_keys_firsts _).map hok
    rwa [List.map_map] at hnodup
  have hcomplete : ∀ key, (∃ row ∈ rows, row.capsuleId.key = .ok key) ↔
      ∃ source ∈ sources, source.Has key := by
    intro key
    rw [← exists_first_iff hpages, ← List.mem_map, hkeys.mem_iff, List.mem_map]
    simp only [Except.ok.injEq]
  constructor
  · intro h key hhas
    obtain ⟨first, hmem, rfl⟩ := (exists_first_iff hpages).mpr hhas
    obtain ⟨row, hrow, hkey, hiff⟩ := exists_beside hfinished.flip hmem
    obtain ⟨key, hkey', hrowSays⟩ :=
      h.verdicts row.finish (hperm.mem_iff.mpr (List.mem_map_of_mem hrow))
    obtain rfl := Except.ok.inj (hkey'.symm.trans hkey)
    exact hiff.mp hrowSays
  · intro hunmasked
    refine ⟨hdistinct, hcomplete, fun row hrow => ?_⟩
    obtain ⟨row, hseenRow, rfl⟩ := List.mem_map.mp (hperm.mem_iff.mp hrow)
    obtain ⟨first, hmem, hkey, hiff⟩ := exists_beside hfinished hseenRow
    refine ⟨first.key, hkey, hiff.mpr (hunmasked _ ?_)⟩
    exact (exists_first_iff hpages).mp ⟨first, hmem, rfl⟩

end

/-- The view is made and says of each id what its occurrences say, exactly where it can be made and
no occurrence is hidden by the results that decide its row. -/
theorem machine_view_exact_iff (T : Tools) (sources : List Source) :
    (∃ rows, buildMachineView T sources = .ok rows ∧ ViewSays sources rows) ↔
      Viewable T sources ∧ ∀ key, (∃ source ∈ sources, source.Has key) → Unmasked sources key := by
  have hverdict : ∀ rows, buildMachineView T sources = .ok rows →
      (ViewSays sources rows ↔
        ∀ key, (∃ source ∈ sources, source.Has key) → Unmasked sources key) := by
    intro rows hrows
    obtain ⟨pages, hmapM, seen, hseen, sorted, hsorted, rfl⟩ := buildMachineView_eq_ok.mp hrows
    apply viewSays_iff (pages_of_mapM hmapM) (rows_of_see hseen)
    have hperm := (sortedByKey_perm hsorted).map fun row => row.2.finish
    simpa [Function.comp_def] using hperm
  rw [← buildMachineView_returns]
  constructor
  · rintro ⟨rows, hrows, h⟩
    exact ⟨⟨rows, hrows⟩, (hverdict rows hrows).mp h⟩
  · rintro ⟨⟨rows, hrows⟩, h⟩
    exact ⟨rows, hrows, (hverdict rows hrows).mpr h⟩

/-- Tools that accept everything. -/
def acceptingTools : Tools where
  verifyStore records := records.map fun _ => ⟨true, []⟩
  verifyTransparent _ _ := .error ""
  verifyCapsuleSignature _ := true
  ackSignature _ := true
  text := ⟨fun _ => "", id⟩

/-- A log with the same id twice; the first record fails, the second verifies. -/
def failedThenVerified : Source where
  log := SOURCE_PLUGIN
  records := [.obj [("capsule_id", .str "a")], .obj [("capsule_id", .str "a")]]
  results := some [⟨.str "a", false⟩, ⟨.str "a", true⟩]

theorem failed_occurrence_masked :
    (buildMachineView acceptingTools [failedThenVerified]).map (List.map MachineRow.verifyOk) =
        .ok [some true] ∧
      OccursWith [failedThenVerified] (.str "a") (some false) ∧
      ¬ ∃ rows, buildMachineView acceptingTools [failedThenVerified] = .ok rows ∧
        ViewSays [failedThenVerified] rows := by
  have hview : (buildMachineView acceptingTools [failedThenVerified]).map
      (List.map MachineRow.verifyOk) = .ok [some true] := by decide +kernel
  have hoccurs : OccursWith [failedThenVerified] (.str "a") (some false) :=
    ⟨_, List.mem_singleton_self _, 0, _, rfl, rfl, rfl⟩
  refine ⟨hview, hoccurs, ?_⟩
  rintro ⟨rows, hrows, h⟩
  rw [hrows] at hview
  have hhas : ∃ source ∈ [failedThenVerified], source.Has (.str "a") :=
    ⟨_, List.mem_singleton_self _, _, List.mem_cons_self, rfl⟩
  obtain ⟨row, hrow, hkey⟩ := (h.complete (.str "a")).mpr hhas
  obtain ⟨key, hkey', hverdict⟩ := h.verdicts row hrow
  obtain rfl := Except.ok.inj (hkey.symm.trans hkey')
  have hok : row.verifyOk ∈ rows.map MachineRow.verifyOk := List.mem_map_of_mem hrow
  rw [Except.ok.inj hview, List.mem_singleton, hverdict.failed hoccurs] at hok
  cases hok

end

end CapsuleMesh.Viewer
