import CapsuleMesh.Viewer.MachineView

/-!
# The results that decide a merged row

Each occurrence of an id has the result at its own place.  A row of `build_machine_view` is made of
fewer: for each name of a log, of the last result filed under the id in the last log of that name.
-/

namespace CapsuleMesh.Viewer

open Python Library Stranger

/-! ## Occurrences and their results -/

/-- The key of a record that has an id. -/
def idKey? (record : Json) : Option Key :=
  match record.getD "capsule_id" (.str "") with
  | .ok id => if id.truthy then id.key.toOption else none
  | .error _ => none

def Source.Has (source : Source) (key : Key) : Prop :=
  ∃ record ∈ source.records, idKey? record = some key

/-- The result at the place of a record. -/
def Source.own (source : Source) (i : ℕ) : Option Bool :=
  ((source.results.getD [])[i]?).map Result.ok

/-- The id occurs, and its own result says this. -/
def OccursWith (sources : List Source) (key : Key) (ok : Option Bool) : Prop :=
  ∃ source ∈ sources, ∃ i record, source.records[i]? = some record ∧ idKey? record = some key ∧
    source.own i = ok

/-- The result at a place is filed under the key: by its own id, or by that of the record. -/
def Source.FiledUnder (source : Source) (key : Key) (i : ℕ) (ok : Bool) : Prop :=
  ∃ result, (source.results.getD [])[i]? = some result ∧ result.ok = ok ∧
    (result.capsuleId.truthy = true ∧ result.capsuleId.key = .ok key ∨
      result.capsuleId.truthy = false ∧
        ∃ record, source.records[i]? = some record ∧ idKey? record = some key)

def Source.LastFiled (source : Source) (key : Key) : Option Bool → Prop
  | some ok => ∃ i, source.FiledUnder key i ok ∧ ∀ j ok', i < j → ¬source.FiledUnder key j ok'
  | none => ∀ i ok, ¬source.FiledUnder key i ok

/-- The last log of its name that has the id, with the last result filed under it. -/
def Decides (sources : List Source) (key : Key) (ok : Option Bool) : Prop :=
  ∃ before source after, sources = before ++ source :: after ∧ source.Has key ∧
    (∀ later ∈ after, later.log = source.log → ¬later.Has key) ∧ source.LastFiled key ok

/-- There is one result at a place, and one last of them. -/
theorem Source.LastFiled.unique {source : Source} {key : Key} {ok ok' : Option Bool}
    (h : source.LastFiled key ok) (h' : source.LastFiled key ok') : ok = ok' := by
  cases ok with
  | none =>
      cases ok' with
      | none => rfl
      | some b' =>
        obtain ⟨j, hj, -⟩ := h'
        exact absurd hj (h j b')
  | some b =>
      obtain ⟨i, hi, hafter⟩ := h
      cases ok' with
      | none => exact absurd hi (h' i b)
      | some b' =>
        obtain ⟨j, hj, hafter'⟩ := h'
        obtain hlt | rfl | hlt := lt_trichotomy i j
        · exact absurd hj (hafter j b' hlt)
        · obtain ⟨result, hresult, rfl, -⟩ := hi
          obtain ⟨_, hresult', rfl, -⟩ := hj
          rw [Option.some.inj (hresult.symm.trans hresult')]
        · exact absurd hi (hafter' i b hlt)

/-! ## The map of one log -/

section

variable {source : Source} {writes : List (Key × Bool)} {key : Key}

/-- Records whose ids can be looked up, and results whose ids can. -/
structure Source.Readable (source : Source) : Prop where
  records : ∀ record ∈ source.records, ∃ id, record.getD "capsule_id" (.str "") = .ok id ∧
    (id.truthy = true → ∃ key, id.key = .ok key)
  results : ∀ result ∈ source.results.getD [], result.capsuleId.truthy = true →
    ∃ key, result.capsuleId.key = .ok key

theorem idKey?_eq_some {record : Json} {key : Key} :
    idKey? record = some key ↔ ∃ id, record.getD "capsule_id" (.str "") = .ok id ∧
      id.truthy = true ∧ id.key = .ok key := by
  unfold idKey?
  cases record.getD "capsule_id" (.str "") with
  | error e => simp
  | ok id =>
      cases htruthy : id.truthy with
      | false => simp [htruthy]
      | true => cases hkey : id.key <;> simp [htruthy, hkey, Except.toOption]

/-- An id that may be filed under, once it is read. -/
theorem entry_of_id {id : Json} {result : Result} {entry : Key × Bool} :
    (if id.truthy then (do return some (← id.key, result.ok)) else return none :
        Py (Option (Key × Bool))) = .ok (some entry) ↔
      id.truthy = true ∧ id.key = .ok entry.1 ∧ result.ok = entry.2 := by
  cases id.truthy with
  | false => simp
  | true =>
      cases id.key with
      | error e => simp
      | ok key => simp [Prod.ext_iff]

theorem verifyEntry_eq_some {i : ℕ} {result : Result} {key : Key} {ok : Bool} :
    verifyEntry source.records i result = .ok (some (key, ok)) ↔ result.ok = ok ∧
      (result.capsuleId.truthy = true ∧ result.capsuleId.key = .ok key ∨
        result.capsuleId.truthy = false ∧
          ∃ record, source.records[i]? = some record ∧ idKey? record = some key) := by
  unfold verifyEntry
  cases hown : result.capsuleId.truthy with
  | true =>
      rw [if_pos rfl, pure_bind, entry_of_id]
      simp only [hown, true_and, and_comm, Bool.true_eq_false, false_and, or_false]
  | false =>
      rw [if_neg Bool.false_ne_true]
      simp only [Bool.false_eq_true, false_and, false_or, true_and]
      cases hrecord : source.records[i]? with
      | none => simp
      | some record =>
        simp only [Py.bind_eq_ok, entry_of_id, Option.some.injEq, exists_eq_left', idKey?_eq_some]
        constructor
        · rintro ⟨id, hid, htruthy, hkey, hok⟩
          exact ⟨hok, id, hid, htruthy, hkey⟩
        · rintro ⟨hok, id, hid, htruthy, hkey⟩
          exact ⟨id, hid, htruthy, hkey, hok⟩

/-- The entries of the map are there where the ids can be read. -/
theorem verifyEntry_returns (hrecords : ∀ record ∈ source.records, ∃ id,
      record.getD "capsule_id" (.str "") = .ok id ∧
        (id.truthy = true → ∃ key, id.key = .ok key)) (i : ℕ) (result : Result) :
    (∃ entry, verifyEntry source.records i result = .ok entry) ↔
      (result.capsuleId.truthy = true → ∃ key, result.capsuleId.key = .ok key) := by
  unfold verifyEntry
  cases hown : result.capsuleId.truthy with
  | true =>
      rw [if_pos rfl, pure_bind]
      simp only [hown, if_true, forall_const]
      cases result.capsuleId.key <;> simp
  | false =>
      apply iff_of_true _ (by simp)
      rw [if_neg Bool.false_ne_true]
      cases hrecord : source.records[i]? with
      | none => exact ⟨none, rfl⟩
      | some record =>
        obtain ⟨id, hid, hkey⟩ := hrecords record (List.mem_of_getElem? hrecord)
        simp only [hid, Py.ok_bind]
        cases htruthy : id.truthy with
        | false => exact ⟨none, rfl⟩
        | true =>
          obtain ⟨key, hkey⟩ := hkey htruthy
          rw [hkey]
          exact ⟨_, rfl⟩

/-- The entries of the map, one for each result. -/
theorem filedUnder_iff {entries : List (Option (Key × Bool))}
    (hentries : ((source.results.getD []).zipIdx.mapM fun r =>
      verifyEntry source.records r.2 r.1) = .ok entries) (i : ℕ) (ok : Bool) :
    source.FiledUnder key i ok ↔ entries[i]? = some (some (key, ok)) := by
  constructor
  · rintro ⟨result, hresult, hok, hfiled⟩
    have hat : ((source.results.getD []).zipIdx)[i]? = some (result, i) := by
      rw [List.getElem?_zipIdx, hresult]
      simp
    obtain ⟨entry, hentry, hverify⟩ := Py.getElem?_mapM hentries hat
    rw [verifyEntry_eq_some.mpr ⟨hok, hfiled⟩] at hverify
    rw [hentry, Except.ok.inj hverify]
  · intro hentry
    obtain ⟨⟨result, j⟩, hat, hverify⟩ := Py.mapM_getElem? hentries hentry
    rw [List.getElem?_zipIdx, Option.map_eq_some_iff] at hat
    obtain ⟨_, hresult, heq⟩ := hat
    obtain ⟨rfl, rfl⟩ := Prod.mk.inj heq
    rw [zero_add] at hverify
    obtain ⟨hok, hfiled⟩ := verifyEntry_eq_some.mp hverify
    exact ⟨_, hresult, hok, hfiled⟩

/-- What the map says of a key is the last result filed under it. -/
theorem lastWritten_eq_iff {vmap : List (Key × Bool)}
    (hvmap : verifyOkMap source.records source.results = .ok vmap) (ok : Option Bool) :
    lastWritten vmap key = ok ↔ source.LastFiled key ok := by
  obtain ⟨entries, hentries, hvmap⟩ := Py.bind_eq_ok.mp hvmap
  obtain rfl := Except.ok.inj hvmap
  have hfiled : ∀ i ok, source.FiledUnder key i ok ↔ entries[i]? = some (some (key, ok)) :=
    filedUnder_iff hentries
  have hany : ∀ (entry : Option (Key × Bool)) b, entry = some (key, b) →
      (entry.any fun w => decide (w.1 = key)) = true := by
    rintro _ b rfl
    simp
  rw [lastWritten, lastWith_reduceOption]
  cases ok with
  | none =>
      simp only [Source.LastFiled, hfiled]
      cases hlast : lastWith (fun o : Option (Key × Bool) => o.any fun w => decide (w.1 = key))
          entries with
      | none =>
        apply iff_of_true rfl
        intro i ok hentry
        have hfalse := lastWith_eq_none.mp hlast _ (List.mem_of_getElem? hentry)
        rw [hany _ ok rfl] at hfalse
        cases hfalse
      | some entry =>
        obtain ⟨hmem, hentry⟩ := lastWith_mem hlast
        obtain ⟨⟨_, b⟩, rfl, hkey⟩ := (Option.any_eq_true _ _).mp hentry
        obtain rfl := of_decide_eq_true hkey
        obtain ⟨i, hi⟩ := List.getElem?_of_mem hmem
        apply iff_of_false
        · simp
        · intro hnone
          exact hnone i b hi
  | some ok =>
      simp only [Source.LastFiled, hfiled]
      constructor
      · intro hok
        obtain ⟨⟨_, b⟩, hjoin, rfl⟩ := Option.map_eq_some_iff.mp hok
        have hlast := Option.join_eq_some_iff.mp hjoin
        obtain ⟨i, hi, hkey, hafter⟩ := lastWith_eq_some_iff_getElem?.mp hlast
        obtain rfl := of_decide_eq_true hkey
        refine ⟨i, hi, fun j ok' hj hentry => ?_⟩
        have hfalse := hafter j _ hj hentry
        rw [hany _ ok' rfl] at hfalse
        cases hfalse
      · rintro ⟨i, hi, hafter⟩
        have hlast : lastWith (fun o : Option (Key × Bool) => o.any fun w => decide (w.1 = key))
            entries = some (some (key, ok)) := by
          refine lastWith_eq_some_iff_getElem?.mpr ⟨i, hi, hany _ ok rfl, fun j entry hj hentry ↦ ?_⟩
          rw [← Bool.not_eq_true]
          intro hentry'
          obtain ⟨⟨_, b⟩, rfl, hkey⟩ := (Option.any_eq_true _ _).mp hentry'
          obtain rfl := of_decide_eq_true hkey
          exact hafter j b hj hentry
        rw [hlast]
        rfl

/-! ## The occurrences of one log -/

theorem occurrence_eq_some {log : String} {vmap : List (Key × Bool)} {record : Json}
    {o : Occurrence} (h : occurrence log vmap record = .ok (some o)) :
    idKey? record = some o.key ∧ o.capsuleId.key = .ok o.key ∧ o.log = log ∧ o.record = record ∧
      o.ok = lastWritten vmap o.key := by
  obtain ⟨id, hid, h⟩ := Py.bind_eq_ok.mp h
  cases htruthy : id.truthy with
  | false => simp [htruthy] at h
  | true =>
      simp only [htruthy, Bool.not_true, Bool.false_eq_true, if_false] at h
      obtain ⟨key, hkey, h⟩ := Py.bind_eq_ok.mp h
      obtain rfl := Option.some.inj (Except.ok.inj h)
      exact ⟨idKey?_eq_some.mpr ⟨id, hid, htruthy, hkey⟩, hkey, rfl, rfl, rfl⟩

theorem occurrence_isSome {log : String} {vmap : List (Key × Bool)} {record : Json}
    {e : Option Occurrence} (h : occurrence log vmap record = .ok e) :
    e.isSome = (idKey? record).isSome := by
  obtain ⟨id, hid, h⟩ := Py.bind_eq_ok.mp h
  cases htruthy : id.truthy with
  | false =>
      simp only [htruthy, Bool.not_false, if_true] at h
      obtain rfl := Except.ok.inj h
      simp [idKey?, hid, htruthy]
  | true =>
      simp only [htruthy, Bool.not_true, Bool.false_eq_true, if_false] at h
      obtain ⟨key, hkey, h⟩ := Py.bind_eq_ok.mp h
      obtain rfl := Except.ok.inj h
      rw [idKey?_eq_some.mpr ⟨id, hid, htruthy, hkey⟩]
      rfl

theorem occurrence_returns {log : String} {vmap : List (Key × Bool)} {record : Json} :
    (∃ e, occurrence log vmap record = .ok e) ↔ ∃ id, record.getD "capsule_id" (.str "") = .ok id ∧
      (id.truthy = true → ∃ key, id.key = .ok key) := by
  simp only [occurrence, Py.bind_eq_ok]
  rw [exists_comm]
  refine exists_congr fun id => ?_
  rw [exists_and_left]
  refine and_congr_right fun _ => ?_
  cases htruthy : id.truthy with
  | false => simp
  | true => cases id.key <;> simp

/-- The occurrences of one log, beside its records. -/
structure PageOf (source : Source) (os : List Occurrence) : Prop where
  records : os.map (fun o => (o.log, o.record)) =
    (source.records.filter fun record => (idKey? record).isSome).map fun record =>
      (source.log, record)
  idKey : ∀ o ∈ os, idKey? o.record = some o.key
  capsuleId : ∀ o ∈ os, o.capsuleId.key = .ok o.key
  ok : ∀ o ∈ os, source.LastFiled o.key o.ok

/-- The records with an id, in order. -/
theorem records_of_occurrences {log : String} {vmap : List (Key × Bool)} {records : List Json}
    {entries : List (Option Occurrence)}
    (h : List.Forall₂ (fun record e => occurrence log vmap record = .ok e) records entries) :
    entries.reduceOption.map (fun o => (o.log, o.record)) =
      (records.filter fun record => (idKey? record).isSome).map fun record => (log, record) := by
  induction h with
  | nil => rfl
  | @cons record e records entries hrecord _ ih =>
      have hsome := occurrence_isSome hrecord
      cases e with
      | none => rw [List.reduceOption_cons_of_none, ih, List.filter_cons_of_neg (by simp [← hsome])]
      | some o =>
        obtain ⟨-, -, hlog, hrec, -⟩ := occurrence_eq_some hrecord
        rw [List.reduceOption_cons_of_some, List.map_cons, ih,
          List.filter_cons_of_pos (by simp [← hsome]), List.map_cons, hlog, hrec]

theorem pageOf_sourceOccurrences {os : List Occurrence}
    (h : sourceOccurrences source = .ok os) : PageOf source os := by
  obtain ⟨vmap, hvmap, h⟩ := Py.bind_eq_ok.mp h
  obtain ⟨entries, hentries, h⟩ := Py.bind_eq_ok.mp h
  obtain rfl := Except.ok.inj h
  have hall := Py.forall₂_of_map_eq (Py.mapM_eq_ok.mp hentries)
  have heach : ∀ o ∈ entries.reduceOption, ∃ record, occurrence source.log vmap record =
      .ok (some o) := by
    intro o ho
    obtain ⟨i, hi⟩ := List.getElem?_of_mem (List.reduceOption_mem_iff.mp ho)
    obtain ⟨record, -, hrecord⟩ := Py.mapM_getElem? hentries hi
    exact ⟨record, hrecord⟩
  refine ⟨?_, fun o ho => ?_, fun o ho => ?_, fun o ho => ?_⟩
  · exact records_of_occurrences hall
  · obtain ⟨record, hrecord⟩ := heach o ho
    obtain ⟨hkey, -, -, hrec, -⟩ := occurrence_eq_some hrecord
    rw [hrec, hkey]
  · obtain ⟨record, hrecord⟩ := heach o ho
    exact (occurrence_eq_some hrecord).2.1
  · obtain ⟨record, hrecord⟩ := heach o ho
    obtain ⟨-, -, -, -, hok⟩ := occurrence_eq_some hrecord
    exact (lastWritten_eq_iff hvmap _).mp hok.symm

theorem sourceOccurrences_returns :
    (∃ os, sourceOccurrences source = .ok os) ↔ source.Readable := by
  constructor
  · rintro ⟨os, h⟩
    obtain ⟨vmap, hvmap, h⟩ := Py.bind_eq_ok.mp h
    obtain ⟨entries, hentries, -⟩ := Py.bind_eq_ok.mp h
    have hrecords : ∀ record ∈ source.records, ∃ id, record.getD "capsule_id" (.str "") = .ok id ∧
        (id.truthy = true → ∃ key, id.key = .ok key) := by
      intro record hrecord
      exact occurrence_returns.mp (Py.mapM_returns.mp ⟨entries, hentries⟩ record hrecord)
    obtain ⟨written, hwritten, -⟩ := Py.bind_eq_ok.mp hvmap
    refine ⟨hrecords, fun result hresult => ?_⟩
    obtain ⟨i, hi⟩ := List.getElem?_of_mem hresult
    have hmem : (result, i) ∈ (source.results.getD []).zipIdx := by
      rw [List.mem_zipIdx_iff_getElem?]
      exact hi
    exact (verifyEntry_returns hrecords i result).mp
      (Py.mapM_returns.mp ⟨written, hwritten⟩ _ hmem)
  · rintro ⟨hrecords, hresults⟩
    obtain ⟨written, hwritten⟩ : ∃ written, ((source.results.getD []).zipIdx.mapM fun r =>
        verifyEntry source.records r.2 r.1) = .ok written := by
      apply Py.mapM_returns.mpr
      rintro ⟨result, i⟩ hmem
      rw [List.mem_zipIdx_iff_getElem?] at hmem
      exact (verifyEntry_returns hrecords i result).mpr
        (hresults result (List.mem_of_getElem? hmem))
    obtain ⟨entries, hentries⟩ : ∃ entries, source.records.mapM
        (occurrence source.log written.reduceOption) = .ok entries := by
      apply Py.mapM_returns.mpr
      intro record hrecord
      exact occurrence_returns.mpr (hrecords record hrecord)
    refine ⟨entries.reduceOption, ?_⟩
    rw [sourceOccurrences, verifyOkMap, hwritten]
    simp only [Py.ok_bind, Py.pure_eq_ok, hentries]

namespace PageOf

variable {os : List Occurrence} (h : PageOf source os)

include h

theorem log {o : Occurrence} (ho : o ∈ os) : o.log = source.log ∧ o.record ∈ source.records := by
  have hmem : (o.log, o.record) ∈ os.map fun o => (o.log, o.record) := List.mem_map_of_mem ho
  rw [h.records] at hmem
  obtain ⟨record, hrecord, heq⟩ := List.mem_map.mp hmem
  obtain ⟨hlog, rfl⟩ := Prod.mk.inj heq
  exact ⟨hlog.symm, (List.mem_filter.mp hrecord).1⟩

theorem has_iff : source.Has key ↔ ∃ o ∈ os, o.key = key := by
  constructor
  · rintro ⟨record, hrecord, hkey⟩
    have hmem : (source.log, record) ∈ (source.records.filter fun record =>
        (idKey? record).isSome).map fun record => (source.log, record) :=
      List.mem_map_of_mem (List.mem_filter.mpr ⟨hrecord, by simp [hkey]⟩)
    rw [← h.records] at hmem
    obtain ⟨o, ho, heq⟩ := List.mem_map.mp hmem
    obtain ⟨-, rfl⟩ := Prod.mk.inj heq
    exact ⟨o, ho, Option.some.inj ((h.idKey o ho).symm.trans hkey)⟩
  · rintro ⟨o, ho, rfl⟩
    exact ⟨o.record, (h.log ho).2, h.idKey o ho⟩

theorem lastIn_eq_none {log : String} :
    lastIn key log os = none ↔ (source.log = log → ¬source.Has key) := by
  rw [lastIn, lastWith_eq_none, h.has_iff]
  constructor
  · rintro hnone rfl ⟨o, ho, rfl⟩
    have hfalse := hnone o ho
    simp [(h.log ho).1] at hfalse
  · intro hnot o ho
    rw [decide_eq_false_iff_not]
    rintro ⟨hkey, hlog⟩
    exact hnot ((h.log ho).1.symm.trans hlog) ⟨o, ho, hkey⟩

theorem lastIn_eq_some {log : String} {o : Occurrence} (hlast : lastIn key log os = some o) :
    source.log = log ∧ source.Has key ∧ source.LastFiled key o.ok := by
  obtain ⟨ho, hkey⟩ := lastWith_mem hlast
  obtain ⟨rfl, rfl⟩ := of_decide_eq_true hkey
  exact ⟨(h.log ho).1.symm, h.has_iff.mpr ⟨o, ho, rfl⟩, h.ok o ho⟩

end PageOf

end

/-! ## All logs -/

/-- A list beside one that is split is split at the same place. -/
theorem forall₂_split {α β : Type} {R : α → β → Prop} {as : List α} {before after : List β} {b : β}
    (h : List.Forall₂ R as (before ++ b :: after)) : ∃ before' a after',
      as = before' ++ a :: after' ∧ R a b ∧ List.Forall₂ R after' after := by
  induction before generalizing as with
  | nil =>
      obtain ⟨a, after', hab, hafter, rfl⟩ := List.forall₂_cons_right_iff.mp h
      exact ⟨[], a, after', rfl, hab, hafter⟩
  | cons c before ih =>
      obtain ⟨a', rest, -, hrest, rfl⟩ := List.forall₂_cons_right_iff.mp h
      obtain ⟨before', a, after', rfl, hab, hafter⟩ := ih hrest
      exact ⟨a' :: before', a, after', rfl, hab, hafter⟩

section

variable {sources : List Source} {pages : List (List Occurrence)} {key : Key}

theorem exists_beside {α β : Type} {R : α → β → Prop} {as : List α} {bs : List β}
    (h : List.Forall₂ R as bs) {b : β} (hb : b ∈ bs) : ∃ a ∈ as, R a b := by
  obtain ⟨before, after, rfl⟩ := List.append_of_mem hb
  obtain ⟨before', a, after', rfl, hab, -⟩ := forall₂_split h
  exact ⟨a, by simp, hab⟩

/-- The last occurrence in a log is one of the last log of that name. -/
theorem exists_lastIn_iff (h : List.Forall₂ PageOf sources pages) (ok : Option Bool) :
    (∃ log, (lastIn key log pages.flatten).map Occurrence.ok = some ok) ↔
      Decides sources key ok := by
  constructor
  · rintro ⟨log, hlast⟩
    obtain ⟨o, ho, rfl⟩ := Option.map_eq_some_iff.mp hlast
    obtain ⟨before, page, after, rfl, hpage, hafter⟩ := lastWith_flatten.mp ho
    obtain ⟨before', source, after', rfl, hsource, hrest⟩ := forall₂_split h
    obtain ⟨rfl, hhas, hfiled⟩ := hsource.lastIn_eq_some hpage
    refine ⟨before', source, after', rfl, hhas, fun later hlater => ?_, hfiled⟩
    obtain ⟨laterPage, hlaterPage, hof⟩ := exists_beside hrest.flip hlater
    exact hof.lastIn_eq_none.mp (hafter laterPage hlaterPage)
  · rintro ⟨before, source, after, rfl, hhas, hafter, hfiled⟩
    obtain ⟨before', page, after', rfl, hpage, hrest⟩ := forall₂_split h.flip
    cases hlast : lastIn key source.log page with
    | none => exact absurd hhas (hpage.lastIn_eq_none.mp hlast rfl)
    | some o =>
        refine ⟨source.log, ?_⟩
        have hflatten : lastIn key source.log (before' ++ page :: after').flatten = some o := by
          refine lastWith_flatten.mpr ⟨before', page, after', rfl, hlast, fun later hlater => ?_⟩
          obtain ⟨laterSource, hlaterSource, hof⟩ := exists_beside hrest.flip hlater
          exact hof.lastIn_eq_none.mpr (hafter laterSource hlaterSource)
        obtain ⟨-, -, hfiled'⟩ := hpage.lastIn_eq_some hlast
        rw [hflatten, Option.map_some, hfiled'.unique hfiled]

theorem exists_occurrence_iff (h : List.Forall₂ PageOf sources pages) {log : String} :
    (∃ o ∈ pages.flatten, o.key = key ∧ o.log = log) ↔
      ∃ source ∈ sources, source.log = log ∧ source.Has key := by
  constructor
  · rintro ⟨o, ho, rfl, rfl⟩
    obtain ⟨page, hpage, ho⟩ := List.mem_flatten.mp ho
    obtain ⟨source, hsource, hof⟩ := exists_beside h hpage
    exact ⟨source, hsource, (hof.log ho).1.symm, hof.has_iff.mpr ⟨o, ho, rfl⟩⟩
  · rintro ⟨source, hsource, rfl, hhas⟩
    obtain ⟨page, hpage, hof⟩ := exists_beside h.flip hsource
    obtain ⟨o, ho, hkey⟩ := hof.has_iff.mp hhas
    exact ⟨o, List.mem_flatten.mpr ⟨page, hpage, ho⟩, hkey, (hof.log ho).1⟩

theorem exists_decides (h : List.Forall₂ PageOf sources pages) {source : Source}
    (hsource : source ∈ sources) (hhas : source.Has key) : ∃ ok, Decides sources key ok := by
  obtain ⟨o, ho, hkey, hlog⟩ := (exists_occurrence_iff h).mpr ⟨source, hsource, rfl, hhas⟩
  obtain ⟨last, hlast⟩ : ∃ last, lastIn key source.log pages.flatten = some last :=
    lastWith_isSome ho (decide_eq_true ⟨hkey, hlog⟩)
  refine ⟨last.ok, (exists_lastIn_iff h _).mp ⟨source.log, ?_⟩⟩
  rw [hlast, Option.map_some]

end

end CapsuleMesh.Viewer
