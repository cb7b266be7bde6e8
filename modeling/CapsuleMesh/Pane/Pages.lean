import CapsuleMesh.Ledger.Store
import CapsuleMesh.Library.Grouping
import CapsuleMesh.Pane.Exchange

/-!
# The list of exchanges, page by page

The list mode of `build_pane_c_json` in `accountability_pane_routes.py`.  It groups and
verifies the records of one page at a time, so that a row says what the page knows.
-/

namespace CapsuleMesh.Pane

open Python Library Ledger Sidecar

/-! ## Pane C -/

def FORBIDDEN_RATING_KEYS : List String := ["score", "rating", "trust_level", "grade_percent"]

def SAFE_DISCLAIMER_KEYS : List String := ["not_a_score"]

/-- A key that could hold a rating. -/
def looksLikeRating (key : String) : Bool :=
  FORBIDDEN_RATING_KEYS.any fun forbidden =>
    key.toLower.toList.tails.any forbidden.toList.isPrefixOf

mutual

/-- No member at any depth is named like a rating. -/
def ratingFree : Json → Bool
  | .arr elems => ratingFreeElems elems
  | .obj members => ratingFreeMembers members
  | _ => true

def ratingFreeElems : List Json → Bool
  | [] => true
  | elem :: elems => ratingFree elem && ratingFreeElems elems

def ratingFreeMembers : List (String × Json) → Bool
  | [] => true
  | (key, value) :: members =>
      (decide (key ∈ SAFE_DISCLAIMER_KEYS) || (!looksLikeRating key && ratingFree value)) &&
        ratingFreeMembers members

end

/-- The values of a row that are taken from records as they are. -/
def IdentityChain.values (chain : IdentityChain) : List Json :=
  [chain.nodeId, chain.ownerStatus, chain.ownerId, chain.identityCapsuleId, chain.ownerCertRef,
    chain.identityLimitation]

def ExchangeView.values (view : ExchangeView) : List Json :=
  view.exchangeId :: (view.thisHalf.values ++ (view.counterpart.map IdentityChain.values).getD [] ++
    view.digestMatch.fields.flatMap fun field => [field.2.a, field.2.b])

def ExchangeRow.ratingFree (row : ExchangeRow) : Bool :=
  ((row.view.map ExchangeView.values).getD []).all Pane.ratingFree

/-- `build_exchange_list_payload` over a node's own records, with the assertion that no
rating goes out. -/
def listRows (verifier : Verifier) (records : List Json) : Py (List ExchangeRow) := do
  let rows ← groupExchanges verifier verifier records [] .sidecar
  if rows.all ExchangeRow.ratingFree then return rows
  else throw (.valueError "looks like a rating field")

structure ListPayload where
  rows : List ExchangeRow
  archivedSegments : List ArchivedSegment
  nextAfterSeq : Option ℕ

def DEFAULT_PANE_C_PAGE_LIMIT : ℕ := 200

/-- `build_pane_c_json` without an exchange id. -/
def buildPaneCJson (verifier : Verifier) (dir : LedgerDir) (limit : Option ℕ) (after : ℕ) :
    Py ListPayload := do
  let (records, archived, next) ←
    dir.readCapsulesPage (some (limit.getD DEFAULT_PANE_C_PAGE_LIMIT)) after
  let rows ← listRows verifier records
  return ⟨rows, archived, next⟩

/-- The rows of the pages from a cursor on, at most `fuel` of them. -/
def followPages (verifier : Verifier) (dir : LedgerDir) (limit : ℕ) : ℕ → ℕ → Py (List ExchangeRow)
  | 0, _ => .ok []
  | fuel + 1, after => do
      let payload ← buildPaneCJson verifier dir (some limit) after
      match payload.nextAfterSeq with
      | none => return payload.rows
      | some next => do
        let rows ← followPages verifier dir limit fuel next
        return payload.rows ++ rows

/-- The unpaged list. -/
def allRows (verifier : Verifier) (dir : LedgerDir) : Py (List ExchangeRow) := do
  let (records, _) ← dir.readAllCapsules
  listRows verifier records

/-! ## The rows of some records -/

/-- The key of a record that has been read. -/
def keyOf (record : Json) : Option String := (exchangeKeyFor record).toOption.join

def hasId (record : Json) : Bool := (capsuleIdOf record).any (· ≠ "")

/-- The row of one exchange among these records. -/
def exchangeRow (verifier : Verifier) (records : List Json) (key : String) : Py ExchangeRow :=
  let group := groupIn keyOf records key
  buildExchangeRow key (group.filter hasId) (group.filter (!hasId ·)) group .sidecar
    (buildVerifyMap verifier records)

/-- What the grouping reads of a record, once it has been read. -/
def entryOf (record : Json) : Entry := ⟨keyOf record, capsuleIdOf record, record⟩

theorem capsuleId_eq_ok {record : Json} {id : Option String} (h : capsuleId record = .ok id) :
    id = capsuleIdOf record := by
  cases record with
  | obj members =>
      simp only [capsuleId, Json.get, Json.getD, Py.ok_bind] at h
      cases hlookup : members.lookup "capsule_id" with
      | none =>
        simp only [hlookup, Option.getD_none] at h
        obtain rfl := Except.ok.inj h
        simp [capsuleIdOf, hlookup]
      | some value =>
        simp only [hlookup, Option.getD_some] at h
        cases value with
        | null =>
          obtain rfl := Except.ok.inj h
          simp [capsuleIdOf, hlookup, Json.str?]
        | str s =>
          obtain rfl := Except.ok.inj h
          simp [capsuleIdOf, hlookup, Json.str?]
        | _ => cases h
  | _ => cases h

theorem readEntry_eq_ok {record : Json} {e : Entry} (h : readEntry record = .ok e) :
    e = entryOf record := by
  simp only [readEntry, Py.bind_eq_ok] at h
  obtain ⟨key, hkey, id, hid, he⟩ := h
  obtain rfl := Except.ok.inj he
  have hkeyOf : keyOf record = key := by simp [keyOf, hkey, Except.toOption]
  rw [entryOf, hkeyOf, capsuleId_eq_ok hid]

/-- Every record can be read. -/
def Readable (records : List Json) : Prop := ∃ es, records.mapM readEntry = .ok es

theorem Readable.mapM_eq {records : List Json} (h : Readable records) :
    records.mapM readEntry = .ok (records.map entryOf) := by
  obtain ⟨es, hes⟩ := h
  rw [hes, Py.mapM_ok_eq_map (fun _ _ => readEntry_eq_ok) hes]

variable {verifier : Verifier} {records : List Json}

theorem keysOf_map_entryOf (records : List Json) :
    keysOf (records.map entryOf) = keysIn keyOf records := by
  rw [keysOf, keysIn, List.filterMap_map]
  rfl

theorem ownIds_any {record : Json} (h : record ∈ records) :
    ((entryOf record).id.any fun id ↦ decide (id ∈ ownIds (records.map entryOf))) = hasId record := by
  simp only [entryOf, hasId]
  cases hid : capsuleIdOf record with
  | none => rfl
  | some id =>
      have hmem : id ∈ (records.map entryOf).filterMap Entry.id := by
        rw [List.filterMap_map, List.mem_filterMap]
        exact ⟨record, h, hid⟩
      simp only [Option.any_some, ownIds, List.mem_filter, hmem, true_and, decide_eq_true_eq]

theorem rowFor_eq_exchangeRow (key : String) :
    rowFor .sidecar (buildVerifyMap verifier records) (ownIds (records.map entryOf))
      (records.map entryOf) key = exchangeRow verifier records key := by
  have hgroup : groupOf (records.map entryOf) key = (groupIn keyOf records key).map entryOf := by
    rw [groupOf, groupIn, List.filter_map]
    rfl
  have hids : ∀ record ∈ groupIn keyOf records key,
      ((entryOf record).id.any fun id => decide (id ∈ ownIds (records.map entryOf))) =
        hasId record := fun record hrecord => ownIds_any (List.mem_of_mem_filter hrecord)
  have hmine : ((groupIn keyOf records key).map entryOf).filter (fun e =>
      e.id.any fun id => decide (id ∈ ownIds (records.map entryOf))) =
      ((groupIn keyOf records key).filter hasId).map entryOf := by
    rw [List.filter_map]
    exact congrArg _ (List.filter_congr hids)
  have htheirs : ((groupIn keyOf records key).map entryOf).filter (fun e =>
      !e.id.any fun id => decide (id ∈ ownIds (records.map entryOf))) =
      ((groupIn keyOf records key).filter (!hasId ·)).map entryOf := by
    rw [List.filter_map]
    exact congrArg _ (List.filter_congr fun record hrecord => congrArg _ (hids record hrecord))
  have hrecord : ∀ rs : List Json, (rs.map entryOf).map Entry.record = rs := by
    intro rs
    simp [Function.comp_def, entryOf]
  simp only [rowFor, exchangeRow, hgroup, hmine, htheirs, hrecord]

theorem listRows_eq_ok {rows : List ExchangeRow} :
    listRows verifier records = .ok rows ↔
      Readable records ∧ ∃ unsorted,
        (keysIn keyOf records).map (exchangeRow verifier records) = unsorted.map .ok ∧
        rows = sortRows unsorted ∧ rows.all ExchangeRow.ratingFree = true := by
  have hmap : buildVerifyMap verifier records ++ buildVerifyMap verifier [] =
      buildVerifyMap verifier records := List.append_nil _
  have hrow : rowFor .sidecar (buildVerifyMap verifier records) (ownIds (records.map entryOf))
      (records.map entryOf) = exchangeRow verifier records :=
    funext rowFor_eq_exchangeRow
  simp only [listRows, groupExchanges, Py.bind_eq_ok, hmap]
  constructor
  · rintro ⟨sorted, ⟨mine, hmine, theirs, htheirs, unsorted, hunsorted, hsorted⟩, hfree⟩
    have hreadable : Readable records := ⟨mine, hmine⟩
    obtain rfl := Except.ok.inj (hmine.symm.trans hreadable.mapM_eq)
    obtain rfl : theirs = [] := (Except.ok.inj htheirs).symm
    obtain rfl := Except.ok.inj hsorted
    rw [List.append_nil, keysOf_map_entryOf, hrow, Py.mapM_eq_ok] at hunsorted
    split at hfree
    · obtain rfl := Except.ok.inj hfree
      exact ⟨hreadable, unsorted, hunsorted, rfl, ‹_›⟩
    · cases hfree
  · rintro ⟨hreadable, unsorted, hunsorted, rfl, hfree⟩
    refine ⟨sortRows unsorted, ⟨records.map entryOf, hreadable.mapM_eq, [], rfl, unsorted, ?_, rfl⟩, ?_⟩
    · rw [List.append_nil, keysOf_map_entryOf, hrow, Py.mapM_eq_ok]
      exact hunsorted
    · rw [if_pos hfree]
      rfl

/-! ## Following the pages -/

section Follow

variable (verifier : Verifier) (dir : LedgerDir)

theorem allRows_eq : allRows verifier dir = listRows verifier (dir.readable.map Prod.snd) := by
  have hread := dir.readAllCapsules_eq
  rw [allRows, hread]
  rfl

theorem followPages_eq {limit : ℕ} (hlimit : 0 < limit) (fuel after : ℕ) :
    followPages verifier dir limit fuel after = (do
      let rows ← (follow (pageAfter dir.readable limit) fuel after).mapM (listRows verifier)
      return rows.flatten) := by
  induction fuel generalizing after with
  | zero => rfl
  | succ fuel ih =>
      have hpage := dir.readCapsulesPage_eq hlimit after
      rw [followPages, Library.follow, buildPaneCJson, Option.getD_some, hpage]
      obtain ⟨records, next⟩ := pageAfter dir.readable limit after
      simp only [Py.ok_bind]
      cases hrows : listRows verifier records with
      | error e => cases next <;> simp [hrows]
      | ok rows =>
        cases next with
        | none => simp [hrows]
        | some next => simp [hrows, ih]

/-- The rows of all pages are those of the blocks of the ledger. -/
theorem followPages_eq_ok {limit : ℕ} (hlimit : 0 < limit) {fuel : ℕ}
    (hfuel : dir.readable.length < fuel) {rows : List ExchangeRow} :
    followPages verifier dir limit fuel 0 = .ok rows ↔
      ∃ rowss : List (List ExchangeRow),
        (blocks limit (dir.readable.map Prod.snd)).map (listRows verifier) = rowss.map .ok ∧
        rows = rowss.flatten := by
  have hall : dir.readable.filter (fun r ↦ decide (0 < r.1)) = dir.readable := dir.readable_later_zero
  rw [followPages_eq verifier dir hlimit,
    follow_pageAfter dir.readable_pairwise hlimit (by rw [hall]; exact hfuel), hall, Py.bind_eq_ok]
  constructor
  · rintro ⟨rowss, hrowss, hrows⟩
    exact ⟨rowss, Py.mapM_eq_ok.mp hrowss, (Except.ok.inj hrows).symm⟩
  · rintro ⟨rowss, hrowss, rfl⟩
    exact ⟨rowss, Py.mapM_eq_ok.mpr hrowss, rfl⟩

end Follow

/-! ## What a row takes from the other records -/

theorem lookup_verifyEntries (f : Json → VerificationResult) (records : List Json) (id : String) :
    (records.filterMap fun r => verifyEntry r (f r)).lookup id =
      if id = "" then none
      else (records.find? fun r => decide (capsuleIdOf r = some id)).map f := by
  induction records with
  | nil => simp
  | cons r records ih =>
      by_cases hid : hasId r = true
      · obtain ⟨id', hid', hne⟩ : ∃ id', capsuleIdOf r = some id' ∧ id' ≠ "" := by
          simpa [hasId, Option.any_eq_true] using hid
        have hentry : verifyEntry r (f r) = some (id', f r) := by simp [verifyEntry, hid', hne]
        rw [List.filterMap_cons, hentry, List.lookup_cons, ih]
        by_cases hsame : id = id'
        · subst hsame
          simp [hid', hne]
        · have hbeq : (id == id') = false := by simpa using hsame
          have hother : ¬ capsuleIdOf r = some id := by simpa [hid'] using fun h => hsame h.symm
          simp [hbeq, hother]
      · have hentry : verifyEntry r (f r) = none := by
          cases hid' : capsuleIdOf r <;> simp_all [verifyEntry, hasId]
        rw [List.filterMap_cons, hentry, ih]
        by_cases hempty : id = ""
        · simp [hempty]
        · have hother : ¬ capsuleIdOf r = some id := by
            rintro hid'
            simp [hasId, hid', hempty] at hid
          simp [hempty, hother]

/-- Under an id stands the last record that has it. -/
theorem get_buildVerifyMap (verifier : Verifier) (records : List Json) (id : String) :
    (buildVerifyMap verifier records).get id =
      if id = "" then none
      else ((records.filter fun r => decide (capsuleIdOf r = some id)).getLast?).map
        (verifyOne verifier records) := by
  have hzip : buildVerifyMap verifier records =
      records.filterMap fun r => verifyEntry r (verifyOne verifier records r) := by
    rw [buildVerifyMap, verifyResultsFor, ← List.map_prod_left_eq_zip, List.filterMap_map]
    rfl
  rw [VerifyMap.get, hzip, ← List.filterMap_reverse, lookup_verifyEntries, ← List.head?_filter,
    List.filter_reverse, List.head?_reverse]

theorem buildExchangeView_congr {record : Json} {verifyMap verifyMap' : VerifyMap}
    (h : (capsuleIdOf record).bind verifyMap.get = (capsuleIdOf record).bind verifyMap'.get)
    (group : List Json) (source : SourceLog) (witness : Bool) :
    buildExchangeView record group source verifyMap witness =
      buildExchangeView record group source verifyMap' witness := by
  unfold buildExchangeView
  cases hid : capsuleId record with
  | error e => simp only [Py.error_bind]
  | ok id =>
      obtain rfl := capsuleId_eq_ok hid
      simp only [Py.ok_bind, h]

/-- The first record with an id of some exchange among these records. -/
def Heads (records : List Json) (key : String) (record : Json) : Prop :=
  ((groupIn keyOf records key).filter hasId).head? = some record

/-- A row depends on the records outside its group only through the verification of the
record at its head. -/
theorem exchangeRow_congr {records records' : List Json} {key : String}
    (hgroup : groupIn keyOf records key = groupIn keyOf records' key)
    (hhead : ∀ record, Heads records' key record → ∀ id, capsuleIdOf record = some id →
      (buildVerifyMap verifier records).get id = (buildVerifyMap verifier records').get id) :
    exchangeRow verifier records key = exchangeRow verifier records' key := by
  have hview : ∀ group anchor,
      anchor = ((groupIn keyOf records' key).filter hasId).head?.or
        ((groupIn keyOf records' key).filter (!hasId ·)).head? →
      viewOf group .sidecar (buildVerifyMap verifier records) anchor =
        viewOf group .sidecar (buildVerifyMap verifier records') anchor := by
    rintro group anchor hanchor
    cases anchor with
    | none => rfl
    | some anchor =>
        rw [viewOf, viewOf]
        refine congrArg (· >>= fun view => pure (some view)) (buildExchangeView_congr ?_ _ _ _)
        cases hmine : ((groupIn keyOf records' key).filter hasId).head? with
        | some r =>
          rw [hmine] at hanchor
          obtain rfl : anchor = r := by simpa using hanchor
          cases hid : capsuleIdOf anchor with
          | none => rfl
          | some id => exact hhead anchor hmine id hid
        | none =>
          rw [hmine] at hanchor
          have hmem : anchor ∈ (groupIn keyOf records' key).filter (!hasId ·) :=
            List.mem_of_head? (by simpa using hanchor.symm)
          have hno : hasId anchor = false := by simpa using (List.mem_filter.mp hmem).2
          cases hid : capsuleIdOf anchor with
          | none => rfl
          | some id =>
            have hempty : id = "" := by simpa [hasId, hid] using hno
            simp [get_buildVerifyMap, hempty]
  simp only [exchangeRow, hgroup, buildExchangeRow]
  rw [hview _ _ rfl]

/-! ## When paging shows the same rows -/

/-- The pages are blocks of `limit` records.  No exchange, and no capsule id of a record
in an exchange, stands on two of them; and the record at the head of an exchange has
its chain parent on its own page, if the ledger has it at all. -/
structure OnOnePage (limit : ℕ) (records : List Json) : Prop where
  exchanges : Separate keyOf (blocks limit records)
  ids : (blocks limit records).Pairwise fun page page' => ∀ r ∈ page, ∀ s ∈ page',
    ∀ id, capsuleIdOf r = some id → capsuleIdOf s = some id → keyOf r = none ∧ keyOf s = none
  parents : ∀ page ∈ blocks limit records, ∀ key r, Heads page key r →
    ∀ s ∈ page, capsuleIdOf s = capsuleIdOf r →
      parentPresent records s = true → parentPresent page s = true

/-- An id stands for one record, as a digest of its content does. -/
def ContentAddressed (records : List Json) : Prop :=
  ∀ r ∈ records, ∀ s ∈ records, ∀ id, capsuleIdOf r = some id → capsuleIdOf s = some id → r = s

theorem Heads.mem {key : String} {r : Json} (h : Heads records key r) :
    r ∈ records ∧ keyOf r = some key ∧ hasId r = true := by
  have hmem := List.mem_filter.mp (List.mem_of_head? h)
  have hgroup := List.mem_filter.mp hmem.1
  exact ⟨hgroup.1, by simpa using hgroup.2, hmem.2⟩

theorem parentPresent_of_page {page : List Json} (hpage : ∀ r ∈ page, r ∈ records) {s : Json}
    (h : parentPresent page s = true) : parentPresent records s = true := by
  unfold parentPresent at *
  split at h
  · rfl
  · obtain ⟨r, hr, hid⟩ := List.any_eq_true.mp h
    exact List.any_eq_true.mpr ⟨r, hpage r hr, hid⟩

section Pages

variable {limit : ℕ}

/-- On a page of its own an exchange has the row of the whole list. -/
theorem OnOnePage.exchangeRow_eq (h : OnOnePage limit records) {page : List Json}
    (hpage : page ∈ blocks limit records) {key : String} (hkey : key ∈ keysIn keyOf page) :
    exchangeRow verifier records key = exchangeRow verifier page key := by
  obtain ⟨before, after, hblocks⟩ := List.append_of_mem hpage
  have hflat : (before ++ page :: after).flatten = records := by
    rw [← hblocks, flatten_blocks]
  have hexchanges := h.exchanges
  have hids := h.ids
  rw [hblocks] at hexchanges hids
  have hgroup := hexchanges.group_eq hkey
  rw [hflat] at hgroup
  refine exchangeRow_congr hgroup fun r hr id hid => ?_
  obtain ⟨hrpage, hrkey, -⟩ := hr.mem
  -- Every record with this id stands on the page.
  obtain ⟨hbefore, hafter⟩ := pairwise_around
    (fun _ _ hR r hr s hs id hid hid' => (hR s hs r hr id hid' hid).symm) hids
  have hother : ∀ page' ∈ before ++ after, ∀ s ∈ page',
      decide (capsuleIdOf s = some id) = false := by
    intro page' hpage' s hs
    rw [decide_eq_false_iff_not]
    intro hsid
    have hnone : keyOf r = none := by
      rcases List.mem_append.mp hpage' with hpage' | hpage'
      · exact (hbefore page' hpage' r hrpage s hs id hid hsid).1
      · exact (hafter page' hpage' r hrpage s hs id hid hsid).1
    simp [hrkey] at hnone
  have hfilter := filter_flatten_of_page page
    (fun page' hpage' => hother page' (List.mem_append_left _ hpage'))
    (fun page' hpage' => hother page' (List.mem_append_right _ hpage'))
  rw [hflat] at hfilter
  rw [get_buildVerifyMap, get_buildVerifyMap, hfilter]
  by_cases hempty : id = ""
  · rw [if_pos hempty, if_pos hempty]
  · rw [if_neg hempty, if_neg hempty]
    cases hlast : (page.filter fun s => decide (capsuleIdOf s = some id)).getLast? with
    | none => rfl
    | some s =>
        have hs := List.mem_filter.mp (List.mem_of_getLast? hlast)
        have hsid : capsuleIdOf s = some id := by simpa using hs.2
        have hsub : ∀ r ∈ page, r ∈ records := by
          intro r hr
          rw [← hflat]
          exact List.mem_flatten.mpr ⟨page, by simp, hr⟩
        have hpresent : parentPresent records s = parentPresent page s := by
          rw [Bool.eq_iff_iff]
          exact ⟨h.parents page hpage key r hr s hs.1 (hsid.trans hid.symm),
            parentPresent_of_page hsub⟩
        simp only [Option.map_some, verifyOne, hpresent]

theorem readable_iff : Readable records ↔ ∀ r ∈ records, ∃ e, readEntry r = .ok e := by
  constructor
  · rintro ⟨es, hes⟩ r hr
    have hmem : readEntry r ∈ es.map .ok := by
      rw [← Py.mapM_eq_ok.mp hes]
      exact List.mem_map_of_mem hr
    obtain ⟨e, -, he⟩ := List.mem_map.mp hmem
    exact ⟨e, he.symm⟩
  · intro h
    obtain ⟨es, hes, -⟩ := Py.exists_map_eq_ok (R := fun _ _ => True) fun r hr =>
      (h r hr).imp fun e he => ⟨he, trivial⟩
    exact ⟨es, Py.mapM_eq_ok.mpr hes⟩

theorem sortRows_perm (rows : List ExchangeRow) : (sortRows rows).Perm rows :=
  List.perm_insertionSort _ _

theorem okRow_injective : Function.Injective (Except.ok : ExchangeRow → Py ExchangeRow) :=
  fun _ _ h => Except.ok.inj h

/-- The rows of a list, up to their order. -/
theorem listRows_perm {rows : List ExchangeRow} (h : listRows verifier records = .ok rows) :
    (rows.map .ok).Perm ((keysIn keyOf records).map (exchangeRow verifier records)) := by
  obtain ⟨-, unsorted, hunsorted, rfl, -⟩ := listRows_eq_ok.mp h
  rw [hunsorted]
  exact (sortRows_perm unsorted).map _

/-- Such a page gives its rows of the whole list. -/
theorem OnOnePage.listRows_page (h : OnOnePage limit records) {rows : List ExchangeRow}
    (hrows : listRows verifier records = .ok rows) {page : List Json}
    (hpage : page ∈ blocks limit records) :
    ∃ pageRows, listRows verifier page = .ok pageRows ∧
      (pageRows.map .ok).Perm ((keysIn keyOf page).map (exchangeRow verifier records)) := by
  have hsub : ∀ r ∈ page, r ∈ records := by
    intro r hr
    rw [← flatten_blocks limit records]
    exact List.mem_flatten.mpr ⟨page, hpage, hr⟩
  obtain ⟨hreadable, unsorted, hunsorted, hsorted, hfree⟩ := listRows_eq_ok.mp hrows
  have hsame : (keysIn keyOf page).map (exchangeRow verifier page) =
      (keysIn keyOf page).map (exchangeRow verifier records) :=
    List.map_congr_left fun key hkey => (h.exchangeRow_eq hpage hkey).symm
  -- Each of its rows is a row of the whole list.
  have hall : ∀ key ∈ keysIn keyOf page,
      ∃ row, exchangeRow verifier records key = .ok row ∧ row ∈ unsorted := by
    intro key hkey
    obtain ⟨r, hr, hkeyOf⟩ := mem_keysIn.mp hkey
    have hmem : exchangeRow verifier records key ∈ unsorted.map .ok := by
      rw [← hunsorted]
      exact List.mem_map_of_mem (mem_keysIn.mpr ⟨r, hsub r hr, hkeyOf⟩)
    obtain ⟨row, hrow, hok⟩ := List.mem_map.mp hmem
    exact ⟨row, hok.symm, hrow⟩
  obtain ⟨pageRows, hpageRows, -⟩ := Py.exists_map_eq_ok hall
  refine ⟨sortRows pageRows, listRows_eq_ok.mpr ⟨?_, pageRows, hsame.trans hpageRows, rfl, ?_⟩, ?_⟩
  · exact readable_iff.mpr fun r hr => readable_iff.mp hreadable r (hsub r hr)
  · refine List.all_eq_true.mpr fun row hrow => List.all_eq_true.mp hfree row ?_
    have hok : Except.ok row ∈ (keysIn keyOf page).map (exchangeRow verifier records) := by
      rw [hpageRows]
      exact List.mem_map_of_mem ((sortRows_perm pageRows).mem_iff.mp hrow)
    obtain ⟨key, hkey, hrow'⟩ := List.mem_map.mp hok
    obtain ⟨row', hrow'', hmem⟩ := hall key hkey
    obtain rfl := Except.ok.inj (hrow'.symm.trans hrow'')
    rw [hsorted]
    exact (sortRows_perm unsorted).mem_iff.mpr hmem
  · rw [hpageRows]
    exact (sortRows_perm pageRows).map _

theorem OnOnePage.rows_perm (h : OnOnePage limit records) {rows : List ExchangeRow}
    (hrows : listRows verifier records = .ok rows) :
    ∃ rowss : List (List ExchangeRow),
      (blocks limit records).map (listRows verifier) = rowss.map .ok ∧ rowss.flatten.Perm rows := by
  obtain ⟨rowss, hrowss, hperm⟩ := Py.exists_map_eq_ok
    fun page (hpage : page ∈ blocks limit records) => h.listRows_page hrows hpage
  have hkeys := h.exchanges.keys_perm
  rw [flatten_blocks] at hkeys
  have hpages := perm_flatMap_of_forall₂ hperm
  rw [← List.map_flatMap] at hpages
  refine ⟨rowss, hrowss, (List.map_perm_map_iff okRow_injective).mp ?_⟩
  exact hpages.trans ((hkeys.map _).trans (listRows_perm hrows).symm)

/-! ### What the rows give away -/

theorem exchangeRow_key {key : String} {row : ExchangeRow}
    (h : exchangeRow verifier records key = .ok row) : row.exchangeKey = key := by
  simp only [exchangeRow, buildExchangeRow, Py.bind_eq_ok] at h
  obtain ⟨view, -, tag, -, mine, -, theirs, -, mineTime, -, theirsTime, -, hrow⟩ := h
  obtain rfl := Except.ok.inj hrow
  rfl

theorem listRows_keys_perm {rows : List ExchangeRow} (h : listRows verifier records = .ok rows) :
    (rows.map ExchangeRow.exchangeKey).Perm (keysIn keyOf records) := by
  obtain ⟨-, unsorted, hunsorted, rfl, -⟩ := listRows_eq_ok.mp h
  refine ((sortRows_perm unsorted).map _).trans (List.Perm.of_eq ?_)
  have hall := Py.forall₂_of_map_eq hunsorted
  generalize keysIn keyOf records = keys at hall
  clear hunsorted h
  induction hall with
  | nil => rfl
  | cons hrow _ ih => rw [List.map_cons, exchangeRow_key hrow, ih]

/-- Rows that agree as a set leave no exchange on two pages. -/
theorem separate_of_rows_perm {rows : List ExchangeRow} {rowss : List (List ExchangeRow)}
    (hrows : listRows verifier records = .ok rows)
    (hrowss : (blocks limit records).map (listRows verifier) = rowss.map .ok)
    (hperm : rowss.flatten.Perm rows) : Separate keyOf (blocks limit records) := by
  have hpages : List.Forall₂ (fun page rows =>
      (rows.map ExchangeRow.exchangeKey).Perm (keysIn keyOf page)) (blocks limit records) rowss :=
    (Py.forall₂_of_map_eq hrowss).imp fun _ _ h => listRows_keys_perm h
  have hkeys := (perm_flatMap_of_forall₂ hpages).symm.trans
    ((hperm.map _).trans (listRows_keys_perm hrows))
  exact separate_iff_nodup.mpr (hkeys.nodup_iff.mpr (nodup_keysIn records))

theorem buildExchangeView_continuity {record : Json} {group : List Json} {source : SourceLog}
    {verifyMap : VerifyMap} {witness : Bool} {view : ExchangeView}
    (h : buildExchangeView record group source verifyMap witness = .ok view) :
    view.properties.continuity = continuityChip ((capsuleIdOf record).bind verifyMap.get) := by
  simp only [buildExchangeView, Py.bind_eq_ok] at h
  obtain ⟨id, hid, exchangeId, -, found, -, withRecord, -, halves, -, role, -, counterpart, -,
    provenance, -, named, -, digest, -, properties, hproperties, position, -, requesterHalf, -,
    providerHalf, -, thisHalf, -, theirHalf, -, hview⟩ := h
  obtain rfl := Except.ok.inj hview
  rw [← capsuleId_eq_ok hid]
  simp only [buildAssuranceMap, Py.bind_eq_ok] at hproperties
  obtain ⟨chain, -, identity, -, effect, -, requestDigest, -, responseDigest, -, hmap⟩ := hproperties
  obtain rfl := Except.ok.inj hmap
  rfl

/-- The continuity chip of a row is that of the record at its head. -/
theorem exchangeRow_continuity {key : String} {r : Json} (hhead : Heads records key r)
    {row : ExchangeRow} (h : exchangeRow verifier records key = .ok row) :
    row.properties.map AssuranceMap.continuity =
      some (continuityChip ((capsuleIdOf r).bind (buildVerifyMap verifier records).get)) := by
  have hhead : ((groupIn keyOf records key).filter hasId).head? = some r := hhead
  simp only [exchangeRow, buildExchangeRow, Py.bind_eq_ok, hhead, Option.some_or, viewOf] at h
  obtain ⟨view, ⟨view', hview', hview⟩, tag, -, mine, -, theirs, -, mineTime, -, theirsTime, -,
    hrow⟩ := h
  obtain rfl := Except.ok.inj hrow
  obtain rfl := Except.ok.inj hview
  exact congrArg some (buildExchangeView_continuity hview')

theorem missing_mem_verifyOne (verifier : Verifier) (records : List Json) (record : Json) :
    .chainParentMissing ∈ (verifyOne verifier records record).codes ↔
      parentPresent records record = false := by
  rw [← verifier.missing record]
  unfold verifyOne checkSignature
  split
  · split_ifs <;> simp [VerificationResult.withError]
  · rfl

theorem malformed_mem_verifyOne {record : Json}
    (h : .chainParentMalformed ∈ (verifyOne verifier records record).codes) :
    parentOf record = none := by
  refine verifier.malformed record (parentPresent records record) ?_
  unfold verifyOne checkSignature at h
  split at h
  · split_ifs at h <;> simpa [VerificationResult.withError] using h
  · exact h

/-- A record with a chain parent fails its continuity exactly when the records at hand
lack the parent. -/
theorem continuityChip_verifyOne (verifier : Verifier) {record : Json}
    (hparent : parentOf record ≠ none) :
    (continuityChip (some (verifyOne verifier records record))).state = .fail ↔
      parentPresent records record = false := by
  rw [← missing_mem_verifyOne verifier, continuityChip, verifiedChip]
  have hcodes : ((verifyOne verifier records record).codes.any fun code =>
      decide (code ∈ [FindingCode.chainParentMalformed, .chainParentMissing])) = true ↔
      .chainParentMissing ∈ (verifyOne verifier records record).codes := by
    rw [List.any_eq_true]
    constructor
    · rintro ⟨code, hcode, hmem⟩
      rcases List.mem_cons.mp (of_decide_eq_true hmem) with rfl | hmem
      · exact absurd (malformed_mem_verifyOne hcode) hparent
      · obtain rfl := List.mem_singleton.mp hmem
        exact hcode
    · intro hmem
      exact ⟨_, hmem, by simp⟩
  rw [← hcodes]
  split_ifs with hany
  · exact iff_of_true rfl hany
  · exact iff_of_false (by simp) hany

/-- Where ids are digests, the entry under the id of a record is its own. -/
theorem ContentAddressed.get_buildVerifyMap (hids : ContentAddressed records) {r : Json}
    (hr : r ∈ records) (hid : hasId r = true) :
    (capsuleIdOf r).bind (buildVerifyMap verifier records).get =
      some (verifyOne verifier records r) := by
  obtain ⟨id, hid', hne⟩ : ∃ id, capsuleIdOf r = some id ∧ id ≠ "" := by
    simpa [hasId, Option.any_eq_true] using hid
  have hmem : r ∈ records.filter fun s => decide (capsuleIdOf s = some id) :=
    List.mem_filter.mpr ⟨hr, by simpa using hid'⟩
  obtain ⟨s, hlast⟩ := Option.isSome_iff_exists.mp
    (List.getLast?_isSome.mpr (List.ne_nil_of_mem hmem))
  have hs := List.mem_filter.mp (List.mem_of_getLast? hlast)
  obtain rfl := hids r hr s hs.1 id hid' (by simpa using hs.2)
  rw [hid', Option.bind_some, Pane.get_buildVerifyMap, if_neg hne, hlast, Option.map_some]

theorem exists_row {rows : List ExchangeRow} (h : listRows verifier records = .ok rows)
    {key : String} (hkey : key ∈ keysIn keyOf records) :
    ∃ row ∈ rows, exchangeRow verifier records key = .ok row := by
  have hmem : exchangeRow verifier records key ∈ rows.map .ok :=
    (listRows_perm h).mem_iff.mpr (List.mem_map_of_mem hkey)
  obtain ⟨row, hrow, hok⟩ := List.mem_map.mp hmem
  exact ⟨row, hrow, hok.symm⟩

theorem mem_of_mem_block {page : List Json} (hpage : page ∈ blocks limit records) {r : Json}
    (hr : r ∈ page) : r ∈ records := by
  rw [← flatten_blocks limit records]
  exact List.mem_flatten.mpr ⟨page, hpage, hr⟩

/-- On a page and in the whole list an exchange has the same record at its head. -/
theorem Heads.of_page (hseparate : Separate keyOf (blocks limit records)) {page : List Json}
    (hpage : page ∈ blocks limit records) {key : String} {r : Json} (h : Heads page key r) :
    Heads records key r := by
  obtain ⟨hr, hkey, -⟩ := h.mem
  obtain ⟨before, after, hblocks⟩ := List.append_of_mem hpage
  rw [hblocks] at hseparate
  have hgroup := hseparate.group_eq (mem_keysIn.mpr ⟨r, hr, hkey⟩)
  rw [← hblocks, flatten_blocks] at hgroup
  rw [Heads, hgroup]
  exact h

/-- Rows that agree as a set show one row for an exchange, on its page and in the whole
list. -/
theorem row_of_page {rows : List ExchangeRow} {rowss : List (List ExchangeRow)}
    (hrows : listRows verifier records = .ok rows)
    (hrowss : (blocks limit records).map (listRows verifier) = rowss.map .ok)
    (hperm : rowss.flatten.Perm rows) {page : List Json} (hpage : page ∈ blocks limit records)
    {key : String} (hkey : key ∈ keysIn keyOf page) :
    ∃ row, exchangeRow verifier page key = .ok row ∧ exchangeRow verifier records key = .ok row := by
  obtain ⟨r, hr, hrkey⟩ := mem_keysIn.mp hkey
  have hmem : listRows verifier page ∈ rowss.map .ok := by
    rw [← hrowss]
    exact List.mem_map_of_mem hpage
  obtain ⟨pageRows, hpageRows, hpageOk⟩ := List.mem_map.mp hmem
  obtain ⟨row, hrow, hrowOk⟩ := exists_row hpageOk.symm hkey
  obtain ⟨row', hrow', hrowOk'⟩ :=
    exists_row hrows (mem_keysIn.mpr ⟨r, mem_of_mem_block hpage hr, hrkey⟩)
  have hshown : row ∈ rows := hperm.mem_iff.mp (List.mem_flatten.mpr ⟨pageRows, hpageRows, hrow⟩)
  have hnodup : (rows.map ExchangeRow.exchangeKey).Nodup :=
    (listRows_keys_perm hrows).nodup_iff.mpr (nodup_keysIn records)
  obtain rfl := List.inj_on_of_nodup_map hnodup hshown hrow'
    ((exchangeRow_key hrowOk).trans (exchangeRow_key hrowOk').symm)
  exact ⟨row, hrowOk, hrowOk'⟩

/-- Rows that agree as a set show that the condition holds, where ids are digests. -/
theorem onOnePage_of_rows_perm (hids : ContentAddressed records) {rows : List ExchangeRow}
    {rowss : List (List ExchangeRow)} (hrows : listRows verifier records = .ok rows)
    (hrowss : (blocks limit records).map (listRows verifier) = rowss.map .ok)
    (hperm : rowss.flatten.Perm rows) : OnOnePage limit records := by
  have hseparate := separate_of_rows_perm hrows hrowss hperm
  refine ⟨hseparate, ?_, ?_⟩
  · refine hseparate.imp_of_mem fun {page page'} hpage hpage' hdisjoint r hr s hs id hid hid' => ?_
    obtain rfl := hids r (mem_of_mem_block hpage hr) s (mem_of_mem_block hpage' hs) id hid hid'
    cases hkey : keyOf r with
    | none => exact ⟨rfl, rfl⟩
    | some key =>
        exact (hdisjoint (mem_keysIn.mpr ⟨r, hr, hkey⟩) (mem_keysIn.mpr ⟨r, hs, hkey⟩)).elim
  · intro page hpage key r hhead s hs hsid hpresent
    obtain ⟨hrpage, hkey, hrid⟩ := hhead.mem
    have hr := mem_of_mem_block hpage hrpage
    obtain ⟨id, hid, -⟩ : ∃ id, capsuleIdOf r = some id ∧ id ≠ "" := by
      simpa [hasId, Option.any_eq_true] using hrid
    obtain rfl := hids s (mem_of_mem_block hpage hs) r hr id (hsid.trans hid) hid
    by_contra hlost
    rw [Bool.not_eq_true] at hlost
    have hparent : parentOf s ≠ none := by
      intro hnone
      simp [parentPresent, hnone] at hlost
    obtain ⟨row, hrow, hrow'⟩ := row_of_page hrows hrowss hperm hpage (mem_keysIn.mpr ⟨s, hs, hkey⟩)
    -- On the page its parent is missing, in the whole list it is not.
    have hpageIds : ContentAddressed page := fun r hr s hs =>
      hids r (mem_of_mem_block hpage hr) s (mem_of_mem_block hpage hs)
    have hchip := (exchangeRow_continuity hhead hrow).symm.trans
      (exchangeRow_continuity (hhead.of_page hseparate hpage) hrow')
    rw [hpageIds.get_buildVerifyMap hs hrid, hids.get_buildVerifyMap hr hrid] at hchip
    have hstate := congrArg Chip.state (Option.some.inj hchip)
    have hfails := (continuityChip_verifyOne verifier hparent).mpr hlost
    rw [hstate, continuityChip_verifyOne verifier hparent, hpresent] at hfails
    cases hfails

end Pages

/-- Following the cursor to its end shows the rows of the unpaged list. -/
def PagesAgree (verifier : Verifier) (dir : LedgerDir) (limit : ℕ) (rows : List ExchangeRow) : Prop :=
  ∀ fuel, dir.readable.length < fuel →
    ∃ paged, followPages verifier dir limit fuel 0 = .ok paged ∧ paged.Perm rows

/-- The pages show the unpaged list when each exchange, and the chain parent of its
first record, stand on one page; and where ids are digests, only then. -/
theorem pagesAgree_iff_onOnePage (verifier : Verifier) (dir : LedgerDir) {limit : ℕ}
    (hlimit : 0 < limit) {rows : List ExchangeRow} (hrows : allRows verifier dir = .ok rows) :
    (OnOnePage limit (dir.readable.map Prod.snd) → PagesAgree verifier dir limit rows) ∧
      (ContentAddressed (dir.readable.map Prod.snd) → PagesAgree verifier dir limit rows →
        OnOnePage limit (dir.readable.map Prod.snd)) := by
  rw [allRows_eq] at hrows
  constructor
  · intro h fuel hfuel
    obtain ⟨rowss, hrowss, hperm⟩ := h.rows_perm hrows
    exact ⟨rowss.flatten, (followPages_eq_ok verifier dir hlimit hfuel).mpr ⟨rowss, hrowss, rfl⟩,
      hperm⟩
  · intro hids hagree
    obtain ⟨paged, hpaged, hperm⟩ := hagree _ (Nat.lt_succ_self _)
    obtain ⟨rowss, hrowss, rfl⟩ :=
      (followPages_eq_ok verifier dir hlimit (Nat.lt_succ_self _)).mp hpaged
    exact onOnePage_of_rows_perm hids hrows hrowss hperm

/-- A verifier that looks for the chain parent only. -/
def chainVerifier : Verifier where
  verifyRecord _ present := if present then ⟨true, []⟩ else ⟨false, [.chainParentMissing]⟩
  verifyCapsuleSignature _ := true
  detachedStatementVerified _ := some true
  missing _ present := by cases present <;> simp
  malformed _ present := by cases present <;> simp

/-- A half of an exchange. -/
def half (id exchangeId role : String) (parent : Option String) : Json :=
  .obj
    [("capsule_id", .str id),
     ("timestamp", .str "2026-01-01T00:00:00Z"),
     ("chain", .obj [("parent_capsule_id", .ofStr? parent)]),
     ("effect", .obj [("request_digest", .str "request"), ("response_digest", .str "response")]),
     ("model_attestation", .obj
       [("model_id", .str "model"),
        ("compute_attestation", .obj
          [("x-mesh-poc-v1", .obj
            [("role", .str role),
             ("serving_provenance", .obj [("exchange_id", .str exchangeId)])])])])]

def flatLedger (records : List Json) : LedgerDir := ⟨some records, none⟩

/-- Two exchanges without a chain between them, each on its page. -/
theorem pagesAgree_iff_onOnePage_unchained :
    ∃ rows, allRows chainVerifier
        (flatLedger [half "a" "x" "served" none, half "b" "y" "served" none]) = .ok rows ∧
      PagesAgree chainVerifier
        (flatLedger [half "a" "x" "served" none, half "b" "y" "served" none]) 1 rows := by
  obtain ⟨rows, hrows⟩ : ∃ rows, allRows chainVerifier
      (flatLedger [half "a" "x" "served" none, half "b" "y" "served" none]) = .ok rows := ⟨_, rfl⟩
  refine ⟨rows, hrows, (pagesAgree_iff_onOnePage chainVerifier _ Nat.one_pos hrows).1 ?_⟩
  have hblocks : blocks 1 ((flatLedger [half "a" "x" "served" none,
      half "b" "y" "served" none]).readable.map Prod.snd) =
      [[half "a" "x" "served" none], [half "b" "y" "served" none]] := by
    simp [flatLedger, LedgerDir.readable, numbered, blocks]
  refine ⟨?_, ?_, ?_⟩
  · have hx : keysIn keyOf [half "a" "x" "served" none] = ["x"] := rfl
    have hy : keysIn keyOf [half "b" "y" "served" none] = ["y"] := rfl
    rw [hblocks, Separate, List.pairwise_pair, hx, hy]
    simp
  · rw [hblocks, List.pairwise_pair]
    rintro r hr s hs id hid hid'
    obtain rfl := List.mem_singleton.mp hr
    obtain rfl := List.mem_singleton.mp hs
    simp [half, capsuleIdOf, Json.str?] at hid hid'
    simp [← hid] at hid'
  · rw [hblocks]
    rintro page hpage key r - s hs - -
    have hnone : parentOf s = none := by
      rcases List.mem_cons.mp hpage with rfl | hpage
      · obtain rfl := List.mem_singleton.mp hs
        rfl
      · obtain rfl := List.mem_singleton.mp hpage
        obtain rfl := List.mem_singleton.mp hs
        rfl
    simp [parentPresent, hnone]

/-- Pages of one record.  The two halves of one exchange become two rows; and of two
exchanges chained to each other the second is reported as broken. -/
theorem paging_splits_and_breaks :
    (∃ rows paged,
      allRows chainVerifier
        (flatLedger [half "a" "x" "served" none, half "b" "x" "requested" none]) = .ok rows ∧
      followPages chainVerifier
        (flatLedger [half "a" "x" "served" none, half "b" "x" "requested" none]) 1 3 0 = .ok paged ∧
      rows.map ExchangeRow.exchangeKey = ["x"] ∧ paged.map ExchangeRow.exchangeKey = ["x", "x"] ∧
      ¬ paged.Perm rows) ∧
    ∃ rows paged,
      allRows chainVerifier
        (flatLedger [half "a" "x" "served" none, half "b" "y" "served" (some "a")]) = .ok rows ∧
      followPages chainVerifier
        (flatLedger [half "a" "x" "served" none, half "b" "y" "served" (some "a")]) 1 3 0 =
          .ok paged ∧
      rows.map ExchangeRow.hasIssue = [false, false] ∧
      paged.map ExchangeRow.hasIssue = [false, true] := by
  refine ⟨⟨_, _, rfl, rfl, rfl, rfl, ?_⟩, ⟨_, _, rfl, rfl, rfl, rfl⟩⟩
  intro hperm
  cases hperm.length_eq

end CapsuleMesh.Pane
