import CapsuleMesh.Pane.Pages

/-!
# Two columns of one row

`group_exchanges` of `capsule_exchange_tab.py` over a node's own records and those of a
counterparty.  Whose a record is, and how it verified, is decided by the id it claims;
and the two kinds of correlators are written into one kind of text.
-/

namespace CapsuleMesh.Pane

open Python Library Sidecar

/-! ## The rows of two lists -/

/-- The two verifications, each against the ledger the records are from; the later one
overrides. -/
def mergedMap (verifier verifier' : Verifier) (mine theirs : List Json) : VerifyMap :=
  buildVerifyMap verifier mine ++ buildVerifyMap verifier' theirs

/-- The id of the record is that of an own one. -/
def claimsOwnId (mine : List Json) (record : Json) : Bool :=
  (capsuleIdOf record).any fun id =>
    decide (id ≠ "") && mine.any fun own => decide (capsuleIdOf own = some id)

/-- The records of one exchange, the own ones first. -/
def groupFor (mine theirs : List Json) (key : String) : List Json :=
  groupIn keyOf (mine ++ theirs) key

/-- The row of one exchange among the records of both lists. -/
def sharedRow (verifier verifier' : Verifier) (source : SourceLog) (mine theirs : List Json)
    (key : String) :
    Py ExchangeRow :=
  buildExchangeRow key ((groupFor mine theirs key).filter (claimsOwnId mine))
    ((groupFor mine theirs key).filter (!claimsOwnId mine ·)) (groupFor mine theirs key) source
    (mergedMap verifier verifier' mine theirs)

variable {verifier verifier' : Verifier} {source : SourceLog} {mine theirs : List Json}

theorem claimsOwnId_iff {record : Json} :
    claimsOwnId mine record = true ↔
      ∃ id, capsuleIdOf record = some id ∧ id ≠ "" ∧ ∃ own ∈ mine, capsuleIdOf own = some id := by
  simp only [claimsOwnId, Option.any_eq_true, Bool.and_eq_true, decide_eq_true_eq, List.any_eq_true]

theorem claimsOwnId_of_own {own : Json} (hown : own ∈ mine) (hid : hasId own = true) :
    claimsOwnId mine own = true := by
  obtain ⟨id, hid, hne⟩ : ∃ id, capsuleIdOf own = some id ∧ id ≠ "" := by
    simpa [hasId, Option.any_eq_true] using hid
  exact claimsOwnId_iff.mpr ⟨id, hid, hne, own, hown, hid⟩

/-- The set `my_ids` holds the ids that own records claim. -/
theorem mem_ownIds {id : String} :
    id ∈ ownIds (mine.map entryOf) ↔ id ≠ "" ∧ ∃ own ∈ mine, capsuleIdOf own = some id := by
  simp only [ownIds, List.mem_filter, List.mem_filterMap, List.mem_map, decide_eq_true_eq]
  constructor
  · rintro ⟨⟨e, ⟨own, hown, rfl⟩, hsame⟩, hne⟩
    exact ⟨hne, own, hown, hsame⟩
  · rintro ⟨hne, own, hown, hsame⟩
    exact ⟨⟨_, ⟨own, hown, rfl⟩, hsame⟩, hne⟩

theorem ownIds_any_entryOf (record : Json) :
    ((entryOf record).id.any fun id => decide (id ∈ ownIds (mine.map entryOf))) =
      claimsOwnId mine record := by
  rw [Bool.eq_iff_iff, claimsOwnId_iff, Option.any_eq_true]
  refine exists_congr fun id => and_congr_right fun _ => ?_
  rw [decide_eq_true_eq, mem_ownIds]

theorem rowFor_eq_sharedRow (key : String) :
    rowFor source (mergedMap verifier verifier' mine theirs) (ownIds (mine.map entryOf))
      ((mine ++ theirs).map entryOf) key = sharedRow verifier verifier' source mine theirs key := by
  have hgroup : groupOf ((mine ++ theirs).map entryOf) key =
      (groupFor mine theirs key).map entryOf := by
    rw [groupOf, groupFor, groupIn, List.filter_map]
    rfl
  have hmine : ((groupFor mine theirs key).map entryOf).filter (fun e =>
      e.id.any fun id => decide (id ∈ ownIds (mine.map entryOf))) =
      ((groupFor mine theirs key).filter (claimsOwnId mine)).map entryOf := by
    rw [List.filter_map]
    exact congrArg _ (List.filter_congr fun record _ => ownIds_any_entryOf record)
  have htheirs : ((groupFor mine theirs key).map entryOf).filter (fun e =>
      !e.id.any fun id => decide (id ∈ ownIds (mine.map entryOf))) =
      ((groupFor mine theirs key).filter (!claimsOwnId mine ·)).map entryOf := by
    rw [List.filter_map]
    exact congrArg _ (List.filter_congr fun record _ => congrArg _ (ownIds_any_entryOf record))
  have hrecord : ∀ rs : List Json, (rs.map entryOf).map Entry.record = rs := by
    intro rs
    simp [Function.comp_def, entryOf]
  simp only [rowFor, sharedRow, hgroup, hmine, htheirs, hrecord]

/-- A row for each exchange, in the order of the timestamps. -/
theorem groupExchanges_eq_ok {rows : List ExchangeRow}
    (h : groupExchanges verifier verifier' mine theirs source = .ok rows) :
    ∃ unsorted, (keysIn keyOf (mine ++ theirs)).map (sharedRow verifier verifier' source mine theirs) =
      unsorted.map .ok ∧ rows = sortRows unsorted := by
  have hrow : rowFor source (mergedMap verifier verifier' mine theirs) (ownIds (mine.map entryOf))
      ((mine ++ theirs).map entryOf) = sharedRow verifier verifier' source mine theirs :=
    funext rowFor_eq_sharedRow
  simp only [groupExchanges, Py.bind_eq_ok] at h
  obtain ⟨own, hown, other, hother, unsorted, hunsorted, hsorted⟩ := h
  have hreadMine : Readable mine := ⟨own, hown⟩
  have hreadTheirs : Readable theirs := ⟨other, hother⟩
  obtain rfl := Except.ok.inj (hown.symm.trans hreadMine.mapM_eq)
  obtain rfl := Except.ok.inj (hother.symm.trans hreadTheirs.mapM_eq)
  rw [← List.map_append, keysOf_map_entryOf, Py.mapM_eq_ok] at hunsorted
  change (keysIn keyOf (mine ++ theirs)).map (rowFor source (mergedMap verifier verifier' mine theirs)
    (ownIds (mine.map entryOf)) ((mine ++ theirs).map entryOf)) = _ at hunsorted
  rw [hrow] at hunsorted
  exact ⟨unsorted, hunsorted, (Except.ok.inj hsorted).symm⟩

theorem sharedRow_key {key : String} {row : ExchangeRow}
    (h : sharedRow verifier verifier' source mine theirs key = .ok row) : row.exchangeKey = key := by
  simp only [sharedRow, buildExchangeRow, Py.bind_eq_ok] at h
  obtain ⟨view, -, tag, -, mine, -, theirs, -, mineTime, -, theirsTime, -, hrow⟩ := h
  obtain rfl := Except.ok.inj hrow
  rfl

variable {rows : List ExchangeRow}

/-- Each row is that of its key. -/
theorem sharedRow_of_mem (h : groupExchanges verifier verifier' mine theirs source = .ok rows)
    {row : ExchangeRow} (hrow : row ∈ rows) :
    sharedRow verifier verifier' source mine theirs row.exchangeKey = .ok row ∧
      row.exchangeKey ∈ keysIn keyOf (mine ++ theirs) := by
  obtain ⟨unsorted, hunsorted, rfl⟩ := groupExchanges_eq_ok h
  have hmem : Except.ok row ∈ unsorted.map (Except.ok : ExchangeRow → Py ExchangeRow) :=
    List.mem_map_of_mem ((sortRows_perm unsorted).mem_iff.mp hrow)
  rw [← hunsorted] at hmem
  obtain ⟨key, hkey, hok⟩ := List.mem_map.mp hmem
  obtain rfl := sharedRow_key hok
  exact ⟨hok, hkey⟩

/-- The keys of the rows are those of the records, each once. -/
theorem rows_keys_perm (h : groupExchanges verifier verifier' mine theirs source = .ok rows) :
    (rows.map ExchangeRow.exchangeKey).Perm (keysIn keyOf (mine ++ theirs)) := by
  obtain ⟨unsorted, hunsorted, rfl⟩ := groupExchanges_eq_ok h
  refine ((sortRows_perm unsorted).map _).trans (List.Perm.of_eq ?_)
  have hall := Py.forall₂_of_map_eq hunsorted
  generalize keysIn keyOf (mine ++ theirs) = keys at hall
  clear hunsorted h
  induction hall with
  | nil => rfl
  | cons hrow _ ih => rw [List.map_cons, sharedRow_key hrow, ih]

/-- A key of the records is that of exactly one row. -/
theorem existsUnique_row (h : groupExchanges verifier verifier' mine theirs source = .ok rows) {key : String}
    (hkey : key ∈ keysIn keyOf (mine ++ theirs)) :
    ∃! i : Fin rows.length, (rows.get i).exchangeKey = key := by
  have hperm := rows_keys_perm h
  have hnodup : (rows.map ExchangeRow.exchangeKey).Nodup :=
    hperm.nodup_iff.mpr (nodup_keysIn _)
  obtain ⟨row, hrow, hrowKey⟩ := List.mem_map.mp (hperm.mem_iff.mpr hkey)
  obtain ⟨i, rfl⟩ := List.get_of_mem hrow
  refine ⟨i, hrowKey, fun j hj => ?_⟩
  have hsame : rows.get j = rows.get i :=
    List.inj_on_of_nodup_map hnodup (List.get_mem _ _) hrow (hj.trans hrowKey.symm)
  exact (List.Nodup.of_map _ hnodup).get_inj_iff.mp hsame

/-! ## Correlators -/

/-- What `exchange_key_for` finds in a record, before it is written as a text. -/
inductive Correlator where
  | exchange (id : String)
  | digest (value : Json)

def Correlator.key : Correlator → String
  | .exchange id => id
  | .digest value => "digest:" ++ value.pyStr

def correlatorFor (record : Json) : Py (Option Correlator) := do
  match ← knownExchange (← exchangeIdFor record) with
  | some id => return some (.exchange id)
  | none => do
      let digest ← (← effectBlock record).get "request_digest"
      return if digest.truthy then some (.digest digest) else none

theorem exchangeKeyFor_eq (record : Json) :
    exchangeKeyFor record = (correlatorFor record).map (Option.map Correlator.key) := by
  unfold exchangeKeyFor correlatorFor
  cases exchangeIdFor record with
  | error e => rfl
  | ok exchangeId =>
      simp only [Py.ok_bind]
      cases knownExchange exchangeId with
      | error e => rfl
      | ok known =>
        cases known with
        | some id => rfl
        | none =>
          simp only [Py.ok_bind]
          cases effectBlock record with
          | error e => rfl
          | ok effect =>
            simp only [Py.ok_bind]
            cases effect.get "request_digest" with
            | error e => rfl
            | ok digest =>
              simp only [Py.ok_bind]
              cases digest.truthy <;> rfl

def correlatorOf (record : Json) : Option Correlator := (correlatorFor record).toOption.join

theorem keyOf_eq (record : Json) : keyOf record = (correlatorOf record).map Correlator.key := by
  rw [keyOf, correlatorOf, exchangeKeyFor_eq]
  cases correlatorFor record <;> rfl

/-- A correlator of one of these records. -/
def Correlates (records : List Json) (c : Correlator) : Prop :=
  ∃ record ∈ records, correlatorOf record = some c

theorem mem_groupFor {key : String} {record : Json} :
    record ∈ groupFor mine theirs key ↔ record ∈ mine ++ theirs ∧ keyOf record = some key := by
  rw [groupFor, groupIn, List.mem_filter, decide_eq_true_eq]

theorem correlates_groupFor {key : String} {c : Correlator} :
    Correlates (groupFor mine theirs key) c ↔ Correlates (mine ++ theirs) c ∧ c.key = key := by
  constructor
  · rintro ⟨record, hrecord, hc⟩
    obtain ⟨hmem, hkey⟩ := mem_groupFor.mp hrecord
    rw [keyOf_eq, hc] at hkey
    exact ⟨⟨record, hmem, hc⟩, Option.some.inj hkey⟩
  · rintro ⟨⟨record, hmem, hc⟩, rfl⟩
    refine ⟨record, mem_groupFor.mpr ⟨hmem, ?_⟩, hc⟩
    rw [keyOf_eq, hc]
    rfl

/-- The rows keep the exchanges and the two parties apart. -/
structure SidesKept (verifier verifier' : Verifier) (source : SourceLog) (mine theirs : List Json)
    (rows : List ExchangeRow) : Prop where
  once : ∀ record ∈ mine ++ theirs, (keyOf record).isSome → ∃! i : Fin rows.length,
    record ∈ groupFor mine theirs (rows.get i).exchangeKey
  one : ∀ i : Fin rows.length, ∃! c, Correlates (groupFor mine theirs (rows.get i).exchangeKey) c
  every : ∀ c, Correlates (mine ++ theirs) c → ∃! i : Fin rows.length,
    Correlates (groupFor mine theirs (rows.get i).exchangeKey) c
  own : ∀ row ∈ rows, row.mine.state ≠ .absent → ∃ record ∈ mine,
    keyOf record = some row.exchangeKey ∧ ∃ text, sideOf source text (some record) = .ok row.mine
  verified : ∀ record ∈ mine, (capsuleIdOf record).bind (mergedMap verifier verifier' mine theirs).get =
    (capsuleIdOf record).bind (buildVerifyMap verifier mine).get

/-- No two correlators are written alike; a counterparty's record under an own id lies
in an exchange with an own record, and verifies as the own record of that id does. -/
structure NoLookAlikes (verifier verifier' : Verifier) (mine theirs : List Json) : Prop where
  kinds : ∀ id value, Correlates (mine ++ theirs) (.exchange id) →
    Correlates (mine ++ theirs) (.digest value) → id ≠ "digest:" ++ value.pyStr
  digests : ∀ value value', Correlates (mine ++ theirs) (.digest value) →
    Correlates (mine ++ theirs) (.digest value') → value.pyStr = value'.pyStr → value = value'
  columns : ∀ record ∈ theirs, claimsOwnId mine record = true → ∀ key, keyOf record = some key →
    ∃ own ∈ mine, hasId own = true ∧ keyOf own = some key
  results : ∀ id, id ≠ "" → ∀ own, (mine.filter fun r ↦ capsuleIdOf r = some id).getLast? = some own →
    ∀ other, (theirs.filter fun r => capsuleIdOf r = some id).getLast? = some other →
      verifyOne verifier' theirs other = verifyOne verifier mine own

/-! ### One row for each correlator -/

/-- Correlators are told apart by what they are written as. -/
def KeysTell (records : List Json) : Prop :=
  ∀ c c', Correlates records c → Correlates records c' → c.key = c'.key → c = c'

theorem keysTell_iff {records : List Json} :
    KeysTell records ↔
      (∀ id value, Correlates records (.exchange id) → Correlates records (.digest value) →
        id ≠ "digest:" ++ value.pyStr) ∧
      ∀ value value', Correlates records (.digest value) → Correlates records (.digest value') →
        value.pyStr = value'.pyStr → value = value' := by
  constructor
  · intro h
    constructor
    · intro id value hid hvalue hsame
      cases h _ _ hid hvalue hsame
    · intro value value' hvalue hvalue' hsame
      exact Correlator.digest.inj (h _ _ hvalue hvalue' (congrArg ("digest:" ++ ·) hsame))
  · rintro ⟨hkinds, hdigests⟩ c c' hc hc' hkey
    cases c with
    | exchange id =>
        cases c' with
        | exchange id' => exact congrArg _ hkey
        | digest value => exact absurd hkey (hkinds id value hc hc')
    | digest value =>
        cases c' with
        | exchange id => exact absurd hkey.symm (hkinds id value hc' hc)
        | digest value' =>
          refine congrArg _ (hdigests value value' hc hc' ?_)
          exact (String.append_right_inj "digest:").mp hkey

theorem existsUnique_group (h : groupExchanges verifier verifier' mine theirs source = .ok rows)
    {record : Json} (hrecord : record ∈ mine ++ theirs) (hkey : (keyOf record).isSome) :
    ∃! i : Fin rows.length, record ∈ groupFor mine theirs (rows.get i).exchangeKey := by
  obtain ⟨key, hkey⟩ := Option.isSome_iff_exists.mp hkey
  obtain ⟨i, hi, hunique⟩ := existsUnique_row h (mem_keysIn.mpr ⟨record, hrecord, hkey⟩)
  refine ⟨i, mem_groupFor.mpr ⟨hrecord, hi ▸ hkey⟩, fun j hj => hunique j ?_⟩
  have hj := (mem_groupFor.mp hj).2
  exact Option.some.inj (hj.symm.trans hkey)

theorem existsUnique_correlated (h : groupExchanges verifier verifier' mine theirs source = .ok rows)
    {c : Correlator} (hc : Correlates (mine ++ theirs) c) :
    ∃! i : Fin rows.length, Correlates (groupFor mine theirs (rows.get i).exchangeKey) c := by
  obtain ⟨record, hrecord, hrc⟩ := hc
  have hkey : keyOf record = some c.key := by rw [keyOf_eq, hrc, Option.map_some]
  obtain ⟨i, hi, hunique⟩ := existsUnique_row h (mem_keysIn.mpr ⟨record, hrecord, hkey⟩)
  refine ⟨i, correlates_groupFor.mpr ⟨⟨record, hrecord, hrc⟩, hi.symm⟩, fun j hj => hunique j ?_⟩
  exact (correlates_groupFor.mp hj).2.symm

/-- Each row is about one correlator exactly when no two are written alike. -/
theorem one_correlator_iff (h : groupExchanges verifier verifier' mine theirs source = .ok rows) :
    (∀ i : Fin rows.length, ∃! c, Correlates (groupFor mine theirs (rows.get i).exchangeKey) c) ↔
      KeysTell (mine ++ theirs) := by
  constructor
  · intro hone c c' hc hc' hkey
    obtain ⟨i, hi, -⟩ := existsUnique_correlated h hc
    have hi' : Correlates (groupFor mine theirs (rows.get i).exchangeKey) c' :=
      correlates_groupFor.mpr ⟨hc', hkey.symm.trans (correlates_groupFor.mp hi).2⟩
    exact (hone i).unique hi hi'
  · intro htell i
    obtain ⟨record, hrecord, hkey⟩ := mem_keysIn.mp (sharedRow_of_mem h (List.get_mem rows i)).2
    have hkey' := hkey
    rw [keyOf_eq] at hkey'
    obtain ⟨c, hc, hckey⟩ := Option.map_eq_some_iff.mp hkey'
    refine ⟨c, correlates_groupFor.mpr ⟨⟨record, hrecord, hc⟩, hckey⟩, fun c' hc' => ?_⟩
    obtain ⟨hc', hckey'⟩ := correlates_groupFor.mp hc'
    exact htell c' c hc' ⟨record, hrecord, hc⟩ (hckey'.trans hckey.symm)

/-! ### The own column -/

/-- The own column shows the first record of the exchange under an own id. -/
theorem sharedRow_mine {key : String} {row : ExchangeRow}
    (h : sharedRow verifier verifier' source mine theirs key = .ok row) :
    sideOf source "none — received without a commitment"
      ((groupFor mine theirs key).filter (claimsOwnId mine)).head? = .ok row.mine := by
  simp only [sharedRow, buildExchangeRow, Py.bind_eq_ok] at h
  obtain ⟨view, -, tag, -, side, hside, theirs, -, mineTime, -, theirsTime, -, hrow⟩ := h
  obtain rfl := Except.ok.inj hrow
  exact hside

theorem sideOf_some {text : String} {record : Json} {side : Side}
    (h : sideOf source text (some record) = .ok side) :
    side.state = .presentUnverified ∧ side.capsuleId = capsuleIdOf record := by
  simp only [sideOf, Py.bind_eq_ok] at h
  obtain ⟨id, hid, role, -, hside⟩ := h
  obtain rfl := Except.ok.inj hside
  exact ⟨rfl, capsuleId_eq_ok hid⟩

theorem sideOf_none {text : String} {side : Side} (h : sideOf source text none = .ok side) :
    side.state = .absent := by
  obtain rfl := Except.ok.inj h
  rfl

/-- The own records of an exchange come first. -/
theorem head?_own_mem {key : String} {own : Json} (hown : own ∈ mine) (hid : hasId own = true)
    (hkey : keyOf own = some key) :
    ∃ record ∈ mine, keyOf record = some key ∧
      ((groupFor mine theirs key).filter (claimsOwnId mine)).head? = some record := by
  have hmem : own ∈ (groupIn keyOf mine key).filter (claimsOwnId mine) :=
    List.mem_filter.mpr ⟨List.mem_filter.mpr ⟨hown, by simpa using hkey⟩,
      claimsOwnId_of_own hown hid⟩
  obtain ⟨record, hrecord⟩ := Option.isSome_iff_exists.mp
    (List.isSome_head?.mpr (List.ne_nil_of_mem hmem))
  have hgroup := List.mem_filter.mp (List.mem_filter.mp (List.mem_of_head? hrecord)).1
  refine ⟨record, hgroup.1, by simpa using hgroup.2, ?_⟩
  have hsplit : groupFor mine theirs key = groupIn keyOf mine key ++ groupIn keyOf theirs key :=
    List.filter_append _ _
  rw [hsplit, List.filter_append, List.head?_append, hrecord, Option.some_or]

theorem ownColumns_iff (h : groupExchanges verifier verifier' mine theirs source = .ok rows) :
    (∀ row ∈ rows, row.mine.state ≠ .absent → ∃ record ∈ mine,
      keyOf record = some row.exchangeKey ∧
        ∃ text, sideOf source text (some record) = .ok row.mine) ↔
      ∀ record ∈ theirs, claimsOwnId mine record = true → ∀ key, keyOf record = some key →
        ∃ own ∈ mine, hasId own = true ∧ keyOf own = some key := by
  constructor
  · intro hcolumns record hrecord hclaims key hkey
    have hin : record ∈ mine ++ theirs := List.mem_append_right _ hrecord
    obtain ⟨i, hi, -⟩ := existsUnique_row h (mem_keysIn.mpr ⟨record, hin, hkey⟩)
    have hrow := (sharedRow_of_mem h (List.get_mem rows i)).1
    rw [hi] at hrow
    have hside := sharedRow_mine hrow
    have hshown : record ∈ (groupFor mine theirs key).filter (claimsOwnId mine) :=
      List.mem_filter.mpr ⟨mem_groupFor.mpr ⟨hin, hkey⟩, hclaims⟩
    obtain ⟨first, hfirst⟩ := Option.isSome_iff_exists.mp
      (List.isSome_head?.mpr (List.ne_nil_of_mem hshown))
    rw [hfirst] at hside
    obtain ⟨hstate, hid⟩ := sideOf_some hside
    obtain ⟨own, hown, hownKey, text, hownSide⟩ :=
      hcolumns _ (List.get_mem rows i) (by rw [hstate]; decide)
    refine ⟨own, hown, ?_, hownKey.trans (congrArg some hi)⟩
    -- The own record that is shown has the id of the first one, which is not empty.
    have hclaimed := (List.mem_filter.mp (List.mem_of_head? hfirst)).2
    obtain ⟨id, hfirstId, hne, -⟩ := claimsOwnId_iff.mp hclaimed
    have hownId : capsuleIdOf own = some id :=
      (sideOf_some hownSide).2.symm.trans (hid.trans hfirstId)
    simp [hasId, hownId, hne]
  · intro hcolumns row hrow hpresent
    have hside := sharedRow_mine (sharedRow_of_mem h hrow).1
    cases hfirst : ((groupFor mine theirs row.exchangeKey).filter (claimsOwnId mine)).head? with
    | none =>
        rw [hfirst] at hside
        exact absurd (sideOf_none hside) hpresent
    | some first =>
        obtain ⟨hgroup, hclaimed⟩ := List.mem_filter.mp (List.mem_of_head? hfirst)
        obtain ⟨hin, hkey⟩ := mem_groupFor.mp hgroup
        rw [hfirst] at hside
        rcases List.mem_append.mp hin with hmine | htheirs
        · exact ⟨first, hmine, hkey, _, hside⟩
        · obtain ⟨own, hown, hownId, hownKey⟩ := hcolumns first htheirs hclaimed _ hkey
          obtain ⟨record, hrecord, hrecordKey, hhead⟩ := head?_own_mem hown hownId hownKey
          rw [hfirst] at hhead
          obtain rfl := Option.some.inj hhead
          exact ⟨first, hrecord, hrecordKey, _, hside⟩

/-! ### The verification of an own record -/

theorem get_mergedMap (verifier verifier' : Verifier) (mine theirs : List Json) (id : String) :
    (mergedMap verifier verifier' mine theirs).get id =
      ((buildVerifyMap verifier' theirs).get id).or ((buildVerifyMap verifier mine).get id) := by
  simp only [VerifyMap.get, mergedMap, List.reverse_append]
  generalize (buildVerifyMap verifier' theirs).reverse = entries
  induction entries with
  | nil => rfl
  | cons entry entries ih =>
      obtain ⟨id', result⟩ := entry
      rw [List.cons_append, List.lookup_cons, List.lookup_cons, ih]
      cases id == id' <;> rfl

theorem ownResults_iff (verifier verifier' : Verifier) (mine theirs : List Json) :
    (∀ record ∈ mine, (capsuleIdOf record).bind (mergedMap verifier verifier' mine theirs).get =
      (capsuleIdOf record).bind (buildVerifyMap verifier mine).get) ↔
    ∀ id, id ≠ "" → ∀ own, (mine.filter fun r => capsuleIdOf r = some id).getLast? = some own →
      ∀ other, (theirs.filter fun r => capsuleIdOf r = some id).getLast? = some other →
        verifyOne verifier' theirs other = verifyOne verifier mine own := by
  constructor
  · intro h id hne own hlast other hother
    obtain ⟨hown, hid⟩ := List.mem_filter.mp (List.mem_of_getLast? hlast)
    have hid : capsuleIdOf own = some id := of_decide_eq_true hid
    have hsame := h own hown
    rw [hid, Option.bind_some, Option.bind_some, get_mergedMap, get_buildVerifyMap,
      get_buildVerifyMap, if_neg hne, if_neg hne, hlast, hother] at hsame
    exact Option.some.inj hsame
  · intro h record hrecord
    cases hid : capsuleIdOf record with
    | none => rfl
    | some id =>
        rw [Option.bind_some, Option.bind_some, get_mergedMap, get_buildVerifyMap,
          get_buildVerifyMap]
        by_cases hne : id = ""
        · rw [if_pos hne, if_pos hne, Option.none_or]
        · rw [if_neg hne, if_neg hne]
          have hmem : record ∈ mine.filter fun r => capsuleIdOf r = some id :=
            List.mem_filter.mpr ⟨hrecord, decide_eq_true hid⟩
          obtain ⟨own, hlast⟩ := Option.isSome_iff_exists.mp
            (List.getLast?_isSome.mpr (List.ne_nil_of_mem hmem))
          cases hother : (theirs.filter fun r => capsuleIdOf r = some id).getLast? with
          | none => rw [Option.map_none, Option.none_or]
          | some other =>
            rw [hlast, Option.map_some, Option.map_some, Option.some_or,
              h id hne own hlast other hother]

/-- The list of exchanges keeps the sides apart exactly when nothing of the counterparty
looks like something else. -/
theorem sidesKept_iff (h : groupExchanges verifier verifier' mine theirs source = .ok rows) :
    SidesKept verifier verifier' source mine theirs rows ↔ NoLookAlikes verifier verifier' mine theirs := by
  constructor
  · intro hkept
    obtain ⟨hkinds, hdigests⟩ := keysTell_iff.mp ((one_correlator_iff h).mp hkept.one)
    exact ⟨hkinds, hdigests, (ownColumns_iff h).mp hkept.own,
      (ownResults_iff verifier verifier' mine theirs).mp hkept.verified⟩
  · intro hnone
    have htell := keysTell_iff.mpr ⟨hnone.kinds, hnone.digests⟩
    exact {
      once := fun record hrecord hkey => existsUnique_group h hrecord hkey
      one := (one_correlator_iff h).mpr htell
      every := fun c hc => existsUnique_correlated h hc
      own := (ownColumns_iff h).mpr hnone.columns
      verified := (ownResults_iff verifier verifier' mine theirs).mpr hnone.results }

/-- The two halves of one exchange, each under an id of its own. -/
theorem sidesKept_iff_two_halves :
    ∃ rows, groupExchanges chainVerifier chainVerifier [half "a" "x" "served" none]
        [half "b" "x" "requested" none] .sidecar = .ok rows ∧
      SidesKept chainVerifier chainVerifier .sidecar [half "a" "x" "served" none]
        [half "b" "x" "requested" none] rows := by
  obtain ⟨rows, hrows⟩ : ∃ rows, groupExchanges chainVerifier chainVerifier [half "a" "x" "served" none]
      [half "b" "x" "requested" none] .sidecar = .ok rows := ⟨_, rfl⟩
  refine ⟨rows, hrows, (sidesKept_iff hrows).mpr ?_⟩
  have hexchange : ∀ c, Correlates ([half "a" "x" "served" none] ++
      [half "b" "x" "requested" none]) c → c = .exchange "x" := by
    rintro c ⟨record, hrecord, hc⟩
    have hc' : correlatorOf record = some (.exchange "x") := by
      rcases List.mem_append.mp hrecord with hrecord | hrecord
      · obtain rfl := List.mem_singleton.mp hrecord
        rfl
      · obtain rfl := List.mem_singleton.mp hrecord
        rfl
    exact Option.some.inj (hc.symm.trans hc')
  refine ⟨?_, ?_, ?_, ?_⟩
  · intro id value hid hvalue
    cases hexchange _ hvalue
  · intro value value' hvalue
    cases hexchange _ hvalue
  · intro record hrecord hclaims
    obtain rfl := List.mem_singleton.mp hrecord
    exact absurd hclaims (by decide)
  · intro id hne own hown other hother
    obtain ⟨hown, hownId⟩ := List.mem_filter.mp (List.mem_of_getLast? hown)
    obtain ⟨hother, hotherId⟩ := List.mem_filter.mp (List.mem_of_getLast? hother)
    obtain rfl := List.mem_singleton.mp hown
    obtain rfl := List.mem_singleton.mp hother
    have ha : some "a" = some id := of_decide_eq_true hownId
    have hb : some "b" = some id := of_decide_eq_true hotherId
    exact absurd (ha.trans hb.symm) (by decide)

/-- A verifier for a ledger without detached statements. -/
def bareVerifier : Verifier := { chainVerifier with detachedStatementVerified := fun _ => none }

/-- A counterparty's record under the id of an own one stands in the own column of
another exchange, and its missing chain parent is reported of the own record.  An
exchange id that looks like a digest takes in the records of that digest.  A copy of an own
record fails where its detached statement is not, and with it the own record. -/
theorem forged_id_takes_place :
    (∃ rows, groupExchanges chainVerifier chainVerifier [half "a" "x" "served" none]
        [half "a" "y" "served" (some "p")] .sidecar = .ok rows ∧
      rows.map (fun row => (row.exchangeKey, row.mine.capsuleId, row.hasIssue)) =
        [("x", some "a", true), ("y", some "a", true)] ∧
      ¬ SidesKept chainVerifier chainVerifier .sidecar [half "a" "x" "served" none]
        [half "a" "y" "served" (some "p")] rows) ∧
    (∃ rows, groupExchanges chainVerifier chainVerifier [half "a" "digest:request" "served" none]
        [half "b" "unknown" "served" none] .sidecar = .ok rows ∧
      rows.map ExchangeRow.exchangeKey = ["digest:request"] ∧
      ¬ SidesKept chainVerifier chainVerifier .sidecar [half "a" "digest:request" "served" none]
        [half "b" "unknown" "served" none] rows) ∧
    ∃ rows, groupExchanges chainVerifier bareVerifier [half "a" "x" "served" none]
        [half "a" "x" "served" none] .sidecar = .ok rows ∧
      ¬ SidesKept chainVerifier bareVerifier .sidecar [half "a" "x" "served" none]
        [half "a" "x" "served" none] rows := by
  refine ⟨?_, ?_, ?_⟩
  · obtain ⟨rows, hrows⟩ : ∃ rows, groupExchanges chainVerifier chainVerifier [half "a" "x" "served" none]
        [half "a" "y" "served" (some "p")] .sidecar = .ok rows := ⟨_, rfl⟩
    refine ⟨rows, hrows, ?_, fun hkept => ?_⟩
    · obtain rfl := Except.ok.inj hrows
      rfl
    · have hresult := hkept.verified _ (List.mem_singleton_self _)
      have hok := congrArg (Option.map VerificationResult.ok) hresult
      exact absurd hok (by decide)
  · obtain ⟨rows, hrows⟩ : ∃ rows, groupExchanges chainVerifier chainVerifier
        [half "a" "digest:request" "served" none] [half "b" "unknown" "served" none] .sidecar =
        .ok rows := ⟨_, rfl⟩
    refine ⟨rows, hrows, ?_, fun hkept => ?_⟩
    · obtain rfl := Except.ok.inj hrows
      rfl
    · have hid : Correlates ([half "a" "digest:request" "served" none] ++
          [half "b" "unknown" "served" none]) (.exchange "digest:request") :=
        ⟨half "a" "digest:request" "served" none, by simp, rfl⟩
      have hdigest : Correlates ([half "a" "digest:request" "served" none] ++
          [half "b" "unknown" "served" none]) (.digest (.str "request")) :=
        ⟨half "b" "unknown" "served" none, by simp, rfl⟩
      have htell := (one_correlator_iff hrows).mp hkept.one
      cases htell _ _ hid hdigest rfl
  · obtain ⟨rows, hrows⟩ : ∃ rows, groupExchanges chainVerifier bareVerifier
        [half "a" "x" "served" none] [half "a" "x" "served" none] .sidecar = .ok rows := ⟨_, rfl⟩
    refine ⟨rows, hrows, fun hkept => ?_⟩
    have hresult := hkept.verified _ (List.mem_singleton_self _)
    have hok := congrArg (Option.map VerificationResult.ok) hresult
    exact absurd hok (by decide)

end CapsuleMesh.Pane
