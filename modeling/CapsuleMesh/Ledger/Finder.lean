import CapsuleMesh.Ledger.Store
import CapsuleMesh.Library.Tally
import CapsuleMesh.Python.Order
import CapsuleMesh.Python.UtcTexts
import CapsuleMesh.Viewer.Exchange

/-!
# What the finder finds

`find_capsules` of `ledger_finder.py`, over whatever `read_all_capsules` returned or raised.  Times
are compared as texts, and each filter reads the fields that the filters before it let through.
-/

namespace CapsuleMesh.Ledger

open Python Library

/-! ## The search -/

structure Query where
  start : Option String
  stop : Option String
  idQuery : Option String
  peer : Option String

/-- `bool(text)` of an optional text. -/
def given (text : Option String) : Bool := text.any (· ≠ "")

def Query.hasFilter (q : Query) : Bool :=
  given q.start || given q.stop || given q.idQuery || given q.peer

/-- `value.startswith(start)`. -/
def startsWith (value : Json) (start : String) : Py Bool :=
  match value with
  | .str s => .ok (Stranger.startsWith s start)
  | _ => .error .attributeError

def capsuleMatchesId (record : Json) (idQuery : String) : Py Bool := do
  let rid ← record.getD "capsule_id" (.str "")
  if rid.pyEq (.str idQuery) then return true else startsWith rid idQuery

/-- The block that `serving_provenance` flattens. -/
def servingBlock (record : Json) : Py Json := do
  return (← (← Stranger.pocBlock record).get "serving_provenance").or (.obj [])

def exchangeIdFor (record : Json) : Py Json := do
  let _ ← Viewer.servingProvenance record
  (← servingBlock record).get "exchange_id"

def peerFor (record : Json) : Py (Json × Json) := do
  let sp ← Viewer.servingProvenance record
  return (sp.servedByNodeId, ← (← servingBlock record).get "requesting_party")

def candidateMatches (candidate : Json) (peer : String) : Py Bool :=
  if !candidate.truthy then .ok false
  else if candidate.pyEq (.str peer) then .ok true
  else startsWith candidate peer

def peerMatches (record : Json) (peer : String) : Py Bool := do
  let (servedBy, requesting) ← peerFor record
  if ← candidateMatches servedBy peer then return true else candidateMatches requesting peer

def idFilter (q : Query) (record : Json) : Py Bool :=
  match q.idQuery.filter (· ≠ "") with
  | none => .ok true
  | some id => do
      if ← capsuleMatchesId record id then return true
      else return (← exchangeIdFor record).pyEq (.str id)

def peerFilter (q : Query) (record : Json) : Py Bool :=
  match q.peer.filter (· ≠ "") with
  | none => .ok true
  | some peer => peerMatches record peer

/-- `a < b`, where the bound is there. -/
def boundedBy (less : String → Py Bool) : Option String → Py Bool
  | none => .ok false
  | some bound => less bound

def timeFilter (q : Query) (record : Json) : Py Bool := do
  let timestamp := (← record.get "timestamp").or (.str "")
  if ← boundedBy (fun start => timestamp.lt (.str start)) q.start then return false
  else return !(← boundedBy (fun stop => (Json.str stop).lt timestamp) q.stop)

def recordMatches (q : Query) (record : Json) : Py Bool := do
  if !(← idFilter q record) then return false
  else if !(← peerFilter q record) then return false
  else timeFilter q record

structure FinderResult where
  query : Query
  results : List Json
  allRecords : List Json
  archivedSegments : List ArchivedSegment
  notFoundButMaybeArchived : Bool

def searchResults (q : Query) (records : List Json) : Py (List Json) :=
  if q.hasFilter then records.filterM (recordMatches q) else .ok []

def findCapsules (read : Py (List Json × List ArchivedSegment)) (q : Query) : Py FinderResult := do
  let (records, archived) ← read
  let results ← searchResults q records
  return {
    query := q
    results := results
    allRecords := records
    archivedSegments := archived
    notFoundButMaybeArchived := given q.idQuery && results.isEmpty && !archived.isEmpty }

/-! ## What a query asks for -/

/-- The id is a prefix of the capsule id, or it is the exchange id. -/
def HasId (id : String) (record : Json) : Prop :=
  (∃ rid, record.getD "capsule_id" (.str "") = .ok (.str rid) ∧ Stranger.startsWith rid id = true) ∨
    exchangeIdFor record = .ok (.str id)

def Names (peer : String) (candidate : Json) : Prop :=
  ∃ name, candidate = .str name ∧ name ≠ "" ∧ Stranger.startsWith name peer = true

def HasPeer (peer : String) (record : Json) : Prop :=
  ∃ servedBy requesting, peerFor record = .ok (servedBy, requesting) ∧
    (Names peer servedBy ∨ Names peer requesting)

def IdSelected (q : Query) (record : Json) : Prop :=
  ∀ id ∈ q.idQuery.filter (· ≠ ""), HasId id record

def PeerSelected (q : Query) (record : Json) : Prop :=
  ∀ peer ∈ q.peer.filter (· ≠ ""), HasPeer peer record

def Untimed (record : Json) : Prop :=
  ∃ value, record.get "timestamp" = .ok value ∧ value.truthy = false

def At (record : Json) (t : UtcText) : Prop := record.get "timestamp" = .ok (.str t.text)

/-- The instant of a record lies between the bounds; one without a time lies nowhere. -/
def Within (start stop : Option UtcText) (record : Json) : Prop :=
  Untimed record ∧ start = none ∧ stop = none ∨
    ∃ t, At record t ∧ (∀ s ∈ start, s.instant ≤ t.instant) ∧ ∀ e ∈ stop, t.instant ≤ e.instant

open scoped Classical in
/-- The search returns; where all times are UTC times it returns what was asked for, in the order
of the ledger, and a record without a time never under a bound. -/
def FindsExactly (read : Py (List Json × List ArchivedSegment)) (q : Query) : Prop :=
  ∃ found, findCapsules read q = .ok found ∧
    (∀ start stop : Option UtcText, q.start = start.map UtcText.text →
      q.stop = stop.map UtcText.text →
      (∀ r ∈ found.allRecords, Untimed r ∨ ∃ t, At r t) →
      found.results = found.allRecords.filter fun r =>
        decide (q.hasFilter = true ∧ IdSelected q r ∧ PeerSelected q r ∧ Within start stop r)) ∧
    (given q.start = true ∨ q.stop.isSome → ∀ r ∈ found.results, ¬Untimed r)

/-! ## What the filters read -/

def Readable (record : Json) : Prop := ∃ sp, Viewer.servingProvenance record = .ok sp

/-- A value that a prefix can be looked for in, or that is passed over. -/
def TextOrFalse (value : Json) : Prop := value.truthy = true → ∃ s, value = .str s

/-- What the filters read of a record, each as far as the others let it. -/
structure Legible (q : Query) (record : Json) : Prop where
  id : ∀ id ∈ q.idQuery.filter (· ≠ ""), ∃ rid,
    record.getD "capsule_id" (.str "") = .ok (.str rid) ∧
      (Stranger.startsWith rid id = true ∨ Readable record)
  peer : IdSelected q record → ∀ peer ∈ q.peer.filter (· ≠ ""), ∃ servedBy requesting,
    peerFor record = .ok (servedBy, requesting) ∧ TextOrFalse servedBy ∧
      (Names peer servedBy ∨ TextOrFalse requesting)
  time : IdSelected q record → PeerSelected q record → ∃ value,
    record.get "timestamp" = .ok value ∧ (q.start.isSome ∨ q.stop.isSome → TextOrFalse value)

/-! ## Each filter -/

section

variable {q : Query} {record : Json}

theorem startsWith_eq_ok {value : Json} {start : String} {b : Bool} :
    startsWith value start = .ok b ↔ ∃ s, value = .str s ∧ Stranger.startsWith s start = b := by
  cases value <;> simp [startsWith]

theorem startsWith_self (s : String) : Stranger.startsWith s s = true := by
  simp [Stranger.startsWith]

theorem capsuleMatchesId_eq_ok {id : String} {b : Bool} :
    capsuleMatchesId record id = .ok b ↔ ∃ rid,
      record.getD "capsule_id" (.str "") = .ok (.str rid) ∧ Stranger.startsWith rid id = b := by
  rw [capsuleMatchesId, Py.bind_eq_ok]
  constructor
  · rintro ⟨value, hvalue, h⟩
    split_ifs at h with heq
    · obtain rfl := Json.eq_str_of_pyEq heq
      obtain rfl := Except.ok.inj h
      exact ⟨id, hvalue, startsWith_self id⟩
    · obtain ⟨rid, rfl, hb⟩ := startsWith_eq_ok.mp h
      exact ⟨rid, hvalue, hb⟩
  · rintro ⟨rid, hrid, hb⟩
    refine ⟨_, hrid, ?_⟩
    split_ifs with heq
    · obtain rfl := Json.str.inj (Json.eq_str_of_pyEq heq)
      rw [← hb, startsWith_self]
      rfl
    · exact startsWith_eq_ok.mpr ⟨rid, rfl, hb⟩

theorem get_returns {value found : Json} {key : String} (h : value.get key = .ok found)
    (other : String) : ∃ v, value.get other = .ok v := by
  cases value <;> first | exact ⟨_, rfl⟩ | cases h

/-- A record that can be flattened has a block to read from. -/
theorem Readable.servingBlock_get (h : Readable record) (key : String) :
    ∃ block value, servingBlock record = .ok block ∧ block.get key = .ok value := by
  obtain ⟨sp, hsp⟩ := h
  rw [Viewer.servingProvenance] at hsp
  obtain ⟨poc, hpoc, hsp⟩ := Py.bind_eq_ok.mp hsp
  obtain ⟨block, hblock, hsp⟩ := Py.bind_eq_ok.mp hsp
  obtain ⟨model, hmodel, -⟩ := Py.bind_eq_ok.mp hsp
  obtain ⟨value, hvalue⟩ := get_returns hmodel key
  refine ⟨_, value, ?_, hvalue⟩
  rw [servingBlock, hpoc, Py.ok_bind, hblock]
  rfl

theorem exchangeIdFor_returns : (∃ id, exchangeIdFor record = .ok id) ↔ Readable record := by
  constructor
  · rintro ⟨id, h⟩
    obtain ⟨sp, hsp, -⟩ := Py.bind_eq_ok.mp h
    exact ⟨sp, hsp⟩
  · intro h
    obtain ⟨block, value, hblock, hvalue⟩ := h.servingBlock_get "exchange_id"
    obtain ⟨sp, hsp⟩ := h
    refine ⟨value, ?_⟩
    rw [exchangeIdFor, hsp, Py.ok_bind, hblock, Py.ok_bind, hvalue]

theorem pyEq_str_true {value : Json} {s : String} : value.pyEq (.str s) = true ↔ value = .str s := by
  constructor
  · exact Json.eq_str_of_pyEq
  · rintro rfl
    simp [Json.pyEq]

theorem idFilter_returns : (∃ b, idFilter q record = .ok b) ↔
    ∀ id ∈ q.idQuery.filter (· ≠ ""), ∃ rid,
      record.getD "capsule_id" (.str "") = .ok (.str rid) ∧
        (Stranger.startsWith rid id = true ∨ Readable record) := by
  rw [idFilter]
  cases q.idQuery.filter (· ≠ "") with
  | none => simp
  | some id =>
      simp only [Option.mem_def, Option.some.injEq, forall_eq', Py.bind_eq_ok,
        capsuleMatchesId_eq_ok]
      constructor
      · rintro ⟨b, found, ⟨rid, hrid, hfound⟩, h⟩
        refine ⟨rid, hrid, ?_⟩
        cases found with
        | true => exact Or.inl hfound
        | false =>
          obtain ⟨exchange, hexchange, -⟩ := Py.bind_eq_ok.mp h
          exact Or.inr (exchangeIdFor_returns.mp ⟨exchange, hexchange⟩)
      · rintro ⟨rid, hrid, h⟩
        cases hfound : Stranger.startsWith rid id with
        | true => exact ⟨true, true, ⟨rid, hrid, hfound⟩, rfl⟩
        | false =>
          have hreadable := h.resolve_left (by simp [hfound])
          obtain ⟨exchange, hexchange⟩ := exchangeIdFor_returns.mpr hreadable
          refine ⟨exchange.pyEq (.str id), false, ⟨rid, hrid, hfound⟩, ?_⟩
          rw [if_neg Bool.false_ne_true, hexchange]
          rfl

theorem idFilter_true {b : Bool} (h : idFilter q record = .ok b) :
    b = true ↔ IdSelected q record := by
  rw [idFilter] at h
  rw [IdSelected]
  cases hid : q.idQuery.filter (· ≠ "") with
  | none =>
      rw [hid] at h
      obtain rfl := Except.ok.inj h
      simp
  | some id =>
      rw [hid] at h
      simp only [Option.mem_def, Option.some.injEq, forall_eq', HasId]
      obtain ⟨found, hfound, h⟩ := Py.bind_eq_ok.mp h
      obtain ⟨rid, hrid, hstarts⟩ := capsuleMatchesId_eq_ok.mp hfound
      cases found with
      | true =>
        obtain rfl := Except.ok.inj h
        exact iff_of_true rfl (Or.inl ⟨rid, hrid, hstarts⟩)
      | false =>
        obtain ⟨exchange, hexchange, h⟩ := Py.bind_eq_ok.mp h
        obtain rfl := Except.ok.inj h
        rw [pyEq_str_true, hexchange, Except.ok.injEq, or_iff_right]
        rintro ⟨rid', hrid', hstarts'⟩
        rw [hrid, Except.ok.injEq, Json.str.injEq] at hrid'
        rw [hrid', hstarts'] at hstarts
        cases hstarts

theorem candidateMatches_returns {candidate : Json} {peer : String} :
    (∃ b, candidateMatches candidate peer = .ok b) ↔ TextOrFalse candidate := by
  rw [candidateMatches, TextOrFalse]
  cases htruthy : candidate.truthy with
  | false => simp
  | true =>
      simp only [Bool.not_true, Bool.false_eq_true, if_false, forall_const]
      split_ifs with heq
      · exact iff_of_true ⟨true, rfl⟩ ⟨peer, Json.eq_str_of_pyEq heq⟩
      · simp only [startsWith_eq_ok]
        constructor
        · rintro ⟨b, s, hs, -⟩
          exact ⟨s, hs⟩
        · rintro ⟨s, hs⟩
          exact ⟨_, s, hs, rfl⟩

theorem candidateMatches_true {candidate : Json} {peer : String} {b : Bool}
    (h : candidateMatches candidate peer = .ok b) : b = true ↔ Names peer candidate := by
  rw [candidateMatches] at h
  cases htruthy : candidate.truthy with
  | false =>
      rw [htruthy] at h
      obtain rfl := Except.ok.inj h
      apply iff_of_false Bool.false_ne_true
      rintro ⟨name, rfl, hname, -⟩
      rw [Json.truthy, decide_eq_false_iff_not, not_not] at htruthy
      exact hname htruthy
  | true =>
      simp only [htruthy, Bool.not_true, Bool.false_eq_true, if_false] at h
      split_ifs at h with heq
      · obtain rfl := Except.ok.inj h
        obtain rfl := Json.eq_str_of_pyEq heq
        rw [Json.truthy, decide_eq_true_iff] at htruthy
        exact iff_of_true rfl ⟨peer, rfl, htruthy, startsWith_self peer⟩
      · obtain ⟨s, rfl, rfl⟩ := startsWith_eq_ok.mp h
        rw [Json.truthy, decide_eq_true_iff] at htruthy
        constructor
        · intro hstarts
          exact ⟨s, rfl, htruthy, hstarts⟩
        · rintro ⟨name, hname, -, hstarts⟩
          rwa [Json.str.inj hname]

theorem peerMatches_returns {peer : String} : (∃ b, peerMatches record peer = .ok b) ↔
    ∃ servedBy requesting, peerFor record = .ok (servedBy, requesting) ∧ TextOrFalse servedBy ∧
      (Names peer servedBy ∨ TextOrFalse requesting) := by
  rw [peerMatches]
  constructor
  · rintro ⟨b, h⟩
    obtain ⟨⟨servedBy, requesting⟩, hpeers, h⟩ := Py.bind_eq_ok.mp h
    obtain ⟨found, hfound, h⟩ := Py.bind_eq_ok.mp h
    refine ⟨servedBy, requesting, hpeers, candidateMatches_returns.mp ⟨found, hfound⟩, ?_⟩
    cases found with
    | true => exact Or.inl ((candidateMatches_true hfound).mp rfl)
    | false => exact Or.inr (candidateMatches_returns.mp ⟨b, h⟩)
  · rintro ⟨servedBy, requesting, hpeers, hserved, h⟩
    obtain ⟨found, hfound⟩ : ∃ found, candidateMatches servedBy peer = .ok found :=
      candidateMatches_returns.mpr hserved
    rw [hpeers, Py.ok_bind]
    simp only [hfound, Py.ok_bind]
    cases found with
    | true => exact ⟨true, rfl⟩
    | false =>
        have hother := h.resolve_left fun hnames =>
          Bool.false_ne_true ((candidateMatches_true hfound).mpr hnames)
        exact candidateMatches_returns.mpr hother

theorem peerMatches_true {peer : String} {b : Bool} (h : peerMatches record peer = .ok b) :
    b = true ↔ HasPeer peer record := by
  rw [peerMatches] at h
  obtain ⟨⟨servedBy, requesting⟩, hpeers, h⟩ := Py.bind_eq_ok.mp h
  obtain ⟨found, hfound, h⟩ := Py.bind_eq_ok.mp h
  have hfoundTrue := candidateMatches_true hfound
  have hpeer : HasPeer peer record ↔ Names peer servedBy ∨ Names peer requesting := by
    simp only [HasPeer, hpeers, Except.ok.injEq, Prod.mk.injEq]
    constructor
    · rintro ⟨_, _, ⟨rfl, rfl⟩, hnames⟩
      exact hnames
    · intro hnames
      exact ⟨_, _, ⟨rfl, rfl⟩, hnames⟩
  rw [hpeer, ← hfoundTrue]
  cases found with
  | true =>
      obtain rfl := Except.ok.inj h
      exact iff_of_true rfl (Or.inl rfl)
  | false =>
      rw [candidateMatches_true h]
      exact (or_iff_right Bool.false_ne_true).symm

theorem peerFilter_returns : (∃ b, peerFilter q record = .ok b) ↔
    ∀ peer ∈ q.peer.filter (· ≠ ""), ∃ servedBy requesting,
      peerFor record = .ok (servedBy, requesting) ∧ TextOrFalse servedBy ∧
        (Names peer servedBy ∨ TextOrFalse requesting) := by
  rw [peerFilter]
  cases q.peer.filter (· ≠ "") with
  | none => simp
  | some peer => simp only [peerMatches_returns, Option.mem_def, Option.some.injEq, forall_eq']

theorem peerFilter_true {b : Bool} (h : peerFilter q record = .ok b) :
    b = true ↔ PeerSelected q record := by
  rw [peerFilter] at h
  rw [PeerSelected]
  cases hpeer : q.peer.filter (· ≠ "") with
  | none =>
      rw [hpeer] at h
      obtain rfl := Except.ok.inj h
      simp
  | some peer =>
      rw [hpeer] at h
      simp only [Option.mem_def, Option.some.injEq, forall_eq', peerMatches_true h]

/-- A time as the filter compares it. -/
def shownTime (value : Json) : String :=
  match value with
  | .str s => s
  | _ => ""

theorem shownTime_str (s : String) : shownTime (.str s) = s := rfl

/-- Outside the bounds by the order of texts. -/
def OutsideText (q : Query) (text : String) : Prop :=
  (∃ start ∈ q.start, text < start) ∨ ∃ stop ∈ q.stop, stop < text

theorem or_empty_of_textOrFalse {value : Json} (h : TextOrFalse value) :
    value.or (.str "") = .str (shownTime value) := by
  cases htruthy : value.truthy with
  | true =>
      obtain ⟨s, rfl⟩ := h htruthy
      rw [Json.or, htruthy]
      rfl
  | false =>
      rw [Json.or, htruthy]
      cases value with
      | str s =>
        rw [Json.truthy, decide_eq_false_iff_not, not_not] at htruthy
        rw [htruthy]
        rfl
      | _ => rfl

theorem lt_str_eq_ok {value : Json} {text : String} {b : Bool} :
    value.lt (.str text) = .ok b ↔ ∃ s, value = .str s ∧ decide (s < text) = b := by
  cases value <;> simp [Json.lt, Json.isNumber]

theorem str_lt_eq_ok {value : Json} {text : String} {b : Bool} :
    (Json.str text).lt value = .ok b ↔ ∃ s, value = .str s ∧ decide (text < s) = b := by
  cases value <;> simp [Json.lt, Json.isNumber]

theorem textOrFalse_of_or {value : Json} {s : String} (h : value.or (.str "") = .str s) :
    TextOrFalse value := by
  intro htruthy
  rw [Json.or, if_pos htruthy] at h
  exact ⟨s, h⟩

theorem timeFilter_returns : (∃ b, timeFilter q record = .ok b) ↔ ∃ value,
    record.get "timestamp" = .ok value ∧ (q.start.isSome ∨ q.stop.isSome → TextOrFalse value) := by
  rw [timeFilter]
  constructor
  · rintro ⟨b, h⟩
    obtain ⟨value, hvalue, h⟩ := Py.bind_eq_ok.mp h
    refine ⟨value, hvalue, ?_⟩
    obtain ⟨early, hearly, h⟩ := Py.bind_eq_ok.mp h
    cases hstart : q.start with
    | some start =>
        intro _
        rw [hstart] at hearly
        obtain ⟨s, hs, -⟩ := lt_str_eq_ok.mp hearly
        exact textOrFalse_of_or hs
    | none =>
        rw [hstart] at hearly
        obtain rfl := Except.ok.inj hearly
        cases hstop : q.stop with
        | some stop =>
          intro _
          obtain ⟨late, hlate, -⟩ := Py.bind_eq_ok.mp h
          rw [hstop] at hlate
          obtain ⟨s, hs, -⟩ := str_lt_eq_ok.mp hlate
          exact textOrFalse_of_or hs
        | none => simp
  · rintro ⟨value, hvalue, h⟩
    rw [hvalue, Py.ok_bind]
    cases hstart : q.start with
    | some start =>
        have htext := or_empty_of_textOrFalse (h (Or.inl (by rw [hstart]; rfl)))
        rw [htext]
        simp only [boundedBy, Json.lt, Py.ok_bind]
        split_ifs
        · exact ⟨_, rfl⟩
        · cases q.stop with
          | none => exact ⟨_, rfl⟩
          | some stop => exact ⟨_, rfl⟩
    | none =>
        simp only [boundedBy, Py.ok_bind]
        cases hstop : q.stop with
        | none => exact ⟨_, rfl⟩
        | some stop =>
          rw [or_empty_of_textOrFalse (h (Or.inr (by rw [hstop]; rfl)))]
          exact ⟨_, rfl⟩

theorem boundedBy_eq_ok {less : String → Py Bool} {p : String → Prop} [DecidablePred p]
    {bound : Option String} (h : ∀ a ∈ bound, less a = .ok (decide (p a))) :
    boundedBy less bound = .ok (decide (∃ a ∈ bound, p a)) := by
  cases bound with
  | none => simp [boundedBy]
  | some a =>
      rw [boundedBy, h a rfl]
      simp

theorem timeFilter_true {b : Bool} {value : Json} (hvalue : record.get "timestamp" = .ok value)
    (h : timeFilter q record = .ok b) : b = true ↔ ¬OutsideText q (shownTime value) := by
  obtain ⟨found, hfound, htext⟩ := timeFilter_returns.mp ⟨b, h⟩
  obtain rfl := Except.ok.inj (hvalue.symm.trans hfound)
  rw [timeFilter, hvalue, Py.ok_bind] at h
  have hshown : ∀ a, a ∈ q.start ∨ a ∈ q.stop → value.or (.str "") = .str (shownTime value) := by
    rintro a (ha | ha)
    · exact or_empty_of_textOrFalse (htext (Or.inl (Option.isSome_of_mem ha)))
    · exact or_empty_of_textOrFalse (htext (Or.inr (Option.isSome_of_mem ha)))
  have hearly : boundedBy (fun start => (value.or (.str "")).lt (.str start)) q.start =
      .ok (decide (∃ a ∈ q.start, shownTime value < a)) := by
    apply boundedBy_eq_ok
    intro a ha
    rw [hshown a (Or.inl ha), Json.lt]
  have hlate : boundedBy (fun stop => (Json.str stop).lt (value.or (.str ""))) q.stop =
      .ok (decide (∃ a ∈ q.stop, a < shownTime value)) := by
    apply boundedBy_eq_ok
    intro a ha
    rw [hshown a (Or.inr ha), Json.lt]
  simp only [hearly, hlate, Py.ok_bind] at h
  rw [OutsideText, not_or]
  split_ifs at h with hbefore
  · obtain rfl := Except.ok.inj h
    apply iff_of_false Bool.false_ne_true
    intro hnone
    exact hnone.1 (of_decide_eq_true hbefore)
  · obtain rfl := Except.ok.inj h
    rw [decide_eq_true_iff] at hbefore
    rw [and_iff_right hbefore, Bool.not_eq_true', decide_eq_false_iff_not]

/-! ## The filters together -/

theorem recordMatches_returns : (∃ b, recordMatches q record = .ok b) ↔ Legible q record := by
  rw [recordMatches]
  constructor
  · rintro ⟨b, h⟩
    obtain ⟨hasId, hid, h⟩ := Py.bind_eq_ok.mp h
    refine ⟨idFilter_returns.mp ⟨hasId, hid⟩, ?_, ?_⟩
    · intro hselected
      rw [(idFilter_true hid).mpr hselected] at h
      obtain ⟨hasPeer, hpeer, -⟩ := Py.bind_eq_ok.mp h
      exact peerFilter_returns.mp ⟨hasPeer, hpeer⟩
    · intro hselected hpeers
      rw [(idFilter_true hid).mpr hselected] at h
      obtain ⟨hasPeer, hpeer, h⟩ := Py.bind_eq_ok.mp h
      rw [(peerFilter_true hpeer).mpr hpeers] at h
      exact timeFilter_returns.mp ⟨b, h⟩
  · intro h
    obtain ⟨hasId, hid⟩ := idFilter_returns.mpr h.id
    rw [hid, Py.ok_bind]
    cases hasId with
    | false => exact ⟨false, rfl⟩
    | true =>
        have hselected := (idFilter_true hid).mp rfl
        obtain ⟨hasPeer, hpeer⟩ := peerFilter_returns.mpr (h.peer hselected)
        simp only [hpeer, Py.ok_bind]
        cases hasPeer with
        | false => exact ⟨false, rfl⟩
        | true =>
          have hpeers := (peerFilter_true hpeer).mp rfl
          exact timeFilter_returns.mpr (h.time hselected hpeers)

/-- What is kept: what the id and the peer select, but for the times outside by their texts. -/
theorem recordMatches_true {b : Bool} (h : recordMatches q record = .ok b) :
    b = true ↔ IdSelected q record ∧ PeerSelected q record ∧
      ∀ value, record.get "timestamp" = .ok value → ¬OutsideText q (shownTime value) := by
  rw [recordMatches] at h
  obtain ⟨hasId, hid, h⟩ := Py.bind_eq_ok.mp h
  rw [← idFilter_true hid]
  cases hasId with
  | false =>
      obtain rfl := Except.ok.inj h
      simp
  | true =>
      obtain ⟨hasPeer, hpeer, h⟩ := Py.bind_eq_ok.mp h
      rw [← peerFilter_true hpeer]
      cases hasPeer with
      | false =>
        obtain rfl := Except.ok.inj h
        simp
      | true =>
        obtain ⟨value, hvalue, -⟩ := timeFilter_returns.mp ⟨b, h⟩
        rw [timeFilter_true hvalue h]
        simp [hvalue]

end

/-! ## Texts and instants -/

/-- A bound is misread, while the other neither excludes the time in both orders nor is misread
the other way. -/
def Misplaced (start stop : Option UtcText) (t : UtcText) : Prop :=
  let early := ∃ s ∈ start, t.text < s.text
  let late := ∃ e ∈ stop, e.text < t.text
  let startMisread := ∃ s ∈ start, t.Misread s
  let stopMisread := ∃ e ∈ stop, e.Misread t
  startMisread ∧ ¬stopMisread ∧ ¬late ∨ stopMisread ∧ ¬startMisread ∧ ¬early ∨
    startMisread ∧ stopMisread ∧ (early ↔ late)

/-- Two alternatives that differ from two others, by which of them differ. -/
theorem or_differs_iff {a b a' b' : Prop} :
    ¬(a ↔ a') ∧ ¬¬(b ↔ b') ∧ ¬b ∨ ¬(b ↔ b') ∧ ¬¬(a ↔ a') ∧ ¬a ∨ ¬(a ↔ a') ∧ ¬(b ↔ b') ∧ (a ↔ b) ↔
      ¬(a ∨ b ↔ a' ∨ b') := by
  by_cases ha : a <;> by_cases hb : b <;> by_cases ha' : a' <;> by_cases hb' : b' <;>
    simp [ha, hb, ha', hb']

theorem misplaced_iff {start stop : Option UtcText} {t : UtcText} : Misplaced start stop t ↔
    ¬((∃ s ∈ start, t.text < s.text) ∨ (∃ e ∈ stop, e.text < t.text) ↔
      (∃ s ∈ start, t.instant < s.instant) ∨ ∃ e ∈ stop, e.instant < t.instant) := by
  have hstart : (∃ s ∈ start, t.Misread s) ↔
      ¬((∃ s ∈ start, t.text < s.text) ↔ ∃ s ∈ start, t.instant < s.instant) := by
    cases start with
    | none => simp
    | some s =>
        simp only [Option.mem_def, Option.some.injEq, exists_eq_left',
          UtcText.text_lt_iff_instant, not_not]
  have hstop : (∃ e ∈ stop, e.Misread t) ↔
      ¬((∃ e ∈ stop, e.text < t.text) ↔ ∃ e ∈ stop, e.instant < t.instant) := by
    cases stop with
    | none => simp
    | some e =>
        simp only [Option.mem_def, Option.some.injEq, exists_eq_left',
          UtcText.text_lt_iff_instant, not_not]
  rw [Misplaced, hstart, hstop]
  exact or_differs_iff

theorem outsideText_time {q : Query} {start stop : Option UtcText}
    (hstart : q.start = start.map UtcText.text) (hstop : q.stop = stop.map UtcText.text)
    (t : UtcText) : OutsideText q t.text ↔
      (∃ s ∈ start, t.text < s.text) ∨ ∃ e ∈ stop, e.text < t.text := by
  rw [OutsideText, hstart, hstop]
  cases start <;> cases stop <;> simp

theorem At.not_untimed {record : Json} {t : UtcText} (ht : At record t) : ¬Untimed record := by
  rintro ⟨value, hvalue, hfalse⟩
  obtain rfl := Except.ok.inj (ht.symm.trans hvalue)
  rw [Json.truthy, decide_eq_false_iff_not, not_not] at hfalse
  exact t.text_ne_empty hfalse

theorem within_time {start stop : Option UtcText} {record : Json} {t : UtcText}
    (ht : At record t) : Within start stop record ↔
      ¬((∃ s ∈ start, t.instant < s.instant) ∨ ∃ e ∈ stop, e.instant < t.instant) := by
  have hinside : (∃ t, At record t ∧ (∀ s ∈ start, s.instant ≤ t.instant) ∧
      ∀ e ∈ stop, t.instant ≤ e.instant) ↔
      (∀ s ∈ start, s.instant ≤ t.instant) ∧ ∀ e ∈ stop, t.instant ≤ e.instant := by
    constructor
    · rintro ⟨t', ht', h⟩
      have htext : t'.text = t.text := Json.str.inj (Except.ok.inj (ht'.symm.trans ht))
      rwa [UtcText.instant_eq_of_text_eq htext] at h
    · intro h
      exact ⟨t, ht, h⟩
  rw [Within, hinside, or_iff_right fun h => ht.not_untimed h.1]
  push Not
  rfl

theorem within_untimed {start stop : Option UtcText} {record : Json} (h : Untimed record) :
    Within start stop record ↔ start = none ∧ stop = none := by
  have htimed : ¬∃ t, At record t ∧ (∀ s ∈ start, s.instant ≤ t.instant) ∧
      ∀ e ∈ stop, t.instant ≤ e.instant := by
    rintro ⟨t, ht, -⟩
    exact ht.not_untimed h
  rw [Within, or_iff_left htimed, and_iff_right h]

theorem empty_lt_iff {text : String} : "" < text ↔ text ≠ "" := by
  rw [String.lt_iff_toList_lt, ne_eq, ← String.toList_eq_nil_iff]
  cases text.toList <;> simp

theorem outsideText_untimed {q : Query} : OutsideText q "" ↔ given q.start = true := by
  have hstop : ¬∃ stop ∈ q.stop, stop < "" := by
    rintro ⟨stop, -, hlt⟩
    rw [String.lt_iff_toList_lt] at hlt
    exact List.not_lt_nil _ hlt
  rw [OutsideText, or_iff_left hstop, given]
  cases q.start with
  | none => simp
  | some start =>
      simp only [Option.mem_def, Option.some.injEq, exists_eq_left', empty_lt_iff, Option.any_some,
        decide_eq_true_eq]

/-! ## When the search finds what was asked for -/

structure Searchable (q : Query) (records : List Json) : Prop where
  legible : q.hasFilter = true → ∀ r ∈ records, Legible q r
  placed : ∀ start stop : Option UtcText, q.start = start.map UtcText.text →
    q.stop = stop.map UtcText.text → (∀ r ∈ records, Untimed r ∨ ∃ t, At r t) →
    ∀ r ∈ records, IdSelected q r → PeerSelected q r → ∀ t, At r t → ¬Misplaced start stop t
  timed : q.hasFilter = true → q.stop.isSome → given q.start = false →
    ∀ r ∈ records, IdSelected q r → PeerSelected q r → ¬Untimed r

/-- The results of a search that returned. -/
theorem findCapsules_eq_ok {read : Py (List Json × List ArchivedSegment)} {q : Query}
    {found : FinderResult} (h : findCapsules read q = .ok found) :
    ∃ archived, read = .ok (found.allRecords, archived) ∧
      (q.hasFilter = false ∧ found.results = [] ∨
        q.hasFilter = true ∧ (∀ r ∈ found.allRecords, ∃ b, recordMatches q r = .ok b) ∧
          found.results = found.allRecords.filter (marked (recordMatches q))) := by
  obtain ⟨⟨records, archived⟩, hread, h⟩ := Py.bind_eq_ok.mp h
  obtain ⟨results, hresults, h⟩ := Py.bind_eq_ok.mp h
  obtain rfl := Except.ok.inj h
  refine ⟨archived, hread, ?_⟩
  rw [searchResults] at hresults
  split_ifs at hresults with hfilter
  · obtain ⟨hall, rfl⟩ := filterM_eq_ok.mp hresults
    exact Or.inr ⟨hfilter, hall, rfl⟩
  · obtain rfl := Except.ok.inj hresults
    exact Or.inl ⟨Bool.eq_false_of_not_eq_true hfilter, rfl⟩

theorem findCapsules_returns {read : Py (List Json × List ArchivedSegment)} {q : Query}
    {records : List Json} {archived : List ArchivedSegment} (hread : read = .ok (records, archived))
    (hlegible : q.hasFilter = true → ∀ r ∈ records, Legible q r) :
    ∃ found, findCapsules read q = .ok found ∧ found.allRecords = records := by
  have hsearch : ∃ results, searchResults q records = .ok results := by
    rw [searchResults]
    split_ifs with hfilter
    · exact ⟨_, filterM_eq_ok.mpr ⟨fun r hr ↦ recordMatches_returns.mpr (hlegible hfilter r hr), rfl⟩⟩
    · exact ⟨[], rfl⟩
  obtain ⟨results, hresults⟩ := hsearch
  rw [findCapsules, hread, Py.ok_bind]
  simp only [hresults, Py.ok_bind]
  exact ⟨_, rfl, rfl⟩

section

variable {read : Py (List Json × List ArchivedSegment)} {q : Query} {found : FinderResult}

theorem mem_results (h : findCapsules read q = .ok found) {r : Json} : r ∈ found.results ↔
    r ∈ found.allRecords ∧ q.hasFilter = true ∧ IdSelected q r ∧ PeerSelected q r ∧
      ∀ value, r.get "timestamp" = .ok value → ¬OutsideText q (shownTime value) := by
  obtain ⟨archived, -, ⟨hfilter, hresults⟩ | ⟨hfilter, hall, hresults⟩⟩ := findCapsules_eq_ok h
  · simp [hresults, hfilter]
  · rw [hresults, List.mem_filter, and_congr_right_iff]
    intro hr
    obtain ⟨b, hb⟩ := hall r hr
    rw [marked_of_eq_ok hb, recordMatches_true hb, and_iff_right hfilter]

theorem results_eq_filter (h : findCapsules read q = .ok found) :
    ∃ p, found.results = found.allRecords.filter p := by
  obtain ⟨archived, -, ⟨-, hresults⟩ | ⟨-, -, hresults⟩⟩ := findCapsules_eq_ok h
  · refine ⟨fun _ => false, ?_⟩
    rw [hresults, List.filter_false]
  · exact ⟨_, hresults⟩

theorem mem_results_at (h : findCapsules read q = .ok found) {r : Json} {t : UtcText}
    (hr : r ∈ found.allRecords) (ht : At r t) {start stop : Option UtcText}
    (hstart : q.start = start.map UtcText.text) (hstop : q.stop = stop.map UtcText.text) :
    r ∈ found.results ↔ q.hasFilter = true ∧ IdSelected q r ∧ PeerSelected q r ∧
      ¬((∃ s ∈ start, t.text < s.text) ∨ ∃ e ∈ stop, e.text < t.text) := by
  have htime : (∀ value, r.get "timestamp" = .ok value → ¬OutsideText q (shownTime value)) ↔
      ¬OutsideText q t.text := by
    constructor
    · intro hall
      have hout := hall _ ht
      rwa [shownTime_str] at hout
    · intro hout value hvalue
      obtain rfl := Except.ok.inj (ht.symm.trans hvalue)
      rwa [shownTime_str]
  rw [mem_results h, and_iff_right hr, htime, outsideText_time hstart hstop]

theorem mem_results_untimed (h : findCapsules read q = .ok found) {r : Json}
    (hr : r ∈ found.allRecords) (huntimed : Untimed r) : r ∈ found.results ↔
      q.hasFilter = true ∧ IdSelected q r ∧ PeerSelected q r ∧ given q.start = false := by
  obtain ⟨value, hvalue, hfalse⟩ := huntimed
  have hshown : shownTime value = "" := by
    cases value with
    | str s =>
        rw [Json.truthy, decide_eq_false_iff_not, not_not] at hfalse
        exact hfalse
    | _ => rfl
  have htime : (∀ value, r.get "timestamp" = .ok value → ¬OutsideText q (shownTime value)) ↔
      given q.start = false := by
    rw [← Bool.not_eq_true, ← outsideText_untimed, ← hshown]
    constructor
    · intro hall
      exact hall value hvalue
    · intro hout value' hvalue'
      obtain rfl := Except.ok.inj (hvalue.symm.trans hvalue')
      exact hout
  rw [mem_results h, and_iff_right hr, htime]

theorem given_time {bound : Option UtcText} : given (bound.map UtcText.text) = bound.isSome := by
  cases bound with
  | none => rfl
  | some t => simp [given, t.text_ne_empty]

/-- A query without a bound misplaces nothing. -/
theorem hasFilter_of_misplaced {start stop : Option UtcText} {t : UtcText}
    (hstart : q.start = start.map UtcText.text) (hstop : q.stop = stop.map UtcText.text)
    (h : Misplaced start stop t) : q.hasFilter = true := by
  rw [Query.hasFilter, hstart, hstop, given_time, given_time]
  cases start with
  | some s => rfl
  | none =>
      cases stop with
      | some e => rfl
      | none =>
        rw [misplaced_iff] at h
        simp at h

theorem mem_iff_within (h : findCapsules read q = .ok found) {r : Json}
    (hr : r ∈ found.allRecords) {start stop : Option UtcText}
    (hstart : q.start = start.map UtcText.text) (hstop : q.stop = stop.map UtcText.text)
    {t : UtcText} (ht : At r t) (hselected : IdSelected q r ∧ PeerSelected q r) :
    (r ∈ found.results ↔ q.hasFilter = true ∧ IdSelected q r ∧ PeerSelected q r ∧
      Within start stop r) ↔ ¬Misplaced start stop t := by
  rw [mem_results_at h hr ht hstart hstop, within_time ht]
  constructor
  · intro hiff hmisplaced
    have hfilter := hasFilter_of_misplaced hstart hstop hmisplaced
    rw [misplaced_iff] at hmisplaced
    simp only [hfilter, hselected.1, hselected.2, true_and] at hiff
    exact hmisplaced (not_iff_not.mp hiff)
  · intro hplaced
    rw [misplaced_iff, not_not] at hplaced
    rw [hplaced]

theorem searchable_of_findsExactly (h : FindsExactly read q) :
    ∃ records archived, read = .ok (records, archived) ∧ Searchable q records := by
  classical
  obtain ⟨found, hfound, hexact, huntimed⟩ := h
  obtain ⟨archived, hread, hresults⟩ := findCapsules_eq_ok hfound
  refine ⟨found.allRecords, archived, hread, ?_, ?_, ?_⟩
  · intro hfilter r hr
    rcases hresults with ⟨hnone, -⟩ | ⟨-, hall, -⟩
    · rw [hfilter] at hnone
      cases hnone
    · exact recordMatches_returns.mp (hall r hr)
  · intro start stop hstart hstop htimes r hr hid hpeer t ht
    rw [← mem_iff_within hfound hr hstart hstop ht ⟨hid, hpeer⟩, hexact start stop hstart hstop
      htimes, List.mem_filter, and_iff_right hr, decide_eq_true_iff]
  · intro hfilter hbound hstart r hr hid hpeer hnone
    apply huntimed (Or.inr hbound) r ?_ hnone
    exact (mem_results_untimed hfound hr hnone).mpr ⟨hfilter, hid, hpeer, hstart⟩

theorem findsExactly_of_searchable {records : List Json} {archived : List ArchivedSegment}
    (hread : read = .ok (records, archived)) (h : Searchable q records) : FindsExactly read q := by
  classical
  obtain ⟨found, hfound, rfl⟩ := findCapsules_returns hread h.legible
  refine ⟨found, hfound, ?_, ?_⟩
  · intro start stop hstart hstop htimes
    obtain ⟨p, hp⟩ := results_eq_filter hfound
    rw [hp]
    apply List.filter_congr
    intro r hr
    have hmem : r ∈ found.results ↔ p r = true := by
      rw [hp, List.mem_filter, and_iff_right hr]
    rw [Bool.eq_iff_iff, decide_eq_true_iff, ← hmem]
    rcases htimes r hr with hnone | ⟨t, ht⟩
    · rw [mem_results_untimed hfound hr hnone, within_untimed hnone, hstart, given_time,
        Option.isSome_eq_false_iff, Option.isNone_iff_eq_none]
      constructor
      · rintro ⟨hfilter, hid, hpeer, hnoStart⟩
        refine ⟨hfilter, hid, hpeer, hnoStart, ?_⟩
        by_contra hsome
        have hgiven : given q.start = false := by rw [hstart, hnoStart]; rfl
        have hbound : q.stop.isSome = true := by
          rw [hstop, Option.isSome_map]
          exact Option.isSome_iff_ne_none.mpr hsome
        exact h.timed hfilter hbound hgiven r hr hid hpeer hnone
      · rintro ⟨hfilter, hid, hpeer, hnoStart, -⟩
        exact ⟨hfilter, hid, hpeer, hnoStart⟩
    · by_cases hselected : IdSelected q r ∧ PeerSelected q r
      · apply (mem_iff_within hfound hr hstart hstop ht hselected).mpr
        exact h.placed start stop hstart hstop htimes r hr hselected.1 hselected.2 t ht
      · rw [mem_results hfound]
        tauto
  · intro hbound r hr hnone
    have hmem := ((mem_results hfound).mp hr).1
    obtain ⟨hfilter, hid, hpeer, hstart⟩ := (mem_results_untimed hfound hmem hnone).mp hr
    have hstop := hbound.resolve_left fun hgiven => Bool.false_ne_true (hstart.symm.trans hgiven)
    exact h.timed hfilter hstop hstart r hmem hid hpeer hnone

end

/-- The search finds exactly what was asked for where the ledger can be read, every record can be
read as far as the filters go, no bound misplaces a time, and no record that the id and the peer
select is without one under an upper bound alone. -/
theorem findsExactly_iff (read : Py (List Json × List ArchivedSegment)) (q : Query) :
    FindsExactly read q ↔
      ∃ records archived, read = .ok (records, archived) ∧ Searchable q records := by
  constructor
  · exact searchable_of_findsExactly
  · rintro ⟨records, archived, hread, h⟩
    exact findsExactly_of_searchable hread h

theorem minute_in_hour : 0 < 60 := by decide

def newYear (fraction : List (Fin 10)) (zone : Zone) : UtcText where
  year := 2026
  month := 1
  day := 1
  hour := 0
  minute := 0
  second := 0
  fraction := fraction
  zone := zone
  year_lt := by decide
  month_range := by decide
  day_range := by decide
  hour_lt := by decide
  minute_lt := minute_in_hour
  second_range := by decide

def untimedRecord (capsuleId : Json) : Json := .obj [("capsule_id", capsuleId)]

def timedRecord (t : UtcText) : Json := .obj [("capsule_id", .str "a"), ("timestamp", .str t.text)]

/-- A capsule id that is a number, a fraction under a bound of whole seconds, and a record without
a time. -/
theorem searches_that_miss :
    ¬FindsExactly (.ok ([untimedRecord (.int 7)], [])) ⟨none, none, some "a", none⟩ ∧
    ¬FindsExactly (.ok ([timedRecord (newYear [5] .zulu)], []))
      ⟨some (newYear [] .zulu).text, none, none, none⟩ ∧
    ¬FindsExactly (.ok ([untimedRecord (.str "a")], []))
      ⟨none, some (newYear [] .zulu).text, none, none⟩ := by
  have hanyId : ∀ {start stop : Option String} {r : Json},
      IdSelected ⟨start, stop, none, none⟩ r := by
    rintro start stop r id ⟨⟩
  have hanyPeer : ∀ {start stop : Option String} {r : Json},
      PeerSelected ⟨start, stop, none, none⟩ r := by
    rintro start stop r peer ⟨⟩
  refine ⟨?_, ?_, ?_⟩
  · intro h
    obtain ⟨records, archived, hread, hsearch⟩ := searchable_of_findsExactly h
    obtain ⟨rfl, -⟩ := Prod.mk.inj (Except.ok.inj hread)
    have hlegible := hsearch.legible rfl _ (List.mem_singleton.mpr rfl)
    obtain ⟨rid, hrid, -⟩ := hlegible.id "a" rfl
    cases hrid
  · intro h
    obtain ⟨records, archived, hread, hsearch⟩ := searchable_of_findsExactly h
    obtain ⟨rfl, -⟩ := Prod.mk.inj (Except.ok.inj hread)
    have hat : At (timedRecord (newYear [5] .zulu)) (newYear [5] .zulu) := rfl
    apply hsearch.placed (some (newYear [] .zulu)) none rfl rfl ?_ _ (List.mem_singleton.mpr rfl)
      hanyId hanyPeer _ hat
    · left
      refine ⟨⟨_, rfl, rfl, ?_⟩, ?_, ?_⟩
      · exact (UtcText.fractionMisread_cons_nil _ _ _ _).mpr rfl
      · rintro ⟨e, ⟨⟩, -⟩
      · rintro ⟨e, ⟨⟩, -⟩
    · intro r hr
      obtain rfl := List.mem_singleton.mp hr
      exact Or.inr ⟨_, hat⟩
  · intro h
    obtain ⟨records, archived, hread, hsearch⟩ := searchable_of_findsExactly h
    obtain ⟨rfl, -⟩ := Prod.mk.inj (Except.ok.inj hread)
    have hfilter : Query.hasFilter ⟨none, some (newYear [] .zulu).text, none, none⟩ = true := by
      simp [Query.hasFilter, given, UtcText.text_ne_empty]
    apply hsearch.timed hfilter rfl rfl _ (List.mem_singleton.mpr rfl) hanyId hanyPeer
    exact ⟨.null, rfl, rfl⟩

end CapsuleMesh.Ledger
