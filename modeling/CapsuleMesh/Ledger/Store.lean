import CapsuleMesh.Python.Json
import CapsuleMesh.Library.Paging

/-!
# The ledger directory and its readers

`ledger_store_backend.py`.  A ledger is a flat `capsules.jsonl` or, once `manifest.json`
is there, a `LedgerStore`: closed segments, of which some may be archived, and the
active one.  The store numbers its records from one in the order of their appending;
its readers walk the segments and never look into an archived one.
-/

namespace CapsuleMesh.Ledger

open Python Library

/-- A closed segment.  An archived one keeps its manifest, but it is not mounted. -/
structure Segment where
  name : String
  records : List Json
  mounted : Bool

/-- How far above its start the reader looks for the end of the active segment. -/
def ACTIVE_WINDOW : ℕ := 10 ^ 9

/-- Segments are closed at a size in bytes that is below the window. -/
structure Store where
  closed : List Segment
  active : List Json
  active_le : active.length ≤ ACTIVE_WINDOW

namespace Store

def empty : Store := ⟨[], [], Nat.zero_le _⟩

def records (store : Store) : List Json :=
  store.closed.flatMap Segment.records ++ store.active

/-- `by_seq_range`. -/
def bySeqRange (store : Store) (lo hi : ℕ) : List (ℕ × Json) :=
  (numbered 1 store.records).filter fun r => decide (lo ≤ r.1 ∧ r.1 ≤ hi)

end Store

/-- The descriptor of an archived segment that overlaps the window. -/
structure ArchivedSegment where
  segment : String
  firstSeq : ℕ
  lastSeq : ℕ
  recordCount : ℕ
deriving DecidableEq

/-- `fetch_cap is not None and len(pairs) >= fetch_cap`. -/
def capReached (cap : Option ℕ) (pairs : List (ℕ × Json)) : Bool :=
  match cap with
  | none => false
  | some c => decide (c ≤ pairs.length)

/-- `hi`, lowered to what the page still needs. -/
def lastNeeded (cap : Option ℕ) (pairs : List (ℕ × Json)) (lo hi : ℕ) : ℕ :=
  match cap with
  | none => hi
  | some c => min hi (lo + (c - pairs.length) - 1)

/-- The segment walk of `_read_store_page`, from the segment whose first number is
`nextSeq`; the active segment comes last. -/
def walkSegments (store : Store) (cap : Option ℕ) (after : ℕ) : ℕ → List Segment →
    List (ℕ × Json) → List ArchivedSegment → List (ℕ × Json) × List ArchivedSegment
  | nextSeq, [], pairs, archived =>
      if capReached cap pairs then (pairs, archived)
      else
        let lo := max nextSeq (after + 1)
        let hi := lastNeeded cap pairs lo (lo + ACTIVE_WINDOW)
        if lo ≤ hi then (pairs ++ store.bySeqRange lo hi, archived) else (pairs, archived)
  | firstSeq, segment :: segments, pairs, archived =>
      if capReached cap pairs then (pairs, archived)
      else
        let lastSeq := firstSeq + segment.records.length - 1
        if lastSeq ≤ after then walkSegments store cap after (lastSeq + 1) segments pairs archived
        else if segment.mounted then
          let lo := max firstSeq (after + 1)
          let hits := store.bySeqRange lo (lastNeeded cap pairs lo lastSeq)
          walkSegments store cap after (lastSeq + 1) segments (pairs ++ hits) archived
        else
          walkSegments store cap after (lastSeq + 1) segments pairs
            (archived ++ [⟨segment.name, firstSeq, lastSeq, segment.records.length⟩])

/-- `_trim_page`: the record past the limit becomes the cursor. -/
def trimPage (pairs : List (ℕ × Json)) (limit : Option ℕ) : Py (List Json × Option ℕ) :=
  match limit with
  | none => .ok (pairs.map Prod.snd, none)
  | some n =>
      if n < pairs.length then
        match (pairs.take n).getLast? with
        | some last => .ok ((pairs.take n).map Prod.snd, some last.1)
        | none => .error .indexError
      else .ok (pairs.map Prod.snd, none)

def readStorePage (store : Store) (limit : Option ℕ) (after : ℕ) :
    Py (List Json × List ArchivedSegment × Option ℕ) := do
  let (pairs, archived) := walkSegments store (limit.map (· + 1)) after 1 store.closed [] []
  let (records, next) ← trimPage pairs limit
  return (records, archived, next)

/-- The line loop of `_read_flat_capsules_page`. -/
def readLines (cap : Option ℕ) (after : ℕ) : ℕ → List Json → List (ℕ × Json) → List (ℕ × Json)
  | _, [], pairs => pairs
  | seq, line :: lines, pairs =>
      if seq + 1 ≤ after then readLines cap after (seq + 1) lines pairs
      else if capReached cap (pairs ++ [(seq + 1, line)]) then pairs ++ [(seq + 1, line)]
      else readLines cap after (seq + 1) lines (pairs ++ [(seq + 1, line)])

/-- `capsules.jsonl`, by its lines that are not blank, and the store, which is there
once its manifest is. -/
structure LedgerDir where
  flat : Option (List Json)
  store : Option Store

namespace LedgerDir

def readFlatCapsulesPage (dir : LedgerDir) (limit : Option ℕ) (after : ℕ) :
    Py (List Json × Option ℕ) :=
  match dir.flat with
  | none => .ok ([], none)
  | some lines => trimPage (readLines (limit.map (· + 1)) after 0 lines []) limit

def readCapsulesPage (dir : LedgerDir) (limit : Option ℕ) (after : ℕ) :
    Py (List Json × List ArchivedSegment × Option ℕ) :=
  match dir.store with
  | some store => readStorePage store limit after
  | none => do
      let (records, next) ← dir.readFlatCapsulesPage limit after
      return (records, [], next)

def readAllCapsules (dir : LedgerDir) : Py (List Json × List ArchivedSegment) := do
  let (records, archived, _) ← dir.readCapsulesPage none 0
  return (records, archived)

end LedgerDir

/-! ## What the readers see -/

/-- The rows outside the archived segments. -/
def readableFrom (active : List Json) : ℕ → List Segment → List (ℕ × Json)
  | nextSeq, [] => numbered nextSeq active
  | firstSeq, segment :: segments =>
      (if segment.mounted then numbered firstSeq segment.records else []) ++
        readableFrom active (firstSeq + segment.records.length) segments

def Store.readable (store : Store) : List (ℕ × Json) := readableFrom store.active 1 store.closed

def LedgerDir.readable (dir : LedgerDir) : List (ℕ × Json) :=
  match dir.store with
  | some store => store.readable
  | none => numbered 1 (dir.flat.getD [])

theorem readableFrom_sublist (active : List Json) (firstSeq : ℕ) (segments : List Segment) :
    (readableFrom active firstSeq segments).Sublist
      (numbered firstSeq (segments.flatMap Segment.records ++ active)) := by
  induction segments generalizing firstSeq with
  | nil => exact List.Sublist.refl _
  | cons segment segments ih =>
      rw [List.flatMap_cons, List.append_assoc, numbered_append]
      refine List.Sublist.append ?_ (ih _)
      split
      · exact List.Sublist.refl _
      · exact List.nil_sublist _

theorem LedgerDir.readable_pairwise (dir : LedgerDir) :
    dir.readable.Pairwise fun r s => r.1 < s.1 := by
  unfold LedgerDir.readable
  split
  · exact (pairwise_numbered 1 _).sublist (readableFrom_sublist _ _ _)
  · exact pairwise_numbered 1 _

/-- The rows after a cursor. -/
def later (after : ℕ) (rows : List (ℕ × Json)) : List (ℕ × Json) :=
  rows.filter fun r => decide (after < r.1)

@[simp] theorem later_append (after : ℕ) (rows rows' : List (ℕ × Json)) :
    later after (rows ++ rows') = later after rows ++ later after rows' :=
  List.filter_append rows rows'

theorem later_zero_numbered (first : ℕ) (h : 0 < first) (records : List Json) :
    later 0 (numbered first records) = numbered first records := by
  refine List.filter_eq_self.mpr fun r hr => ?_
  have hbound := mem_numbered hr
  simp only [decide_eq_true_eq]
  omega

/-- One query of the walk finds what its segment contributes to the page. -/
theorem bySeqRange_segment {rows before rest pairs : List (ℕ × Json)} {first top : ℕ}
    {records : List Json} {cap : Option ℕ} (after : ℕ)
    (hrows : rows = before ++ (numbered first records ++ rest))
    (hbefore : ∀ r ∈ before, r.1 < first) (hrest : ∀ r ∈ rest, top < r.1)
    (htop : ∀ r ∈ numbered first records, r.1 ≤ top) (hcap : capReached cap pairs = false) :
    pairs ++ rows.filter (fun r => decide (max first (after + 1) ≤ r.1 ∧
      r.1 ≤ lastNeeded cap pairs (max first (after + 1)) top)) =
      capped cap (pairs ++ later after (numbered first records)) := by
  set lo := max first (after + 1) with hlo
  have hle : lastNeeded cap pairs lo top ≤ top := by
    cases cap with
    | none => exact Nat.le_refl _
    | some c => exact Nat.min_le_left _ _
  have hnone : before.filter (fun r => decide (lo ≤ r.1 ∧ r.1 ≤ lastNeeded cap pairs lo top)) =
      [] := by
    rw [List.filter_eq_nil_iff]
    intro r hr
    have := hbefore r hr
    simp only [decide_eq_true_eq]
    omega
  have hnone' : rest.filter (fun r => decide (lo ≤ r.1 ∧ r.1 ≤ lastNeeded cap pairs lo top)) =
      [] := by
    rw [List.filter_eq_nil_iff]
    intro r hr
    have := hrest r hr
    simp only [decide_eq_true_eq]
    omega
  have hlater : later after (numbered first records) =
      (numbered first records).filter fun r => decide (lo ≤ r.1) := by
    refine List.filter_congr fun r hr => ?_
    have hbound := mem_numbered hr
    simp only [decide_eq_decide]
    omega
  rw [hrows, List.filter_append, List.filter_append, hnone, hnone', List.nil_append,
    List.append_nil, hlater]
  cases cap with
  | none =>
      refine congrArg (pairs ++ ·) (List.filter_congr fun r hr => ?_)
      have := htop r hr
      simp [lastNeeded, this]
  | some c =>
      have hroom : pairs.length < c := by simpa [capReached] using hcap
      rw [capped, List.take_append, List.take_of_length_le (Nat.le_of_lt hroom),
        ← filter_numbered_window (c - pairs.length) records (by omega)]
      refine congrArg (pairs ++ ·) (List.filter_congr fun r hr => ?_)
      have := htop r hr
      refine decide_eq_decide.mpr ?_
      simp only [lastNeeded]
      omega

theorem capped_capped_append (cap : Option ℕ) (rows rows' : List (ℕ × Json)) :
    capped cap (capped cap rows ++ rows') = capped cap (rows ++ rows') := by
  cases cap with
  | none => rfl
  | some c =>
      simp only [capped, List.take_append, List.take_take, Nat.min_self, List.length_take]
      congr 2
      omega

theorem capped_of_capReached {cap : Option ℕ} {rows : List (ℕ × Json)}
    (hreached : capReached cap (capped cap rows) = true) (rows' : List (ℕ × Json)) :
    capped cap (rows ++ rows') = capped cap rows := by
  cases cap with
  | none => cases hreached
  | some c =>
      have hfull : c ≤ rows.length := by
        simp only [capReached, capped, List.length_take, decide_eq_true_eq] at hreached
        omega
      simp [capped, List.take_append_of_le_length hfull]

theorem le_lastNeeded {cap : Option ℕ} {pairs : List (ℕ × Json)}
    (hcap : capReached cap pairs = false) {lo hi : ℕ} (h : lo ≤ hi) :
    lo ≤ lastNeeded cap pairs lo hi := by
  cases cap with
  | none => exact h
  | some c =>
      have hroom : pairs.length < c := by simpa [capReached] using hcap
      simp only [lastNeeded]
      omega

/-- The walk collects the readable rows after the cursor, up to its cap. -/
theorem walkSegments_pairs {store : Store} {cap : Option ℕ} {after first : ℕ}
    {segments : List Segment} {before rows : List (ℕ × Json)} (archived : List ArchivedSegment)
    (hfirst : 0 < first)
    (hstore : numbered 1 store.records =
      before ++ numbered first (segments.flatMap Segment.records ++ store.active))
    (hbefore : ∀ r ∈ before, r.1 < first) :
    (walkSegments store cap after first segments (capped cap rows) archived).1 =
      capped cap (rows ++ later after (readableFrom store.active first segments)) := by
  induction segments generalizing first before rows archived with
  | nil =>
      rw [walkSegments]
      cases hreached : capReached cap (capped cap rows) with
      | true => rw [if_pos rfl, capped_of_capReached hreached]
      | false =>
        have hwithin : ∀ r ∈ numbered first store.active,
            r.1 ≤ max first (after + 1) + ACTIVE_WINDOW := by
          intro r hr
          have hbound := mem_numbered hr
          have := store.active_le
          omega
        have hrows : numbered 1 store.records =
            before ++ (numbered first store.active ++ []) := by simpa using hstore
        have hhits := bySeqRange_segment after hrows hbefore (by simp) hwithin hreached
        simp only [Bool.false_eq_true, if_false]
        rw [if_pos (le_lastNeeded hreached (Nat.le_add_right _ _)), Store.bySeqRange, hhits,
          capped_capped_append, readableFrom]
  | cons segment segments ih =>
      rw [walkSegments]
      cases hreached : capReached cap (capped cap rows) with
      | true => rw [if_pos rfl, capped_of_capReached hreached]
      | false =>
        have hnext : first + segment.records.length - 1 + 1 = first + segment.records.length := by
          omega
        have hsplit : numbered 1 store.records = (before ++ numbered first segment.records) ++
            numbered (first + segment.records.length)
              (segments.flatMap Segment.records ++ store.active) := by
          rw [hstore, List.flatMap_cons, List.append_assoc, numbered_append, List.append_assoc]
        have hbefore' : ∀ r ∈ before ++ numbered first segment.records,
            r.1 < first + segment.records.length := by
          intro r hr
          rcases List.mem_append.mp hr with hr | hr
          · have := hbefore r hr
            omega
          · exact (mem_numbered hr).2
        simp only [Bool.false_eq_true, if_false, hnext]
        rw [readableFrom, later_append]
        by_cases hwindow : first + segment.records.length - 1 ≤ after
        · -- The whole segment lies before the window.
          have hnone : later after (if segment.mounted = true then
              numbered first segment.records else []) = [] := by
            refine List.filter_eq_nil_iff.mpr fun r hr => ?_
            have hmem : r ∈ numbered first segment.records := by
              split at hr
              · exact hr
              · cases hr
            have hbound := mem_numbered hmem
            simp only [decide_eq_true_eq]
            omega
          rw [if_pos hwindow, hnone, List.nil_append]
          exact ih archived (by omega) hsplit hbefore'
        · rw [if_neg hwindow]
          cases hmounted : segment.mounted with
          | false =>
            simp only [Bool.false_eq_true, if_false]
            exact ih _ (by omega) hsplit hbefore'
          | true =>
            have hlast : ∀ r ∈ numbered first segment.records,
                r.1 ≤ first + segment.records.length - 1 := by
              intro r hr
              have hbound := mem_numbered hr
              omega
            have hrest : ∀ r ∈ numbered (first + segment.records.length)
                (segments.flatMap Segment.records ++ store.active),
                first + segment.records.length - 1 < r.1 := by
              intro r hr
              have hbound := mem_numbered hr
              omega
            have hhits := bySeqRange_segment after (hsplit.trans (List.append_assoc _ _ _))
              hbefore hrest hlast hreached
            simp only [if_true]
            rw [Store.bySeqRange, hhits, capped_capped_append, ← List.append_assoc]
            exact ih archived (by omega) hsplit hbefore'

theorem readLines_eq {cap : Option ℕ} (after seq : ℕ) (lines : List Json)
    {pairs : List (ℕ × Json)} (hcap : capReached cap pairs = false) :
    readLines cap after seq lines pairs =
      capped cap (pairs ++ later after (numbered (seq + 1) lines)) := by
  induction lines generalizing seq pairs with
  | nil =>
      rw [readLines, numbered_nil, later, List.filter_nil, List.append_nil]
      cases cap with
      | none => rfl
      | some c =>
        have hroom : pairs.length < c := by simpa [capReached] using hcap
        rw [capped, List.take_of_length_le (Nat.le_of_lt hroom)]
  | cons line lines ih =>
      rw [readLines, numbered, later]
      by_cases hbefore : seq + 1 ≤ after
      · rw [if_pos hbefore, List.filter_cons_of_neg (by simpa using hbefore)]
        exact ih (seq + 1) hcap
      · rw [if_neg hbefore, List.filter_cons_of_pos (by simpa using hbefore)]
        cases hreached : capReached cap (pairs ++ [(seq + 1, line)]) with
        | false =>
          rw [if_neg Bool.false_ne_true, ih (seq + 1) hreached, List.append_assoc]
          rfl
        | true =>
          rw [if_pos rfl]
          cases cap with
          | none => cases hreached
          | some c =>
            have hroom : pairs.length < c := by simpa [capReached] using hcap
            have hfull : c ≤ pairs.length + 1 := by simpa [capReached] using hreached
            have hlength : (pairs ++ [(seq + 1, line)]).length = c := by
              rw [List.length_append, List.length_singleton]
              omega
            have hsplit := List.append_cons pairs (seq + 1, line)
              (later after (numbered (seq + 1 + 1) lines))
            exact (hlength ▸ List.take_append_length).symm.trans
              (congrArg (List.take c) hsplit.symm)

theorem trimPage_capped {limit : ℕ} (hlimit : 0 < limit) (rows : List (ℕ × Json)) (after : ℕ) :
    trimPage (capped (some (limit + 1)) (later after rows)) (some limit) =
      .ok (pageAfter rows limit after) := by
  have hlater : rows.filter (fun r => decide (after < r.1)) = later after rows := rfl
  simp only [pageAfter, hlater, trimPage, capped, List.length_take]
  by_cases hmore : limit < (later after rows).length
  · have htake : ((later after rows).take (limit + 1)).take limit = (later after rows).take limit := by
      rw [List.take_take, Nat.min_eq_left (Nat.le_succ _)]
    obtain ⟨last, hlast⟩ : ∃ last, ((later after rows).take limit).getLast? = some last := by
      rw [← Option.isSome_iff_exists, List.getLast?_isSome, ne_eq, List.take_eq_nil_iff]
      rintro (h | h)
      · omega
      · simp [h] at hmore
    rw [if_pos (by omega), if_pos hmore, htake, hlast]
    rfl
  · rw [if_neg (by omega), if_neg hmore, List.take_of_length_le (by omega)]

theorem walkSegments_closed (store : Store) (cap : Option ℕ) (after : ℕ) :
    (walkSegments store cap after 1 store.closed [] []).1 =
      capped cap (later after store.readable) := by
  have hnil : capped cap ([] : List (ℕ × Json)) = [] := by cases cap <;> simp [capped]
  have hwalk := @walkSegments_pairs store cap after 1 store.closed [] [] [] Nat.one_pos rfl (by simp)
  rw [hnil] at hwalk
  exact hwalk

theorem Store.readable_later_zero (store : Store) : later 0 store.readable = store.readable := by
  refine List.filter_eq_self.mpr fun r hr => ?_
  have hbound := mem_numbered ((readableFrom_sublist _ _ _).subset hr)
  simp only [decide_eq_true_eq]
  omega

namespace LedgerDir

theorem readable_later_zero (dir : LedgerDir) : later 0 dir.readable = dir.readable := by
  unfold LedgerDir.readable
  split
  · exact Store.readable_later_zero _
  · exact later_zero_numbered 1 Nat.one_pos _

/-- The descriptors that the walk for a page collects. -/
def archivedSeen (dir : LedgerDir) (limit : Option ℕ) (after : ℕ) : List ArchivedSegment :=
  match dir.store with
  | some store => (walkSegments store (limit.map (· + 1)) after 1 store.closed [] []).2
  | none => []

/-- A page holds the readable records after its cursor. -/
theorem readCapsulesPage_eq (dir : LedgerDir) {limit : ℕ} (hlimit : 0 < limit) (after : ℕ) :
    dir.readCapsulesPage (some limit) after =
      .ok ((pageAfter dir.readable limit after).1, dir.archivedSeen (some limit) after,
        (pageAfter dir.readable limit after).2) := by
  unfold readCapsulesPage LedgerDir.readable archivedSeen
  cases hstore : dir.store with
  | some store =>
      simp only [readStorePage, Option.map_some, walkSegments_closed, trimPage_capped hlimit]
      rfl
  | none =>
      cases hflat : dir.flat with
      | none => simp [readFlatCapsulesPage, hflat, pageAfter]
      | some lines =>
        have hcap : capReached (some (limit + 1)) [] = false := rfl
        simp only [readFlatCapsulesPage, hflat, Option.map_some, readLines_eq after 0 lines hcap,
          List.nil_append, trimPage_capped hlimit]
        rfl

/-- Every readable record, in the order of appending. -/
theorem readAllCapsules_eq (dir : LedgerDir) :
    dir.readAllCapsules = .ok (dir.readable.map Prod.snd, dir.archivedSeen none 0) := by
  unfold readAllCapsules readCapsulesPage LedgerDir.readable archivedSeen
  cases hstore : dir.store with
  | some store =>
      simp only [readStorePage, Option.map_none, walkSegments_closed, trimPage, capped,
        store.readable_later_zero]
      rfl
  | none =>
      cases hflat : dir.flat with
      | none => simp [readFlatCapsulesPage, hflat]
      | some lines =>
        have hcap : capReached none [] = false := rfl
        simp only [readFlatCapsulesPage, hflat, Option.map_none, readLines_eq 0 0 lines hcap,
          List.nil_append, later_zero_numbered 1 Nat.one_pos, trimPage, capped]
        rfl

end LedgerDir

end CapsuleMesh.Ledger
