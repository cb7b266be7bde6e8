import CapsuleMesh.Ledger.Store

/-!
# Following the cursor of a ledger

`next_after_seq` leads from page to page.  The pages together hold the readable
records once and in order, and no archived segment goes unreported: a page either
walks to the end of the log, or it holds a record from behind every segment that
the next cursor leaves behind.
-/

namespace CapsuleMesh.Ledger

open Python Library

/-- The descriptors of the archived segments. -/
def archivedFrom : ℕ → List Segment → List ArchivedSegment
  | _, [] => []
  | firstSeq, segment :: segments =>
      let count := segment.records.length
      (if segment.mounted then []
        else [⟨segment.name, firstSeq, firstSeq + count - 1, count⟩]) ++
        archivedFrom (firstSeq + count) segments

def LedgerDir.archived (dir : LedgerDir) : List ArchivedSegment :=
  match dir.store with
  | some store => archivedFrom 1 store.closed
  | none => []

/-- The records and the descriptors of one page. -/
abbrev Page := List Json × List ArchivedSegment

/-- The pages from a cursor on, until there is no next one; `none` when that takes
more than `fuel` pages. -/
def LedgerDir.followPages (dir : LedgerDir) (limit : ℕ) : ℕ → ℕ → Py (Option (List Page))
  | 0, _ => .ok none
  | fuel + 1, after => do
      let (records, archived, next) ← dir.readCapsulesPage (some limit) after
      match next with
      | none => return some [(records, archived)]
      | some cursor =>
        let rest ← dir.followPages limit fuel cursor
        return rest.map ((records, archived) :: ·)

/-! ## The descriptors of one walk -/

theorem le_lastSeq_of_mem {firstSeq : ℕ} {segments : List Segment} {d : ArchivedSegment}
    (h : d ∈ archivedFrom firstSeq segments) : firstSeq ≤ d.lastSeq + 1 := by
  induction segments generalizing firstSeq with
  | nil => cases h
  | cons segment segments ih =>
      rcases List.mem_append.mp h with h | h
      · split at h
        · cases h
        · obtain rfl := List.mem_singleton.mp h
          simp only
          omega
      · have := ih h
        omega

/-- A segment with records ends where its range says. -/
theorem pos_lastSeq_of_mem {firstSeq : ℕ} (hfirst : 0 < firstSeq) {segments : List Segment}
    (hrecords : ∀ segment ∈ segments, segment.records ≠ []) {d : ArchivedSegment}
    (h : d ∈ archivedFrom firstSeq segments) : 0 < d.lastSeq := by
  induction segments generalizing firstSeq with
  | nil => cases h
  | cons segment segments ih =>
      have hlength := List.length_pos_of_ne_nil (hrecords segment (by simp))
      rcases List.mem_append.mp h with h | h
      · split at h
        · cases h
        · obtain rfl := List.mem_singleton.mp h
          simp only
          omega
      · exact ih (by omega) (fun s hs => hrecords s (by simp [hs])) h

/-- One step of the walk: either the page is full, or the segment is passed, and
then its rows and its descriptor are where they belong. -/
theorem walkSegments_cons (store : Store) {cap : Option ℕ} (after : ℕ) {firstSeq : ℕ}
    (hfirst : 0 < firstSeq) (segment : Segment) (segments : List Segment)
    (pairs : List (ℕ × Json)) (archived : List ArchivedSegment)
    (hcap : capReached cap pairs = false) :
    ∃ hits descriptors,
      walkSegments store cap after firstSeq (segment :: segments) pairs archived =
        walkSegments store cap after (firstSeq + segment.records.length) segments (pairs ++ hits)
          (archived ++ descriptors) ∧
      (∀ r ∈ hits, r.1 < firstSeq + segment.records.length) ∧
      descriptors = (archivedFrom firstSeq [segment]).filter fun d ↦ decide (after < d.lastSeq) := by
  have hnext : firstSeq + segment.records.length - 1 + 1 = firstSeq + segment.records.length := by
    omega
  rw [walkSegments, hcap]
  simp only [Bool.false_eq_true, if_false, hnext, archivedFrom, List.append_nil]
  by_cases hwindow : firstSeq + segment.records.length - 1 ≤ after
  · refine ⟨[], [], by rw [if_pos hwindow, List.append_nil, List.append_nil], by simp, ?_⟩
    symm
    rw [List.filter_eq_nil_iff]
    intro d hd
    split at hd
    · cases hd
    · obtain rfl := List.mem_singleton.mp hd
      simpa using hwindow
  · rw [if_neg hwindow]
    cases hmounted : segment.mounted with
    | false =>
        refine ⟨[], [⟨segment.name, firstSeq, firstSeq + segment.records.length - 1,
          segment.records.length⟩], by simp, by simp, ?_⟩
        have hafter : after < firstSeq + segment.records.length - 1 := Nat.lt_of_not_le hwindow
        simp [hafter]
    | true =>
        refine ⟨_, [], by simp only [if_true, List.append_nil]; rfl, ?_, by simp⟩
        intro r hr
        have hrange := (List.mem_filter.mp hr).2
        have hle : lastNeeded cap pairs (max firstSeq (after + 1))
            (firstSeq + segment.records.length - 1) ≤ firstSeq + segment.records.length - 1 := by
          cases cap with
          | none => exact Nat.le_refl _
          | some c => exact Nat.min_le_left _ _
        simp only [decide_eq_true_eq] at hrange
        omega

/-- What the walk reports: only archived segments, and each one that reaches behind
the cursor unless the page was full before it was reached. -/
theorem walkSegments_archived {store : Store} {cap : Option ℕ} {after firstSeq : ℕ}
    (hfirst : 0 < firstSeq) {segments : List Segment} {pairs : List (ℕ × Json)}
    (hpairs : ∀ r ∈ pairs, r.1 < firstSeq) (archived : List ArchivedSegment) :
    let result := walkSegments store cap after firstSeq segments pairs archived
    (∀ d ∈ archived, d ∈ result.2) ∧
    (∀ d ∈ result.2, d ∈ archived ∨ d ∈ archivedFrom firstSeq segments) ∧
    (∀ d ∈ archivedFrom firstSeq segments, after < d.lastSeq →
      (capReached cap result.1 = false ∨ ∃ r ∈ result.1, d.lastSeq < r.1) → d ∈ result.2) := by
  induction segments generalizing firstSeq pairs archived with
  | nil =>
      have harchived : (walkSegments store cap after firstSeq [] pairs archived).2 = archived := by
        rw [walkSegments]
        split
        · rfl
        · dsimp only
          split <;> rfl
      intro result
      rw [harchived]
      exact ⟨fun _ hd => hd, fun _ hd => .inl hd, fun _ hd => by cases hd⟩
  | cons segment segments ih =>
      intro result
      cases hcap : capReached cap pairs with
      | true =>
        have hresult : result = (pairs, archived) := by
          simp only [result]
          rw [walkSegments, if_pos hcap]
        rw [hresult]
        refine ⟨fun _ hd => hd, fun _ hd => .inl hd, ?_⟩
        -- the page was full: no row of it comes from behind this segment
        rintro d hd - (hnot | ⟨r, hr, hlast⟩)
        · rw [hcap] at hnot
          cases hnot
        · have hle := le_lastSeq_of_mem hd
          have hlt := hpairs r hr
          omega
      | false =>
        obtain ⟨hits, descriptors, hwalk, hhits, hdescriptors⟩ :=
          walkSegments_cons store after hfirst segment segments pairs archived hcap
        have hpairs' : ∀ r ∈ pairs ++ hits, r.1 < firstSeq + segment.records.length := by
          intro r hr
          rcases List.mem_append.mp hr with hr | hr
          · have := hpairs r hr
            omega
          · exact hhits r hr
        obtain ⟨hkeep, honly, hall⟩ := ih (by omega) hpairs' (archived ++ descriptors)
        simp only [result, hwalk]
        have hsplit : archivedFrom firstSeq (segment :: segments) =
            archivedFrom firstSeq [segment] ++
              archivedFrom (firstSeq + segment.records.length) segments := by
          simp [archivedFrom]
        rw [hsplit]
        refine ⟨fun d hd => hkeep d (List.mem_append_left _ hd), ?_, ?_⟩
        · intro d hd
          rcases honly d hd with hd | hd
          · rcases List.mem_append.mp hd with hd | hd
            · exact .inl hd
            · rw [hdescriptors] at hd
              exact .inr (List.mem_append_left _ (List.mem_of_mem_filter hd))
          · exact .inr (List.mem_append_right _ hd)
        · intro d hd hafter hseen
          rcases List.mem_append.mp hd with hd | hd
          · refine hkeep d (List.mem_append_right _ ?_)
            rw [hdescriptors]
            exact List.mem_filter.mpr ⟨hd, by simpa using hafter⟩
          · exact hall d hd hafter hseen

/-- The same for the walk over a whole store. -/
theorem walkSegments_closed_archived (store : Store) (cap : Option ℕ) (after : ℕ) :
    let result := walkSegments store cap after 1 store.closed [] []
    (∀ d ∈ result.2, d ∈ archivedFrom 1 store.closed) ∧
    (∀ d ∈ archivedFrom 1 store.closed, after < d.lastSeq →
      (capReached cap result.1 = false ∨ ∃ r ∈ result.1, d.lastSeq < r.1) → d ∈ result.2) := by
  intro result
  have hnone : ∀ r ∈ ([] : List (ℕ × Json)), r.1 < 1 := by simp
  obtain ⟨-, honly, hall⟩ := @walkSegments_archived store cap after 1 Nat.one_pos store.closed []
    hnone []
  exact ⟨fun d hd => (honly d hd).resolve_left (by simp), hall⟩

namespace LedgerDir

/-! ## The descriptors of one page -/

theorem archivedSeen_subset (dir : LedgerDir) (limit : Option ℕ) (after : ℕ) :
    ∀ d ∈ dir.archivedSeen limit after, d ∈ dir.archived := by
  unfold archivedSeen LedgerDir.archived
  cases dir.store with
  | none => exact fun d hd => hd
  | some store => exact (walkSegments_closed_archived store _ after).1

/-- A page reports the archived segments that end between its cursor and the next
one, or behind its cursor if it is the last page. -/
theorem mem_archivedSeen {dir : LedgerDir} {limit : ℕ} (hlimit : 0 < limit) {after : ℕ}
    {d : ArchivedSegment} (hd : d ∈ dir.archived) (hafter : after < d.lastSeq)
    (hnext : ∀ cursor, (pageAfter dir.readable limit after).2 = some cursor → d.lastSeq ≤ cursor) :
    d ∈ dir.archivedSeen (some limit) after := by
  have hcases := pageAfter_cases dir.readable_pairwise hlimit after
  unfold archivedSeen
  unfold LedgerDir.archived at hd
  cases hstore : dir.store with
  | none => simp [hstore] at hd
  | some store =>
      rw [hstore] at hd
      have hreadable : dir.readable = store.readable := by simp [LedgerDir.readable, hstore]
      rw [hreadable] at hcases hnext
      refine (walkSegments_closed_archived store _ after).2 d hd hafter ?_
      rw [walkSegments_closed, Option.map_some]
      change _ ∨ ∃ r ∈ (later after store.readable).take (limit + 1), _
      obtain ⟨hshort, -⟩ | ⟨last, hmore, -, hpage, hrest⟩ := hcases
      · left
        have : (later after store.readable).length ≤ limit := hshort
        simp only [capReached, capped, List.length_take, decide_eq_false_iff_not]
        omega
      · -- the record past the limit lies behind the next cursor
        right
        rw [hpage] at hnext
        change limit < (later after store.readable).length at hmore
        refine ⟨(later after store.readable)[limit], ?_, ?_⟩
        · exact List.mem_take_iff_getElem.mpr ⟨limit, by omega, rfl⟩
        · have hmem : (later after store.readable)[limit] ∈
              (later after store.readable).drop limit := by
            rw [List.drop_eq_getElem_cons hmore]
            exact List.mem_cons_self
          rw [← show _ = (later after store.readable).drop limit from hrest] at hmem
          have hbehind : last.1 < (later after store.readable)[limit].1 := by
            simpa using (List.mem_filter.mp hmem).2
          exact Nat.lt_of_le_of_lt (hnext last.1 rfl) hbehind

/-! ## All pages -/

/-- From any cursor on, the pages are found, hold the records after the cursor in
order, and report the archived segments that end after it. -/
theorem followPages_from (dir : LedgerDir) {limit : ℕ} (hlimit : 0 < limit) (n after : ℕ)
    (hn : (later after dir.readable).length = n) :
    ∃ pages, (∀ fuel, n < fuel → dir.followPages limit fuel after = .ok (some pages)) ∧
      pages.flatMap Prod.fst = (later after dir.readable).map Prod.snd ∧
      (∀ d ∈ pages.flatMap Prod.snd, d ∈ dir.archived) ∧
      (∀ d ∈ dir.archived, after < d.lastSeq → d ∈ pages.flatMap Prod.snd) := by
  induction n using Nat.strong_induction_on generalizing after with
  | _ n ih =>
      have hread := dir.readCapsulesPage_eq hlimit after
      have hsubset := dir.archivedSeen_subset (some limit) after
      have hseen : ∀ d ∈ dir.archived, after < d.lastSeq → _ → d ∈ _ :=
        fun d hd hafter => mem_archivedSeen hlimit hd hafter
      obtain ⟨hshort, hpage⟩ | ⟨last, hmore, hlast, hpage, hrest⟩ :=
        pageAfter_cases dir.readable_pairwise hlimit after
      · rw [hpage] at hread hseen
        refine ⟨[((later after dir.readable).map Prod.snd, dir.archivedSeen (some limit) after)],
          ?_, by simp, by simpa using hsubset, ?_⟩
        · intro fuel hfuel
          obtain ⟨fuel, rfl⟩ := Nat.exists_eq_succ_of_ne_zero (by omega : fuel ≠ 0)
          rw [followPages, hread]
          rfl
        · intro d hd hafter
          simpa using hseen d hd hafter (by simp)
      · rw [hpage] at hread hseen
        change limit < (later after dir.readable).length at hmore
        change later last.1 dir.readable = (later after dir.readable).drop limit at hrest
        have hfewer : (later last.1 dir.readable).length < n := by
          rw [hrest, List.length_drop]
          omega
        obtain ⟨pages, hpages, hrecords, honly, hall⟩ := ih _ hfewer last.1 rfl
        refine ⟨(((later after dir.readable).take limit).map Prod.snd,
          dir.archivedSeen (some limit) after) :: pages, ?_, ?_, ?_, ?_⟩
        · intro fuel hfuel
          obtain ⟨fuel, rfl⟩ := Nat.exists_eq_succ_of_ne_zero (by omega : fuel ≠ 0)
          rw [followPages, hread]
          simp only [Py.ok_bind, hpages fuel (by omega)]
          rfl
        · rw [List.flatMap_cons, hrecords, hrest, ← List.map_append, List.take_append_drop]
        · intro d hd
          rw [List.flatMap_cons] at hd
          rcases List.mem_append.mp hd with hd | hd
          · exact hsubset d hd
          · exact honly d hd
        · intro d hd hafter
          rw [List.flatMap_cons]
          by_cases hbehind : last.1 < d.lastSeq
          · exact List.mem_append_right _ (hall d hd hbehind)
          · refine List.mem_append_left _ (hseen d hd hafter ?_)
            rintro cursor hcursor
            obtain rfl : last.1 = cursor := by simpa using hcursor
            omega

theorem archivedSeen_all {dir : LedgerDir} {d : ArchivedSegment} (hd : d ∈ dir.archived)
    (hpos : 0 < d.lastSeq) : d ∈ dir.archivedSeen none 0 := by
  unfold archivedSeen
  unfold LedgerDir.archived at hd
  cases hstore : dir.store with
  | none => simp [hstore] at hd
  | some store =>
      rw [hstore] at hd
      exact (walkSegments_closed_archived store _ 0).2 d hd hpos (.inl rfl)

/-- Every closed segment has a sequence range. -/
def SegmentsHaveRecords (dir : LedgerDir) : Prop :=
  ∀ store, dir.store = some store → ∀ segment ∈ store.closed, segment.records ≠ []

theorem SegmentsHaveRecords.pos_lastSeq {dir : LedgerDir} (h : dir.SegmentsHaveRecords)
    {d : ArchivedSegment} (hd : d ∈ dir.archived) : 0 < d.lastSeq := by
  unfold LedgerDir.archived at hd
  cases hstore : dir.store with
  | none => simp [hstore] at hd
  | some store =>
      rw [hstore] at hd
      exact pos_lastSeq_of_mem Nat.one_pos (h store hstore) hd

/-- Following the cursor ends, and the pages together are the whole reading: its
records in their order, and every archived segment. -/
theorem followPages_readAllCapsules (dir : LedgerDir) (hsegments : dir.SegmentsHaveRecords)
    {limit : ℕ} (hlimit : 1 ≤ limit) :
    ∃ pages records archived,
      (∀ fuel, dir.readable.length < fuel → dir.followPages limit fuel 0 = .ok (some pages)) ∧
      dir.readAllCapsules = .ok (records, archived) ∧
      pages.flatMap Prod.fst = records ∧
      (∀ d, d ∈ pages.flatMap Prod.snd ↔ d ∈ dir.archived) ∧
      (∀ d, d ∈ archived ↔ d ∈ dir.archived) := by
  have hall := congrArg List.length dir.readable_later_zero
  obtain ⟨pages, hpages, hrecords, honly, hseen⟩ := dir.followPages_from hlimit _ 0 hall
  rw [readable_later_zero] at hrecords
  refine ⟨pages, _, _, hpages, dir.readAllCapsules_eq, hrecords, ?_, ?_⟩
  · exact fun d => ⟨honly d, fun hd => hseen d hd (hsegments.pos_lastSeq hd)⟩
  · exact fun d => ⟨dir.archivedSeen_subset none 0 d,
      fun hd => archivedSeen_all hd (hsegments.pos_lastSeq hd)⟩

/-- A mounted segment, an archived one and an active one. -/
def withHole : LedgerDir where
  flat := none
  store := some ⟨[⟨"s1", [.int 1, .int 2], true⟩, ⟨"s2", [.int 3], false⟩], [.int 4],
    by simp [ACTIVE_WINDOW]⟩

theorem followPages_readAllCapsules_withHole :
    ∃ pages, withHole.followPages 1 4 0 = .ok (some pages) ∧
      pages.flatMap Prod.fst = [.int 1, .int 2, .int 4] ∧
      (⟨"s2", 3, 3, 1⟩ : ArchivedSegment) ∈ pages.flatMap Prod.snd := by
  have hsegments : withHole.SegmentsHaveRecords := by
    rintro store hstore segment hsegment
    obtain rfl := Option.some.inj hstore
    rcases List.mem_cons.mp hsegment with rfl | hsegment
    · simp
    · obtain rfl := List.mem_singleton.mp hsegment
      simp
  obtain ⟨pages, records, archived, hpages, hall, hrecords, harchived, -⟩ :=
    followPages_readAllCapsules withHole hsegments (Nat.le_refl 1)
  obtain rfl : [.int 1, .int 2, .int 4] = records := by
    have hread : withHole.readAllCapsules =
        .ok ([.int 1, .int 2, .int 4], withHole.archivedSeen none 0) := withHole.readAllCapsules_eq
    rw [hread] at hall
    exact (Prod.mk.inj (Except.ok.inj hall)).1
  exact ⟨pages, hpages 4 (by decide), hrecords, (harchived _).mpr (by decide)⟩

end LedgerDir

end CapsuleMesh.Ledger
