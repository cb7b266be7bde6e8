import CapsuleMesh.Library.Windows
import CapsuleMesh.Python.Timestamps
import CapsuleMesh.Sidecar.NativeJoin

/-!
# Shutdown windows of timestamps

`shutdown_windows` sorts the lifecycle events by their timestamps and `_in_window` compares those of
the rows with them, all as texts that `_utc_now_iso` wrote.
-/

namespace CapsuleMesh.Sidecar

open Python Library

/-- A lifecycle event and when it was recorded. -/
structure Marker where
  event : String
  instant : UtcTime

def Marker.mark (m : Marker) : Mark :=
  if m.event = LIFECYCLE_RUNTIME_SHUTDOWN_BEGIN then .opens
  else if m.event = LIFECYCLE_RUNTIME_SHUTDOWN_END then .closes
  else .neither

/-- The event in `lifecycle_events.jsonl`. -/
def Marker.line (m : Marker) : LifecycleEvent := ⟨m.event, some m.instant.utcIso⟩

def windowText (w : UtcTime × Option UtcTime) : String × Option String :=
  (w.1.utcIso, w.2.map UtcTime.utcIso)

def marks (markers : List Marker) : List (Mark × UtcTime) :=
  markers.map fun m => (m.mark, m.instant)

theorem pairWindows_lines (start : Option UtcTime) (markers : List Marker) :
    pairWindows (start.map UtcTime.utcIso) (markers.map Marker.line) =
      (windowsFrom start (marks markers)).map windowText := by
  induction markers generalizing start with
  | nil => cases start <;> rfl
  | cons m markers ih =>
      obtain ⟨event, instant⟩ := m
      change pairWindows _ (⟨event, some instant.utcIso⟩ :: markers.map Marker.line) =
        (windowsFrom start ((Marker.mark ⟨event, instant⟩, instant) :: marks markers)).map
          windowText
      rw [pairWindows.eq_def, Marker.mark]
      dsimp only
      by_cases hopens : event = LIFECYCLE_RUNTIME_SHUTDOWN_BEGIN
      · rw [if_pos hopens, if_pos hopens]
        cases start <;> exact ih (some instant)
      · rw [if_neg hopens, if_neg hopens]
        by_cases hcloses : event = LIFECYCLE_RUNTIME_SHUTDOWN_END
        · simp only [if_pos hcloses]
          cases start with
          | none => exact ih none
          | some b => exact congrArg _ (ih none)
        · simp only [if_neg hcloses]
          cases start with
          | none => exact ih none
          | some b => exact ih (some b)

/-- The events in the order of their texts. -/
def sortedByText (markers : List Marker) : List Marker :=
  markers.insertionSort fun a b => a.instant.utcIso ≤ b.instant.utcIso

/-- The events in the order of their times. -/
def sortedByTime (markers : List Marker) : List Marker :=
  markers.insertionSort fun a b => a.instant ≤ b.instant

/-- The windows the code builds, with the times that their texts stand for. -/
def windowsBuilt (markers : List Marker) : List (UtcTime × Option UtcTime) :=
  windowsFrom none (marks (sortedByText markers))

theorem shutdownWindows_lines (markers : List Marker) :
    shutdownWindows (markers.map Marker.line) = (windowsBuilt markers).map windowText := by
  have hsort : (markers.map Marker.line).insertionSort
      (fun a b => a.timestamp.getD "" ≤ b.timestamp.getD "") =
        (sortedByText markers).map Marker.line := by
    symm
    apply List.map_insertionSort
    intro a _ b _
    exact Iff.rfl
  rw [shutdownWindows, hsort, windowsBuilt, ← pairWindows_lines]
  rfl

theorem inWindow_text (r : UtcTime) (w : UtcTime × Option UtcTime) :
    inWindow r.utcIso (windowText w) = true ↔
      w.1.utcIso ≤ r.utcIso ∧ ∀ stop ∈ w.2, r.utcIso < stop.utcIso := by
  obtain ⟨start, stop⟩ := w
  rw [inWindow, windowText, Bool.and_eq_true, Bool.and_eq_true, decide_eq_true_iff,
    decide_eq_true_iff, Option.all_map, Option.all_eq_true]
  simp only [ne_eq, UtcTime.utcIso_ne_empty, not_false_eq_true, true_and,
    decide_eq_true_iff, Option.mem_def]

/-! ## Comparing texts for times -/

/-- The texts compare as the times do. -/
def ComparesAlike (a b : UtcTime) : Prop := a.utcIso < b.utcIso ↔ a < b

/-- The comparisons of `_in_window`: with the beginning, and with the end of a window that has
begun. -/
def TestsAlike (r : UtcTime) (w : UtcTime × Option UtcTime) : Prop :=
  ComparesAlike r w.1 ∧ (w.1 ≤ r → ∀ stop ∈ w.2, ComparesAlike r stop)

/-- Every begin event has a window that covers all rows from it to its own end. -/
def BeginsCover (markers : List Marker) (rows : List UtcTime) : Prop :=
  ∀ before m after, sortedByTime markers = before ++ m :: after → m.mark = .opens →
    ∃ w ∈ shutdownWindows (markers.map Marker.line), ∀ r ∈ rows, m.instant ≤ r →
      (∀ stop ∈ ownEnd (marks after), r < stop) → inWindow r.utcIso w = true

/-- The windows of these events tell by texts what the times tell. -/
structure WindowsFaithful (markers : List Marker) (rows : List UtcTime) : Prop where
  sorts : ∀ a ∈ markers, ∀ b ∈ markers, ComparesAlike a.instant b.instant
  tests : ∀ w ∈ windowsBuilt markers, ∀ r ∈ rows, TestsAlike r w
  covers : BeginsCover markers rows

/-- No two compared times clash, and no row comes between a begin event and another before any
end. -/
structure WindowsClear (markers : List Marker) (rows : List UtcTime) : Prop where
  events : ∀ a ∈ markers, ∀ b ∈ markers, ¬UtcTime.Clash a.instant b.instant
  bounds : ∀ w ∈ windowsBuilt markers, ∀ r ∈ rows, ¬UtcTime.Clash r w.1 ∧
    (w.1 ≤ r → ∀ stop ∈ w.2, ¬UtcTime.Clash r stop)
  begins : ∀ r ∈ rows, ¬BetweenOpenings (marks (sortedByTime markers)) r

variable {markers : List Marker} {rows : List UtcTime}

theorem comparesAlike_iff (a b : UtcTime) : ComparesAlike a b ↔ ¬UtcTime.Clash a b :=
  UtcTime.utcIso_lt_iff_lt a b

theorem sortedByText_eq (h : ∀ a ∈ markers, ∀ b ∈ markers, ComparesAlike a.instant b.instant) :
    sortedByText markers = sortedByTime markers := by
  have hsame : (sortedByText markers).map id = (markers.map id).insertionSort
      fun a b => a.instant ≤ b.instant := by
    apply List.map_insertionSort
    intro a ha b hb
    have hcompare : b.instant.utcIso < a.instant.utcIso ↔ b.instant < a.instant := h b hb a ha
    exact (not_congr hcompare).trans not_lt
  rwa [List.map_id, List.map_id] at hsame

theorem TestsAlike.inWindow_iff {r : UtcTime} {w : UtcTime × Option UtcTime} (h : TestsAlike r w) :
    inWindow r.utcIso (windowText w) = true ↔ InWindow r w := by
  have hstart : w.1.utcIso ≤ r.utcIso ↔ w.1 ≤ r := (not_congr h.1).trans not_lt
  rw [inWindow_text, InWindow, hstart]
  refine and_congr_right fun hbegun => forall₂_congr fun stop hstop => ?_
  exact h.2 hbegun stop hstop

theorem sortedByTime_pairwise (markers : List Marker) :
    ((marks (sortedByTime markers)).map Prod.snd).Pairwise (· ≤ ·) := by
  have hsorted : (sortedByTime markers).Pairwise fun a b => a.instant ≤ b.instant :=
    List.pairwise_insertionSort _ _
  rw [marks, List.map_map]
  exact List.pairwise_map.mpr hsorted

/-- With all comparisons alike, begin events cover their rows when no row comes between two of
them. -/
theorem beginsCover_iff
    (hsorts : ∀ a ∈ markers, ∀ b ∈ markers, ComparesAlike a.instant b.instant)
    (htests : ∀ w ∈ windowsBuilt markers, ∀ r ∈ rows, TestsAlike r w) :
    BeginsCover markers rows ↔ ∀ r ∈ rows, ¬BetweenOpenings (marks (sortedByTime markers)) r := by
  have hbuilt : windowsBuilt markers = windowsFrom none (marks (sortedByTime markers)) := by
    rw [windowsBuilt, sortedByText_eq hsorts]
  rw [← eachCovers_iff (sortedByTime_pairwise markers), BeginsCover, EachCovers,
    shutdownWindows_lines, ← hbuilt]
  constructor
  · intro hcovers before t after hmarks
    obtain ⟨first, rest, hsplit, hfirst, hrest⟩ := List.map_eq_append_iff.mp hmarks
    obtain ⟨m, last, rfl, hm, hlast⟩ := List.map_eq_cons_iff.mp hrest
    obtain ⟨hopens, rfl⟩ := Prod.mk.inj hm
    obtain ⟨w, hw, hin⟩ := hcovers first m last hsplit hopens
    obtain ⟨w, hbuilt, rfl⟩ := List.mem_map.mp hw
    refine ⟨w, hbuilt, fun r hr hle hstop => ?_⟩
    rw [← hlast] at hstop
    exact (htests w hbuilt r hr).inWindow_iff.mp (hin r hr hle hstop)
  · intro hcovers before m after hsplit hopens
    have hmarks : marks (sortedByTime markers) =
        marks before ++ (.opens, m.instant) :: marks after := by
      rw [hsplit, marks, List.map_append, List.map_cons, hopens]
      rfl
    obtain ⟨w, hw, hin⟩ := hcovers _ _ _ hmarks
    refine ⟨windowText w, List.mem_map_of_mem hw, fun r hr hle hstop => ?_⟩
    exact (htests w hw r hr).inWindow_iff.mpr (hin r hr hle hstop)

/-- The texts stand for the times, and the windows cover what they should, exactly when no two of
the compared times clash and no row comes between two begin events. -/
theorem windowsFaithful_iff (markers : List Marker) (rows : List UtcTime) :
    WindowsFaithful markers rows ↔ WindowsClear markers rows := by
  constructor
  · intro h
    refine ⟨?_, ?_, (beginsCover_iff h.sorts h.tests).mp h.covers⟩
    · intro a ha b hb
      exact (comparesAlike_iff _ _).mp (h.sorts a ha b hb)
    · intro w hw r hr
      obtain ⟨hstart, hstop⟩ := h.tests w hw r hr
      refine ⟨(comparesAlike_iff _ _).mp hstart, ?_⟩
      intro hbegun stop hmem
      exact (comparesAlike_iff _ _).mp (hstop hbegun stop hmem)
  · intro h
    have hsorts : ∀ a ∈ markers, ∀ b ∈ markers, ComparesAlike a.instant b.instant :=
      fun a ha b hb => (comparesAlike_iff _ _).mpr (h.events a ha b hb)
    have htests : ∀ w ∈ windowsBuilt markers, ∀ r ∈ rows, TestsAlike r w := by
      intro w hw r hr
      obtain ⟨hstart, hstop⟩ := h.bounds w hw r hr
      refine ⟨(comparesAlike_iff _ _).mpr hstart, ?_⟩
      intro hbegun stop hmem
      exact (comparesAlike_iff _ _).mpr (hstop hbegun stop hmem)
    exact ⟨hsorts, htests, (beginsCover_iff hsorts htests).mpr h.begins⟩

/-! ## One second -/

/-- Noon of a day, with so many microseconds. -/
def noon (microsecond : ℕ) (h : microsecond < 10 ^ 6) : UtcTime where
  year := 2026
  month := 9
  day := 7
  hour := 12
  minute := 0
  second := 0
  microsecond := microsecond
  year_range := by decide
  month_range := by decide
  day_range := by decide
  hour_lt := by decide
  minute_lt := by decide
  second_lt := by decide
  microsecond_lt := h

/-- The sidecar goes down at noon, and a row is logged half a second later: it counts as logged
before. -/
theorem row_after_begin_outside :
    let down : Marker := ⟨LIFECYCLE_RUNTIME_SHUTDOWN_BEGIN, noon 0 (by decide)⟩
    let row := noon 500000 (by decide)
    down.instant < row ∧
      shutdownWindows [down.line] = [("2026-09-07T12:00:00Z", none)] ∧
      inWindow "2026-09-07T12:00:00.500000Z" ("2026-09-07T12:00:00Z", none) = false ∧
      row.utcIso = "2026-09-07T12:00:00.500000Z" ∧ ¬WindowsFaithful [down] [row] := by
  intro down row
  have hdown : down.instant.utcIso = "2026-09-07T12:00:00Z" := by decide
  have hrow : row.utcIso = "2026-09-07T12:00:00.500000Z" := by decide
  have hlater : down.instant < row := by
    rw [UtcTime.lt_iff_seconds]
    exact .inr ⟨rfl, by decide⟩
  have htext : row.utcIso < down.instant.utcIso := by
    rw [UtcTime.utcIso_lt_iff]
    exact .inr ⟨rfl, .inl ⟨by decide, rfl⟩⟩
  have hbuilt : windowsBuilt [down] = [(down.instant, none)] := rfl
  refine ⟨hlater, ?_, ?_, hrow, ?_⟩
  · have hlines := shutdownWindows_lines [down]
    rw [hbuilt] at hlines
    rw [← hdown]
    exact hlines
  · rw [← hrow, ← hdown]
    have hout : ¬inWindow row.utcIso (windowText (down.instant, none)) = true := by
      rw [inWindow_text]
      rintro ⟨hle, -⟩
      exact absurd htext (not_lt.mpr hle)
    exact Bool.eq_false_of_not_eq_true hout
  · intro h
    have halike := (h.tests _ (by rw [hbuilt]; exact List.mem_singleton_self _) row
      (List.mem_singleton_self _)).1
    exact absurd (halike.mp htext) hlater.asymm

end CapsuleMesh.Sidecar
