import CapsuleMesh.Library.FixedWidth
import CapsuleMesh.Python.Json

/-!
# Timestamps of the sidecar

`_utc_now_iso`: the current time in UTC as `isoformat` writes it, with `Z` for `+00:00`.
`isoformat` leaves out the microseconds when they are zero.
-/

namespace CapsuleMesh.Python

open Library

def daysInMonth (year month : ℕ) : ℕ :=
  if month = 2 then
    if year % 4 = 0 ∧ (year % 100 ≠ 0 ∨ year % 400 = 0) then 29 else 28
  else if month ∈ [4, 6, 9, 11] then 30 else 31

/-- The numbers of a date and time have no more digits than their columns. -/
structure InColumns (year month day hour minute second : ℕ) : Prop where
  year : year < 10 ^ 4
  month : month < 10 ^ 2
  day : day < 10 ^ 2
  hour : hour < 10 ^ 2
  minute : minute < 10 ^ 2
  second : second < 10 ^ 2

/-- Texts of dates and times are ordered as the numbers are, field by field, and then by what
comes behind the seconds. -/
theorem dateTime_lt_iff {y mo d h mi s y' mo' d' h' mi' s' : ℕ} {tail tail' : List Char}
    (a : InColumns y mo d h mi s) (b : InColumns y' mo' d' h' mi' s') :
    padded 4 y ++ '-' :: (padded 2 mo ++ '-' :: (padded 2 d ++ 'T' :: (padded 2 h ++ ':' ::
        (padded 2 mi ++ ':' :: (padded 2 s ++ tail))))) <
      padded 4 y' ++ '-' :: (padded 2 mo' ++ '-' :: (padded 2 d' ++ 'T' :: (padded 2 h' ++ ':' ::
        (padded 2 mi' ++ ':' :: (padded 2 s' ++ tail'))))) ↔
      [y, mo, d, h, mi, s] < [y', mo', d', h', mi', s'] ∨
        [y, mo, d, h, mi, s] = [y', mo', d', h', mi', s'] ∧ tail < tail' := by
  rw [padded_append_lt_iff a.year b.year, cons_lt_cons_self_iff,
    padded_append_lt_iff a.month b.month, cons_lt_cons_self_iff,
    padded_append_lt_iff a.day b.day, cons_lt_cons_self_iff,
    padded_append_lt_iff a.hour b.hour, cons_lt_cons_self_iff,
    padded_append_lt_iff a.minute b.minute, cons_lt_cons_self_iff,
    padded_append_lt_iff a.second b.second]
  simp only [List.cons_lt_cons_iff, List.cons.injEq, List.not_lt_nil, and_false, or_false, and_true]
  tauto

/-- A `datetime` in UTC. -/
structure UtcTime where
  year : ℕ
  month : ℕ
  day : ℕ
  hour : ℕ
  minute : ℕ
  second : ℕ
  microsecond : ℕ
  year_range : 1 ≤ year ∧ year ≤ 9999
  month_range : 1 ≤ month ∧ month ≤ 12
  day_range : 1 ≤ day ∧ day ≤ daysInMonth year month
  hour_lt : hour < 24
  minute_lt : minute < 60
  second_lt : second < 60
  microsecond_lt : microsecond < 10 ^ 6

namespace UtcTime

/-- The time up to the second. -/
def seconds (t : UtcTime) : List ℕ := [t.year, t.month, t.day, t.hour, t.minute, t.second]

/-- Times are compared field by field, from the year on. -/
def fields (t : UtcTime) : List ℕ := t.seconds ++ [t.microsecond]

theorem fields_injective : Function.Injective fields := by
  intro a b h
  cases a
  cases b
  simpa [fields, seconds] using h

instance : LinearOrder UtcTime := LinearOrder.lift' fields fields_injective

theorem lt_iff_fields {a b : UtcTime} : a < b ↔ a.fields < b.fields := Iff.rfl

theorem lt_iff_seconds {a b : UtcTime} :
    a < b ↔ a.seconds < b.seconds ∨ a.seconds = b.seconds ∧ a.microsecond < b.microsecond := by
  have hlast : [a.microsecond] < [b.microsecond] ↔ a.microsecond < b.microsecond := by
    rw [List.cons_lt_cons_iff]
    simp
  rw [lt_iff_fields, fields, fields, append_lt_append_iff_of_length_eq (by rfl), hlast]

theorem day_lt (t : UtcTime) : t.day < 10 ^ 2 := by
  have hday := t.day_range.2
  unfold daysInMonth at hday
  split_ifs at hday <;> omega

/-- The end of the text. -/
def fraction (microsecond : ℕ) : List Char :=
  if microsecond = 0 then ['Z'] else '.' :: (padded 6 microsecond ++ ['Z'])

def isoChars (t : UtcTime) : List Char :=
  padded 4 t.year ++ '-' :: (padded 2 t.month ++ '-' :: (padded 2 t.day ++ 'T' ::
    (padded 2 t.hour ++ ':' :: (padded 2 t.minute ++ ':' :: (padded 2 t.second ++
      fraction t.microsecond)))))

/-- What `_utc_now_iso` returns at that time. -/
def utcIso (t : UtcTime) : String := String.ofList t.isoChars

theorem utcIso_ne_empty (t : UtcTime) : t.utcIso ≠ "" := by
  intro h
  have hchars := congrArg (fun s => s.toList.length) h
  simp [utcIso, isoChars] at hchars

theorem inColumns (t : UtcTime) :
    InColumns t.year t.month t.day t.hour t.minute t.second where
  year := by have := t.year_range; omega
  month := by have := t.month_range; omega
  day := t.day_lt
  hour := by have := t.hour_lt; omega
  minute := by have := t.minute_lt; omega
  second := by have := t.second_lt; omega

theorem isoChars_lt_iff (a b : UtcTime) : a.isoChars < b.isoChars ↔
    a.seconds < b.seconds ∨
      a.seconds = b.seconds ∧ fraction a.microsecond < fraction b.microsecond :=
  dateTime_lt_iff a.inColumns b.inColumns

/-- The ends of two texts: one without microseconds comes after every other. -/
theorem fraction_lt_iff {m n : ℕ} (hm : m < 10 ^ 6) (hn : n < 10 ^ 6) :
    fraction m < fraction n ↔ (m ≠ 0 ∧ n = 0) ∨ (m ≠ 0 ∧ n ≠ 0 ∧ m < n) := by
  have hpoint : '.' < 'Z' := by decide
  have hpoint' : ¬ 'Z' < '.' := by decide
  unfold fraction
  by_cases hm0 : m = 0
  · by_cases hn0 : n = 0
    · simp [hm0, hn0]
    · rw [if_pos hm0, if_neg hn0, List.cons_lt_cons_iff]
      simp [hm0, hpoint']
  · by_cases hn0 : n = 0
    · rw [if_neg hm0, if_pos hn0, List.cons_lt_cons_iff]
      simp [hm0, hn0, hpoint]
    · rw [if_neg hm0, if_neg hn0, cons_lt_cons_self_iff, padded_append_lt_iff hm hn]
      simp [hm0, hn0]

/-- Two times within one second, of which one has no microseconds. -/
def Clash (a b : UtcTime) : Prop :=
  a.seconds = b.seconds ∧ (a.microsecond = 0 ↔ b.microsecond ≠ 0)

theorem utcIso_lt_iff (a b : UtcTime) : a.utcIso < b.utcIso ↔
    a.seconds < b.seconds ∨ a.seconds = b.seconds ∧
      ((a.microsecond ≠ 0 ∧ b.microsecond = 0) ∨
        (a.microsecond ≠ 0 ∧ b.microsecond ≠ 0 ∧ a.microsecond < b.microsecond)) := by
  rw [String.lt_iff_toList_lt, utcIso, utcIso, String.toList_ofList, String.toList_ofList,
    isoChars_lt_iff, fraction_lt_iff a.microsecond_lt b.microsecond_lt]

/-- The texts are in the order of the times unless these clash. -/
theorem utcIso_lt_iff_lt (a b : UtcTime) : (a.utcIso < b.utcIso ↔ a < b) ↔ ¬Clash a b := by
  rw [utcIso_lt_iff, lt_iff_seconds, Clash]
  by_cases hseconds : a.seconds = b.seconds
  · have hirrefl : ¬b.seconds < b.seconds := lt_irrefl _
    simp only [hseconds, hirrefl, true_and, false_or]
    omega
  · simp [hseconds]

end UtcTime

end CapsuleMesh.Python
