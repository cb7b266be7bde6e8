import Mathlib
import CapsuleMesh.Library.DecimalFractions
import CapsuleMesh.Python.Timestamps

/-!
# UTC times of RFC 3339, as texts and as instants

Fractions of a second are optional and of any length, and UTC is `Z` or `+00:00`.  `+` comes before
the digits and `Z` after them, so the texts of two times within one second need not be in the order
of the times.
-/

namespace CapsuleMesh.Python

open Library

inductive Zone where
  | zulu
  | offset
deriving DecidableEq

def Zone.chars : Zone → List Char
  | .zulu => ['Z']
  | .offset => '+' :: "00:00".toList

/-- A UTC time as it is written; a leap second ends a day. -/
structure UtcText where
  year : ℕ
  month : ℕ
  day : ℕ
  hour : ℕ
  minute : ℕ
  second : ℕ
  fraction : List (Fin 10)
  zone : Zone
  year_lt : year < 10000
  month_range : 1 ≤ month ∧ month ≤ 12
  day_range : 1 ≤ day ∧ day ≤ daysInMonth year month
  hour_lt : hour < 24
  minute_lt : minute < 60
  second_range : second < 60 ∨ second = 60 ∧ hour = 23 ∧ minute = 59

namespace UtcText

def seconds (t : UtcText) : List ℕ := [t.year, t.month, t.day, t.hour, t.minute, t.second]

/-- The fraction, where there is one, and the zone. -/
def tailChars (fraction : List (Fin 10)) (zone : Zone) : List Char :=
  if fraction = [] then zone.chars else '.' :: (digitChars fraction ++ zone.chars)

def chars (t : UtcText) : List Char :=
  padded 4 t.year ++ '-' :: (padded 2 t.month ++ '-' :: (padded 2 t.day ++ 'T' ::
    (padded 2 t.hour ++ ':' :: (padded 2 t.minute ++ ':' :: (padded 2 t.second ++
      tailChars t.fraction t.zone)))))

def text (t : UtcText) : String := String.ofList t.chars

/-- The instant, whatever its spelling. -/
def instant (t : UtcText) : List ℕ ×ₗ ℚ := toLex (t.seconds, fractionValue t.fraction)

theorem instant_lt_iff {a b : UtcText} : a.instant < b.instant ↔
    a.seconds < b.seconds ∨
      a.seconds = b.seconds ∧ fractionValue a.fraction < fractionValue b.fraction :=
  Prod.Lex.toLex_lt_toLex

theorem day_lt (t : UtcText) : t.day < 10 ^ 2 := by
  have hday := t.day_range.2
  unfold daysInMonth at hday
  split_ifs at hday <;> omega

theorem inColumns (t : UtcText) : InColumns t.year t.month t.day t.hour t.minute t.second where
  year := t.year_lt
  month := by have := t.month_range; omega
  day := t.day_lt
  hour := by have := t.hour_lt; omega
  minute := by have := t.minute_lt; omega
  second := by have := t.second_range; omega

theorem chars_lt_iff (a b : UtcText) : a.chars < b.chars ↔
    a.seconds < b.seconds ∨ a.seconds = b.seconds ∧
      tailChars a.fraction a.zone < tailChars b.fraction b.zone :=
  dateTime_lt_iff a.inColumns b.inColumns

theorem text_lt_iff (a b : UtcText) : a.text < b.text ↔ a.chars < b.chars := by
  rw [String.lt_iff_toList_lt, text, text, String.toList_ofList, String.toList_ofList]

theorem text_ne_empty (t : UtcText) : t.text ≠ "" := by
  intro h
  have hchars := congrArg (fun s => s.toList.length) h
  simp [text, chars] at hchars

/-- How the zone stands to a character that is the point or a digit. -/
theorem zone_lt_cons {c : Char} (hlow : '+' < c) (hhigh : c < 'Z') (zone : Zone)
    (cs : List Char) : (zone.chars < c :: cs ↔ zone = .offset) ∧
      (c :: cs < zone.chars ↔ zone = .zulu) := by
  cases zone with
  | zulu => simp [Zone.chars, List.cons_lt_cons_iff, hhigh, hhigh.ne, hhigh.ne', hhigh.not_gt]
  | offset => simp [Zone.chars, List.cons_lt_cons_iff, hlow, hlow.ne, hlow.ne', hlow.not_gt]

theorem digitChar_between (d : Fin 10) : '+' < digitChar d.val ∧ digitChar d.val < 'Z' := by
  revert d
  decide

theorem tailChars_lt_iff (ds es : List (Fin 10)) (y z : Zone) :
    tailChars ds y < tailChars es z ↔ digitChars ds ++ y.chars < digitChars es ++ z.chars := by
  have hpoint : '+' < '.' ∧ '.' < 'Z' := by decide
  cases ds with
  | nil =>
      cases es with
      | nil => rfl
      | cons e es =>
        have hdigit := digitChar_between e
        rw [tailChars, if_pos rfl, tailChars, if_neg (List.cons_ne_nil _ _),
          (zone_lt_cons hpoint.1 hpoint.2 y _).1]
        exact (zone_lt_cons hdigit.1 hdigit.2 y _).1.symm
  | cons d ds =>
      cases es with
      | nil =>
        have hdigit := digitChar_between d
        rw [tailChars, if_neg (List.cons_ne_nil _ _), tailChars, if_pos rfl,
          (zone_lt_cons hpoint.1 hpoint.2 z _).2]
        exact (zone_lt_cons hdigit.1 hdigit.2 z _).2.symm
      | cons e es =>
        rw [tailChars, if_neg (List.cons_ne_nil _ _), tailChars, if_neg (List.cons_ne_nil _ _),
          cons_lt_cons_self_iff]

/-- Digits that go on behind `+` as zeros or behind `Z` not only as zeros, digits that end first
under `Z`, and one fraction under both zones. -/
def FractionMisread (ds : List (Fin 10)) (y : Zone) (es : List (Fin 10)) (z : Zone) : Prop :=
  (∃ rest, es = ds ++ rest ∧ rest ≠ [] ∧ (y = .offset ↔ ∀ d ∈ rest, d = 0)) ∨
    (∃ rest, ds = es ++ rest ∧ rest ≠ [] ∧ z = .zulu) ∨
    ds = es ∧ y = .offset ∧ z = .zulu

theorem fractionMisread_nil_cons (y z : Zone) (e : Fin 10) (es : List (Fin 10)) :
    FractionMisread [] y (e :: es) z ↔ (y = .offset ↔ ∀ d ∈ e :: es, d = 0) := by
  simp [FractionMisread]

theorem fractionMisread_cons_nil (y z : Zone) (d : Fin 10) (ds : List (Fin 10)) :
    FractionMisread (d :: ds) y [] z ↔ z = .zulu := by
  simp [FractionMisread]

theorem fractionMisread_nil (y z : Zone) : FractionMisread [] y [] z ↔ y = .offset ∧ z = .zulu := by
  simp [FractionMisread]

theorem fractionMisread_cons (y z : Zone) (d e : Fin 10) (ds es : List (Fin 10)) :
    FractionMisread (d :: ds) y (e :: es) z ↔ d = e ∧ FractionMisread ds y es z := by
  simp only [FractionMisread, List.cons_append, List.cons.injEq]
  aesop

/-- The order of the texts is the order of the fractions but for the pairs above. -/
theorem fraction_lt_iff (ds es : List (Fin 10)) (y z : Zone) :
    (digitChars ds ++ y.chars < digitChars es ++ z.chars ↔
      fractionValue ds < fractionValue es) ↔ ¬FractionMisread ds y es z := by
  induction ds generalizing es with
  | nil =>
      cases es with
      | nil =>
        rw [fractionMisread_nil]
        cases y <;> cases z <;> simp [digitChars, Zone.chars, List.cons_lt_cons_iff]
      | cons e es =>
        have hdigit := digitChar_between e
        have hzero : fractionValue [] < fractionValue (e :: es) ↔ ¬∀ d ∈ e :: es, d = 0 := by
          rw [fractionValue, fractionValue_pos_iff]
          push Not
          rfl
        rw [fractionMisread_nil_cons, hzero]
        change (y.chars < digitChar e.val :: (digitChars es ++ z.chars) ↔ _) ↔ _
        rw [(zone_lt_cons hdigit.1 hdigit.2 y _).1]
        tauto
  | cons d ds ih =>
      cases es with
      | nil =>
        have hdigit := digitChar_between d
        have hzero : ¬fractionValue (d :: ds) < fractionValue [] :=
          not_lt_of_ge (fractionValue_nonneg (d :: ds))
        rw [fractionMisread_cons_nil]
        change (digitChar d.val :: (digitChars ds ++ y.chars) < z.chars ↔ _) ↔ _
        rw [(zone_lt_cons hdigit.1 hdigit.2 z _).2]
        tauto
      | cons e es =>
        rw [fractionMisread_cons]
        change (digitChar d.val :: (digitChars ds ++ y.chars) <
          digitChar e.val :: (digitChars es ++ z.chars) ↔ _) ↔ _
        rcases lt_trichotomy d e with hlt | rfl | hgt
        · have hvalue := fractionValue_cons_lt_of_lt hlt ds es
          have htext := (digitChar_fin_lt_iff d e).mpr hlt
          simp [List.cons_lt_cons_iff, htext, hvalue, hlt.ne]
        · rw [cons_lt_cons_self_iff, fractionValue_cons_lt_iff, ih]
          simp
        · have hvalue := fractionValue_cons_lt_of_lt hgt es ds
          have htext := (digitChar_fin_lt_iff e d).mpr hgt
          simp [List.cons_lt_cons_iff, htext.not_gt, htext.ne', hvalue.not_gt, hgt.ne']

/-- Two times of one second whose texts are not in their order. -/
def Misread (a b : UtcText) : Prop :=
  a.seconds = b.seconds ∧ FractionMisread a.fraction a.zone b.fraction b.zone

theorem text_lt_iff_instant (a b : UtcText) :
    (a.text < b.text ↔ a.instant < b.instant) ↔ ¬Misread a b := by
  rw [text_lt_iff, chars_lt_iff, instant_lt_iff, tailChars_lt_iff, Misread, not_and]
  by_cases hseconds : a.seconds = b.seconds
  · have hirrefl : ¬b.seconds < b.seconds := lt_irrefl _
    simp only [hseconds, hirrefl, true_and, false_or, forall_const, fraction_lt_iff]
  · simp [hseconds]

theorem digits_zone_inj {ds es : List (Fin 10)} {y z : Zone}
    (h : digitChars ds ++ y.chars = digitChars es ++ z.chars) : ds = es := by
  induction ds generalizing es with
  | nil =>
      cases es with
      | nil => rfl
      | cons e es =>
        have hdigit := digitChar_between e
        cases y with
        | zulu => exact absurd (List.cons.inj h).1 hdigit.2.ne'
        | offset => exact absurd (List.cons.inj h).1 hdigit.1.ne
  | cons d ds ih =>
      cases es with
      | nil =>
        have hdigit := digitChar_between d
        cases z with
        | zulu => exact absurd (List.cons.inj h).1 hdigit.2.ne
        | offset => exact absurd (List.cons.inj h).1 hdigit.1.ne'
      | cons e es =>
        obtain ⟨hfirst, hrest⟩ := List.cons.inj h
        rw [digitChar_fin_inj.mp hfirst, ih hrest]

/-- A text is of one instant. -/
theorem instant_eq_of_text_eq {a b : UtcText} (h : a.text = b.text) : a.instant = b.instant := by
  have hleft : ¬a.text < b.text := by rw [h]; exact lt_irrefl _
  have hright : ¬b.text < a.text := by rw [h]; exact lt_irrefl _
  rw [text_lt_iff, chars_lt_iff, tailChars_lt_iff] at hleft hright
  have hseconds : a.seconds = b.seconds := by
    rcases lt_trichotomy a.seconds b.seconds with hlt | heq | hlt
    · exact absurd (Or.inl hlt) hleft
    · exact heq
    · exact absurd (Or.inl hlt) hright
  have hfraction : a.fraction = b.fraction := by
    apply digits_zone_inj
    simp only [hseconds, lt_irrefl, true_and, false_or] at hleft hright
    exact le_antisymm (not_lt.mp hright) (not_lt.mp hleft)
  rw [instant, instant, hseconds, hfraction]

end UtcText

end CapsuleMesh.Python
