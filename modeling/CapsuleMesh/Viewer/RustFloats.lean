import CapsuleMesh.Library.DecimalLayouts
import CapsuleMesh.Library.JcsTexts
import CapsuleMesh.Python.Loads
import Mathlib.Data.List.DropRight

/-!
# Floats as Rust writes them

`_format_rust_float` takes the shortest digits out of the text of `repr` and lays them out again with
another threshold for the exponent.
-/

namespace CapsuleMesh.Viewer

open Library Python

/-- `_shortest_round_trip_digits`, on the text of `repr(magnitude)`. -/
def shortestRoundTripDigits (text : List Char) : Py (List Char × Int) := do
  let (mantissa, expText) := cutAt 'e' text
  let exp ← (if expText = [] then .ok 0 else intOfStr (String.ofList expText) : Py Int)
  let (intPart, fracPart) := cutAt '.' mantissa
  let allDigits := intPart ++ fracPart
  let pointPos : Int := intPart.length + exp
  let lstripped := allDigits.dropWhile fun c => decide (c = '0')
  let stripped := min (allDigits.length - lstripped.length) (allDigits.length - 1)
  let digits := allDigits.drop stripped
  let pointPos := pointPos - stripped
  let digits := digits.rdropWhile fun c => decide (c = '0')
  return (if digits = [] then ['0'] else digits, pointPos - 1)

/-- `_format_rust_float`; a float is given by its `repr`. -/
def formatRustFloat (repr : String) : Py String :=
  if repr ∈ ["nan", "inf", "-inf"] then
    .error (.valueError ("non-finite number in digest-bearing field: " ++ repr))
  else do
    let (sign, magnitude) := scanSign repr.toList
    let (digits, exp) ← (if magnitude = ['0', '.', '0'] then .ok (['0'], 0)
      else shortestRoundTripDigits magnitude : Py (List Char × Int))
    if -5 ≤ exp ∧ exp ≤ 15 then
      if 0 ≤ exp then
        if digits.length ≤ exp + 1 then
          return String.ofList (sign ++ (digits ++
            List.replicate (exp + 1 - digits.length).toNat '0' ++ ['.', '0']))
        else
          return String.ofList (sign ++
            (digits.take (exp + 1).toNat ++ ['.'] ++ digits.drop (exp + 1).toNat))
      else
        return String.ofList (sign ++ (['0', '.'] ++ List.replicate (-exp - 1).toNat '0' ++ digits))
    else
      let mantissa := if 1 < digits.length then digits.take 1 ++ '.' :: digits.drop 1 else digits
      return String.ofList (sign ++ (mantissa ++
        'e' :: (if 0 ≤ exp then '+' else '-') :: (toString exp.natAbs).toList))

/-! ## Reading the digits back -/

theorem ascii_of_isDigit {c : Char} (h : c.isDigit = true ∨ c = '+' ∨ c = '-') :
    asciiOf c = c ∧ isBlank c = false := by
  obtain h | rfl | rfl := h
  · have hrange : 48 ≤ c.toNat ∧ c.toNat ≤ 57 := by
      simpa [Char.isDigit, UInt32.le_iff_toNat_le] using h
    constructor
    · apply if_pos
      omega
    · simp only [isBlank]
      simp
      omega
  · decide
  · decide

theorem intOfStr_signed {cs : List Char} (h : SignedDigits cs) :
    intOfStr (String.ofList cs) = .ok (exponentOf cs) := by
  obtain ⟨ds, hcs, hne, hds⟩ := h
  have hascii : ∀ c ∈ cs, asciiOf c = c ∧ isBlank c = false := by
    intro c hc
    apply ascii_of_isDigit
    obtain rfl | rfl := hcs
    · obtain rfl | hc := List.mem_cons.mp hc
      · exact .inr (.inl rfl)
      · exact .inl (hds c hc)
    · obtain rfl | hc := List.mem_cons.mp hc
      · exact .inr (.inr rfl)
      · exact .inl (hds c hc)
  have hsame : cs.map asciiOf = cs := by
    calc cs.map asciiOf = cs.map id := List.map_congr_left fun c hc => (hascii c hc).1
      _ = cs := List.map_id cs
  have hdrop : ∀ es : List Char, (∀ c ∈ es, isBlank c = false) → es.dropWhile isBlank = es := by
    intro es hes
    cases es with
    | nil => rfl
    | cons c es =>
        apply List.dropWhile_cons_of_neg
        rw [hes c List.mem_cons_self]
        exact Bool.false_ne_true
  have hunderscore : '_' ∉ ds := hds.not_mem (by decide)
  have hall : ([ds].all fun g => !g.isEmpty && g.all Char.isDigit) = true := by
    have hdigits : ds.all Char.isDigit = true := List.all_eq_true.mpr hds
    simp [hne, hdigits]
  have hvalue : (takeDigits [ds].flatten).1 = Nat.ofDigitChars 10 ds 0 := by
    rw [takeDigits, List.flatten_singleton, List.takeWhile_eq_self_iff.mpr hds,
      Nat.ofDigitChars_eq_foldl]
  unfold intOfStr
  rw [String.toList_ofList, hsame, hdrop cs fun c hc => (hascii c hc).2, hdrop cs.reverse,
    List.reverse_reverse]
  · obtain rfl | rfl := hcs
    · simp only [List.splitOn_eq_singleton hunderscore]
      rw [if_pos hall, hvalue, one_mul]
      rfl
    · simp only [List.splitOn_eq_singleton hunderscore]
      rw [if_pos hall, hvalue, neg_one_mul]
      rfl
  · intro c hc
    exact (hascii c (List.mem_reverse.mp hc)).2

theorem dropWhile_zeros (n : ℕ) (cs : List Char) :
    (List.replicate n '0' ++ cs).dropWhile (fun c => decide (c = '0')) =
      cs.dropWhile fun c => decide (c = '0') := by
  apply List.dropWhile_append_of_pos
  intro c hc
  exact decide_eq_true (List.eq_of_mem_replicate hc)

theorem dropWhile_of_head {cs : List Char} (h : cs.head? ≠ some '0') :
    cs.dropWhile (fun c => decide (c = '0')) = cs := by
  cases cs with
  | nil => rfl
  | cons c cs =>
      apply List.dropWhile_cons_of_neg
      rw [decide_eq_true_eq]
      rintro rfl
      exact h rfl

/-- Out of any layout of a number that is not zero come its digits and its exponent. -/
theorem shortestRoundTripDigits_layout {x : Shortest} {whole fraction exponent : List Char}
    (h : x.Layout whole fraction exponent) (hzero : x.digits ≠ [0]) :
    shortestRoundTripDigits (layoutText whole fraction exponent) =
      .ok (x.digitChars, x.point - 1) := by
  obtain ⟨a, b, hspelled, hpoint⟩ := h.spelled
  obtain ⟨hhead, hlast⟩ := x.ends_of_ne_zero hzero
  have hne := x.digitChars_ne_nil
  have hexp : (if exponent = [] then (.ok 0 : Py Int) else intOfStr (String.ofList exponent)) =
      .ok (exponentOf exponent) := by
    split_ifs with hnil
    · rw [hnil]
      rfl
    · exact intOfStr_signed (h.exponent_digits.resolve_left hnil)
  have hlstripped : (whole ++ fraction).dropWhile (fun c => decide (c = '0')) =
      x.digitChars ++ List.replicate b '0' := by
    rw [hspelled, dropWhile_zeros]
    apply dropWhile_of_head
    rwa [List.head?_append_of_ne_nil _ hne]
  have hstripped : min ((whole ++ fraction).length -
      ((whole ++ fraction).dropWhile fun c => decide (c = '0')).length)
      ((whole ++ fraction).length - 1) = a := by
    have hlength := List.length_pos_of_ne_nil hne
    rw [hlstripped, hspelled]
    simp only [List.length_append, List.length_replicate]
    omega
  have hdigits : ((whole ++ fraction).drop a).rdropWhile (fun c => decide (c = '0')) =
      x.digitChars := by
    have hreverse : x.digitChars.reverse.head? ≠ some '0' := by rwa [List.head?_reverse]
    rw [hspelled, List.drop_append_of_le_length (by simp), List.drop_eq_nil_of_le (by simp),
      List.nil_append, List.rdropWhile, List.reverse_append, List.reverse_replicate,
      dropWhile_zeros, dropWhile_of_head hreverse, List.reverse_reverse]
  unfold shortestRoundTripDigits
  simp only [h.cut_exponent, hexp, h.cut_point, Py.ok_bind, hstripped, hdigits, if_neg hne, hpoint,
    Py.pure_eq_ok]

/-! ## The text that is written -/

theorem scanSign_append (x : Shortest) {cs : List Char} (h : ∃ c ∈ cs.head?, c.isDigit = true) :
    scanSign (x.sign ++ cs) = (x.sign, cs) := by
  obtain ⟨c, hc, hdigit⟩ := h
  obtain ⟨ds, rfl⟩ := List.head?_eq_some_iff.mp hc
  rw [Shortest.sign]
  split_ifs
  · rfl
  · have hminus : c ≠ '-' := by
      rintro rfl
      cases hdigit
    rw [List.nil_append, scanSign, if_neg hminus]

theorem unsigned_eq_zero_iff {x : Shortest} {whole fraction exponent : List Char}
    (h : x.Layout whole fraction exponent)
    (htext : x.pythonRepr = String.ofList (x.sign ++ layoutText whole fraction exponent)) :
    layoutText whole fraction exponent = ['0', '.', '0'] ↔ x.digits = [0] := by
  constructor
  · intro hzero
    by_contra hne
    have hread := shortestRoundTripDigits_layout h hne
    rw [hzero] at hread
    have hdigits : x.digitChars = ['0'] := (Prod.mk.inj (Except.ok.inj hread)).1.symm
    obtain ⟨hhead, -⟩ := x.ends_of_ne_zero hne
    rw [hdigits] at hhead
    exact hhead rfl
  · intro hzero
    have hpoint := x.point_pos_of_zero hzero
    have hrepr : x.pythonRepr = String.ofList (x.sign ++ ['0', '.', '0']) := by
      rw [Shortest.pythonRepr, if_neg (by omega), Shortest.pythonDecimal, Shortest.digitChars, hzero,
        hpoint]
      rfl
    rw [hrepr, String.ofList_inj] at htext
    exact (List.append_cancel_left htext).symm

theorem exponential_eq_ryu (x : Shortest) :
    (if 1 < x.digitChars.length then x.digitChars.take 1 ++ '.' :: x.digitChars.drop 1
      else x.digitChars) ++ 'e' :: (if 0 ≤ x.point - 1 then '+' else '-') ::
        (toString (x.point - 1).natAbs).toList = x.ryuExponential := by
  have hexponent : (toString (x.point - 1).natAbs).toList = Nat.toDigits 10 (x.point - 1).natAbs :=
    Nat.toList_repr
  rw [Shortest.ryuExponential, layoutText, mantissaText, if_neg (List.cons_ne_nil _ _), hexponent]
  by_cases hlong : 1 < x.digitChars.length
  · have hdrop : x.digitChars.drop 1 ≠ [] := by
      rw [ne_eq, List.drop_eq_nil_iff]
      omega
    rw [if_pos hlong, if_neg hdrop]
  · have hdrop : x.digitChars.drop 1 = [] := by
      rw [List.drop_eq_nil_iff]
      omega
    rw [if_neg hlong, if_pos hdrop, List.append_nil, List.take_of_length_le (not_lt.mp hlong)]

/-- `_format_rust_float` lays the digits out as ryu does. -/
theorem formatRustFloat_pythonRepr (x : Shortest) :
    formatRustFloat x.pythonRepr = .ok (String.ofList (x.sign ++ x.ryuText)) := by
  obtain ⟨whole, fraction, exponent, htext, hlayout⟩ := x.python_layout
  have hscan : scanSign x.pythonRepr.toList = (x.sign, layoutText whole fraction exponent) := by
    rw [htext, String.toList_ofList]
    exact scanSign_append x hlayout.head_layoutText
  have hfinite : x.pythonRepr ∉ ["nan", "inf", "-inf"] := by
    intro hmem
    obtain ⟨c, hc, hdigit⟩ := hlayout.head_layoutText
    simp only [List.mem_cons, List.not_mem_nil, or_false] at hmem
    obtain hrepr | hrepr | hrepr := hmem
    all_goals
      rw [hrepr] at hscan
      rw [← (Prod.mk.inj hscan).2] at hc
      obtain rfl := Option.some.inj hc
      cases hdigit
  have hdigits : (if layoutText whole fraction exponent = ['0', '.', '0'] then
      (.ok (['0'], 0) : Py (List Char × Int))
      else shortestRoundTripDigits (layoutText whole fraction exponent)) =
        .ok (x.digitChars, x.point - 1) := by
    split_ifs with hzero
    · have hx := (unsigned_eq_zero_iff hlayout htext).mp hzero
      rw [Shortest.digitChars, hx, x.point_pos_of_zero hx]
      rfl
    · exact shortestRoundTripDigits_layout hlayout
        (mt (unsigned_eq_zero_iff hlayout htext).mpr hzero)
  have hlength := x.length_digitChars
  have hpositive := List.length_pos_of_ne_nil x.digits_ne_nil
  rw [formatRustFloat, if_neg hfinite]
  simp only [hscan, hdigits, Py.ok_bind, Py.pure_eq_ok]
  rw [Shortest.ryuText]
  by_cases hsmall : -5 ≤ x.point - 1 ∧ x.point - 1 ≤ 15
  · rw [if_pos hsmall, if_pos hsmall, Shortest.pythonDecimal]
    by_cases hnonneg : 0 ≤ x.point - 1
    · have hpoint : ¬ x.point ≤ 0 := by omega
      rw [if_pos hnonneg, if_neg hpoint]
      by_cases hlong : x.digits.length ≤ x.point.toNat
      · have hfits : (x.digitChars.length : Int) ≤ x.point - 1 + 1 := by omega
        have hzeros : (x.point - 1 + 1 - x.digitChars.length).toNat =
            x.point.toNat - x.digits.length := by omega
        rw [if_pos hfits, if_pos hlong, hzeros]
      · have hfits : ¬ (x.digitChars.length : Int) ≤ x.point - 1 + 1 := by omega
        have hplaces : (x.point - 1 + 1).toNat = x.point.toNat := by omega
        rw [if_neg hfits, if_neg hlong, hplaces]
    · have hpoint : x.point ≤ 0 := by omega
      have hzeros : (-(x.point - 1) - 1).toNat = (-x.point).toNat := by omega
      rw [if_neg hnonneg, if_pos hpoint, hzeros]
  · rw [if_neg hsmall, if_neg hsmall, exponential_eq_ryu]

/-! ## What the text is read as -/

theorem floatText_layout {x : Shortest} {whole fraction exponent : List Char}
    (h : x.Layout whole fraction exponent) :
    FloatText (x.sign ++ layoutText whole fraction exponent) where
  head := by
    obtain ⟨c, hc, hdigit⟩ := h.head_layoutText
    rw [Shortest.sign]
    split_ifs
    · exact ⟨'-', rfl, .inr rfl⟩
    · exact ⟨c, hc, .inl hdigit⟩
  marked := by
    rw [List.any_append, layoutText, mantissaText]
    obtain hfraction | hexponent := h.marked
    · simp [if_neg hfraction, Shortest.isFloatMark]
    · simp [if_neg hexponent, Shortest.isFloatMark]
  bare := by
    have hdigits : ∀ cs, AllDigits cs → ∀ c ∈ cs, BeginsNumber c ∨ c ∈ ['+', '.', 'e'] :=
      fun cs hcs c hc => .inl (.inl (hcs c hc))
    intro c hc
    obtain hc | hc := List.mem_append.mp hc
    · rw [Shortest.sign] at hc
      split_ifs at hc
      · exact .inl (.inr (List.mem_singleton.mp hc))
      · cases hc
    rw [layoutText, mantissaText, List.append_assoc] at hc
    obtain hc | hc := List.mem_append.mp hc
    · exact hdigits whole h.whole_digits c hc
    obtain hc | hc := List.mem_append.mp hc
    · split_ifs at hc
      · cases hc
      · obtain rfl | hc := List.mem_cons.mp hc
        · exact .inr (by decide)
        · exact hdigits fraction h.fraction_digits c hc
    · split_ifs at hc with hnil
      · cases hc
      · obtain ⟨ds, hexponent, -, hds⟩ := h.exponent_digits.resolve_left hnil
        obtain rfl | hc := List.mem_cons.mp hc
        · exact .inr (by decide)
        obtain rfl | rfl := hexponent
        · obtain rfl | hc := List.mem_cons.mp hc
          · exact .inr (by decide)
          · exact hdigits ds hds c hc
        · obtain rfl | hc := List.mem_cons.mp hc
          · exact .inl (by decide)
          · exact hdigits ds hds c hc

theorem floatText_ryu (x : Shortest) : FloatText (x.sign ++ x.ryuText) := by
  obtain ⟨whole, fraction, exponent, htext, hlayout⟩ := x.ryu_layout
  rw [htext]
  exact floatText_layout hlayout

theorem textValue_layout {x : Shortest} {whole fraction exponent : List Char}
    (h : x.Layout whole fraction exponent) :
    textValue (x.sign ++ layoutText whole fraction exponent) =
      (if x.negative then -1 else 1) *
        (Nat.ofDigitChars 10 x.digitChars 0 * 10 ^ (x.point - x.digits.length)) := by
  obtain ⟨c, hc, hdigit⟩ := h.head_layoutText
  rw [textValue, Shortest.sign]
  split_ifs with hnegative hminus hminus
  · rw [List.cons_append, List.nil_append, List.drop_one, List.tail_cons, h.unsignedValue_eq,
      neg_one_mul]
  · exact absurd rfl hminus
  · rw [List.nil_append] at hminus
    rw [hminus] at hc
    obtain rfl := Option.some.inj hc
    cases hdigit
  · rw [List.nil_append, h.unsignedValue_eq, one_mul]

/-- The number is not changed by the other layout. -/
theorem textValue_ryu (x : Shortest) :
    textValue (x.sign ++ x.ryuText) = textValue x.pythonRepr.toList := by
  obtain ⟨whole, fraction, exponent, htext, hlayout⟩ := x.ryu_layout
  obtain ⟨whole', fraction', exponent', htext', hlayout'⟩ := x.python_layout
  rw [htext, htext', String.toList_ofList, textValue_layout hlayout, textValue_layout hlayout']

theorem takeWhile_digits {cs rest : List Char} (hcs : AllDigits cs)
    (hrest : ∀ c ∈ rest.head?, c.isDigit = false) :
    (cs ++ rest).takeWhile Char.isDigit = cs ∧ (cs ++ rest).dropWhile Char.isDigit = rest := by
  rw [List.takeWhile_append_of_pos hcs, List.dropWhile_append_of_pos hcs]
  cases rest with
  | nil => exact ⟨List.append_nil cs, rfl⟩
  | cons c rest =>
      have hc : ¬ c.isDigit = true := by
        rw [hrest c rfl]
        exact Bool.false_ne_true
      rw [List.takeWhile_cons_of_neg hc, List.dropWhile_cons_of_neg hc, List.append_nil]
      exact ⟨rfl, rfl⟩

theorem scanInteger_whole {whole rest : List Char} (hne : whole ≠ []) (hdigits : AllDigits whole)
    (hhead : whole = ['0'] ∨ whole.head? ≠ some '0')
    (hrest : ∀ c ∈ rest.head?, c.isDigit = false) :
    scanInteger (whole ++ rest) = some (whole, rest) := by
  obtain rfl | hhead := hhead
  · rfl
  · obtain ⟨c, cs, rfl⟩ := List.exists_cons_of_ne_nil hne
    have hc : c ≠ '0' := by
      rintro rfl
      exact hhead rfl
    obtain ⟨htake, hdrop⟩ := takeWhile_digits (List.forall_mem_cons.mp hdigits).2 hrest
    rw [List.cons_append, scanInteger, if_neg hc, if_pos (hdigits c List.mem_cons_self), htake, hdrop]

theorem scanFraction_digits {fraction rest : List Char} (hdigits : AllDigits fraction)
    (hrest : ∀ c ∈ rest.head?, c.isDigit = false ∧ c ≠ '.') :
    scanFraction ((if fraction = [] then [] else '.' :: fraction) ++ rest) =
      (if fraction = [] then [] else '.' :: fraction, rest) := by
  cases fraction with
  | nil =>
      rw [if_pos rfl, List.nil_append]
      cases rest with
      | nil => rfl
      | cons a rest =>
        cases rest with
        | nil => rfl
        | cons b rest =>
          have ha : ¬ (a = '.' ∧ b.isDigit = true) := fun h => (hrest a rfl).2 h.1
          rw [scanFraction, if_neg ha]
  | cons d ds =>
      have hd : '.' = '.' ∧ d.isDigit = true := ⟨rfl, hdigits d List.mem_cons_self⟩
      obtain ⟨htake, hdrop⟩ := takeWhile_digits (List.forall_mem_cons.mp hdigits).2
        fun c hc => (hrest c hc).1
      rw [if_neg (List.cons_ne_nil d ds), List.cons_append, List.cons_append, scanFraction, if_pos hd,
        htake, hdrop]

theorem scanExponent_signed {exponent : List Char} (h : exponent = [] ∨ SignedDigits exponent) :
    scanExponent (if exponent = [] then [] else 'e' :: exponent) =
      (if exponent = [] then [] else 'e' :: exponent, []) := by
  obtain rfl | ⟨ds, hexponent, hne, hdigits⟩ := h
  · rfl
  · obtain ⟨htake, hdrop⟩ := @takeWhile_digits _ [] hdigits (by intro c hc; cases hc)
    rw [List.append_nil] at htake hdrop
    obtain rfl | rfl := hexponent
    · rw [if_neg (List.cons_ne_nil _ _), scanExponent]
      simp [htake, hdrop, hne]
    · rw [if_neg (List.cons_ne_nil _ _), scanExponent]
      simp [htake, hdrop, hne]

/-- A layout is read as a float, to its end, and never as an integer. -/
theorem scanNumber_layout (floatRepr : String → String) {x : Shortest}
    {whole fraction exponent : List Char} (h : x.Layout whole fraction exponent) :
    scanNumber floatRepr (x.sign ++ layoutText whole fraction exponent) =
      some (.float (floatRepr (String.ofList (x.sign ++ layoutText whole fraction exponent))), []) := by
  have hexponent : ∀ c ∈ (if exponent = [] then [] else 'e' :: exponent).head?,
      c.isDigit = false ∧ c ≠ '.' := by
    intro c hc
    split_ifs at hc
    · cases hc
    · obtain rfl := Option.some.inj hc
      exact ⟨by decide, by decide⟩
  have hfraction : ∀ c ∈ ((if fraction = [] then [] else '.' :: fraction) ++
      if exponent = [] then [] else 'e' :: exponent).head?, c.isDigit = false := by
    intro c hc
    by_cases hnil : fraction = []
    · rw [if_pos hnil, List.nil_append] at hc
      exact (hexponent c hc).1
    · rw [if_neg hnil] at hc
      obtain rfl := Option.some.inj hc
      decide
  have hmarked : ¬ ((if fraction = [] then [] else '.' :: fraction) = [] ∧
      (if exponent = [] then [] else 'e' :: exponent) = []) := by
    rintro ⟨hnofraction, hnoexponent⟩
    obtain hne | hne := h.marked
    · rw [if_neg hne] at hnofraction
      cases hnofraction
    · rw [if_neg hne] at hnoexponent
      cases hnoexponent
  have hinteger := scanInteger_whole h.whole_ne_nil h.whole_digits h.whole_head hfraction
  unfold scanNumber
  rw [scanSign_append x h.head_layoutText]
  simp only [layoutText, mantissaText, hinteger, Option.bind_eq_bind, Option.bind_some,
    scanFraction_digits h.fraction_digits hexponent, scanExponent_signed h.exponent_digits,
    if_neg hmarked, List.append_assoc]
  rfl

theorem scanNumber_ryu (floatRepr : String → String) (x : Shortest) :
    scanNumber floatRepr (x.sign ++ x.ryuText) =
      some (.float (floatRepr (String.ofList (x.sign ++ x.ryuText))), []) := by
  obtain ⟨whole, fraction, exponent, htext, hlayout⟩ := x.ryu_layout
  rw [htext]
  exact scanNumber_layout floatRepr hlayout

/-- Nor is any two floats' difference lost. -/
theorem pythonRepr_eq_of_ryu {x y : Shortest} (h : x.sign ++ x.ryuText = y.sign ++ y.ryuText) :
    x.pythonRepr = y.pythonRepr := by
  obtain ⟨whole, fraction, exponent, htext, hlayout⟩ := x.ryu_layout
  obtain ⟨whole', fraction', exponent', htext', hlayout'⟩ := y.ryu_layout
  have hscan := congrArg scanSign h
  rw [htext, htext', scanSign_append x hlayout.head_layoutText,
    scanSign_append y hlayout'.head_layoutText] at hscan
  obtain ⟨hsign, hunsigned⟩ := Prod.mk.inj hscan
  have hzero : ∀ {x y : Shortest} {whole fraction exponent whole' fraction' exponent' : List Char},
      x.Layout whole fraction exponent → y.Layout whole' fraction' exponent' →
        x.ryuText = layoutText whole fraction exponent →
        layoutText whole fraction exponent = layoutText whole' fraction' exponent' →
          x.digits = [0] → y.digits = [0] := by
    intro x y whole fraction exponent whole' fraction' exponent' hx hy hxtext heq hxzero
    by_contra hyzero
    have hread := shortestRoundTripDigits_layout hy hyzero
    have hzeroText : x.ryuText = ['0', '.', '0'] := by
      rw [Shortest.ryuText, Shortest.pythonDecimal, Shortest.digitChars, hxzero,
        x.point_pos_of_zero hxzero]
      rfl
    rw [← heq, ← hxtext, hzeroText] at hread
    have hdigits : y.digitChars = ['0'] := (Prod.mk.inj (Except.ok.inj hread)).1.symm
    apply (y.ends_of_ne_zero hyzero).1
    rw [hdigits]
    rfl
  have hnumber : x.digitChars = y.digitChars ∧ x.point = y.point := by
    by_cases hxzero : x.digits = [0]
    · have hyzero := hzero hlayout hlayout' htext hunsigned hxzero
      rw [Shortest.digitChars, Shortest.digitChars, hxzero, hyzero, x.point_pos_of_zero hxzero,
        y.point_pos_of_zero hyzero]
      exact ⟨rfl, rfl⟩
    · have hyzero := mt (hzero hlayout' hlayout htext' hunsigned.symm) hxzero
      have hread := shortestRoundTripDigits_layout hlayout hxzero
      rw [hunsigned, shortestRoundTripDigits_layout hlayout' hyzero] at hread
      obtain ⟨hdigits, hpoint⟩ := Prod.mk.inj (Except.ok.inj hread)
      exact ⟨hdigits.symm, by omega⟩
  obtain ⟨hdigits, hpoint⟩ := hnumber
  have hlength : x.digits.length = y.digits.length := by
    rw [← x.length_digitChars, hdigits, y.length_digitChars]
  rw [Shortest.pythonRepr, Shortest.pythonRepr, Shortest.pythonExponential,
    Shortest.pythonExponential, Shortest.pythonDecimal, Shortest.pythonDecimal, hsign, hdigits,
    hpoint, hlength]

end CapsuleMesh.Viewer
