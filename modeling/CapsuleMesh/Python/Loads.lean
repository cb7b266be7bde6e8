import Mathlib.Data.List.TakeWhile
import CapsuleMesh.Python.SortKeys

/-!
# Reading a text back

`json.loads`, and that a value which `json.dumps(x, sort_keys=True, separators=(",", ":"))` wrote
comes back with the members of its dictionaries in order.
-/

namespace CapsuleMesh.Python

open Library

/-- What was read, and what follows it. -/
abbrev Scanner (α : Type) := List Char → Option (α × List Char)

def skipBlanks (cs : List Char) : List Char :=
  cs.dropWhile fun c => decide (c ∈ [' ', '\t', '\n', '\r'])

/-! ## Strings -/

def backslash : Char := Char.ofNat 92

def simpleEscape? (c : Char) : Option Char :=
  if c = doubleQuote ∨ c = backslash ∨ c = '/' then some c
  else if c = 'n' then some '\n'
  else if c = 'r' then some '\r'
  else if c = 't' then some '\t'
  else if c = 'b' then some (Char.ofNat 8)
  else if c = 'f' then some (Char.ofNat 12)
  else none

/-- `_decode_uXXXX`. -/
def scanUnit : Scanner ℕ
  | a :: b :: c :: d :: cs => do
      let a ← hexDigit? a
      let b ← hexDigit? b
      let c ← hexDigit? c
      let d ← hexDigit? d
      return (4096 * a + 256 * b + 16 * c + d, cs)
  | _ => none

/-- What follows `\u`.  Half of a surrogate pair is no character here. -/
def scanUnicode (cs : List Char) : Option (Char × List Char) := do
  let (unit, cs) ← scanUnit cs
  if 55296 ≤ unit ∧ unit < 56320 then
    match cs with
    | a :: b :: cs =>
        if a = backslash ∧ b = 'u' then
          let (low, cs) ← scanUnit cs
          if 56320 ≤ low ∧ low < 57344 then
            return (Char.ofNat (65536 + 1024 * (unit - 55296) + (low - 56320)), cs)
          else none
        else none
    | _ => none
  else if 56320 ≤ unit ∧ unit < 57344 then none
  else return (Char.ofNat unit, cs)

def scanChar : Scanner Char
  | [] => none
  | c :: cs =>
      if c = backslash then
        match cs with
        | [] => none
        | e :: cs => if e = 'u' then scanUnicode cs else (simpleEscape? e).map fun d => (d, cs)
      else if c.toNat < 32 then none
      else some (c, cs)

/-- What follows an opening quote. -/
def scanString : ℕ → Scanner (List Char)
  | 0, _ => none
  | _ + 1, [] => none
  | fuel + 1, c :: cs =>
      if c = doubleQuote then some ([], cs)
      else do
        let (d, cs) ← scanChar (c :: cs)
        let (text, cs) ← scanString fuel cs
        return (d :: text, cs)

/-! ## Numbers -/

def scanSign : List Char → List Char × List Char
  | [] => ([], [])
  | c :: cs => if c = '-' then (['-'], cs) else ([], c :: cs)

/-- `0|[1-9]\d*`. -/
def scanInteger : Scanner (List Char)
  | [] => none
  | c :: cs =>
      if c = '0' then some (['0'], cs)
      else if c.isDigit then some (c :: cs.takeWhile Char.isDigit, cs.dropWhile Char.isDigit)
      else none

/-- `(\.\d+)?`. -/
def scanFraction : List Char → List Char × List Char
  | a :: b :: cs =>
      if a = '.' ∧ b.isDigit then
        (a :: b :: cs.takeWhile Char.isDigit, cs.dropWhile Char.isDigit)
      else ([], a :: b :: cs)
  | cs => ([], cs)

/-- `([eE][-+]?\d+)?`. -/
def scanExponent : List Char → List Char × List Char
  | [] => ([], [])
  | a :: cs =>
      let (sign, ds) := match cs with
        | b :: ds => if b = '-' ∨ b = '+' then ([b], ds) else ([], cs)
        | [] => ([], [])
      if (a = 'e' ∨ a = 'E') ∧ ds.takeWhile Char.isDigit ≠ [] then
        (a :: sign ++ ds.takeWhile Char.isDigit, ds.dropWhile Char.isDigit)
      else ([], a :: cs)

/-- A number; `floatRepr` is `repr(float(text))`. -/
def scanNumber (floatRepr : String → String) : Scanner Json := fun cs => do
  let (sign, cs) := scanSign cs
  let (digits, cs) ← scanInteger cs
  let (fraction, cs) := scanFraction cs
  let (exponent, cs) := scanExponent cs
  if fraction = [] ∧ exponent = [] then
    let n := Nat.ofDigitChars 10 digits 0
    return (.int (if sign = [] then n else -n), cs)
  else
    return (.float (floatRepr (String.ofList (sign ++ digits ++ fraction ++ exponent))), cs)

/-! ## Values -/

def literals : List (String × Json) :=
  [("null", .null), ("true", .bool true), ("false", .bool false), ("NaN", .float "nan"),
   ("Infinity", .float "inf"), ("-Infinity", .float "-inf")]

def scanLiteral : Scanner Json := fun cs =>
  literals.findSome? fun l =>
    if l.1.toList.isPrefixOf cs then some (l.2, cs.drop l.1.length) else none

/-- Items with commas between them, to the closing bracket. -/
def scanItems {α : Type} (item : Scanner α) (close : Char) : ℕ → Scanner (List α)
  | 0, _ => none
  | fuel + 1, cs => do
      let (a, cs) ← item (skipBlanks cs)
      match skipBlanks cs with
      | [] => none
      | c :: cs =>
        if c = ',' then
          let (as, cs) ← scanItems item close fuel cs
          return (a :: as, cs)
        else if c = close then return ([a], cs)
        else none

/-- What follows an opening bracket. -/
def scanGroup {α : Type} (item : Scanner α) (close : Char) : Scanner (List α) := fun cs =>
  match skipBlanks cs with
  | [] => none
  | c :: rest => if c = close then some ([], rest) else scanItems item close cs.length (c :: rest)

def scanMember (value : Scanner Json) : Scanner (String × Json)
  | [] => none
  | c :: cs =>
      if c = doubleQuote then do
        let (key, cs) ← scanString cs.length cs
        match skipBlanks cs with
        | [] => none
        | c :: cs =>
          if c = ':' then
            let (v, cs) ← value (skipBlanks cs)
            return ((String.ofList key, v), cs)
          else none
      else none

/-- `dict(pairs)`. -/
def ofPairs (pairs : List (String × Json)) : List (String × Json) :=
  pairs.foldl (fun members m => Json.setMember m.1 m.2 members) []

/-- `scan_once`; the text is no longer than the fuel. -/
def scanOnce (floatRepr : String → String) : ℕ → Scanner Json
  | 0, _ => none
  | _ + 1, [] => none
  | fuel + 1, c :: cs =>
      if c = doubleQuote then do
        let (text, cs) ← scanString cs.length cs
        return (.str (String.ofList text), cs)
      else if c = '[' then do
        let (elems, cs) ← scanGroup (scanOnce floatRepr fuel) ']' cs
        return (.arr elems, cs)
      else if c = '\x7b' then do
        let (pairs, cs) ← scanGroup (scanMember (scanOnce floatRepr fuel)) '\x7d' cs
        return (.obj (ofPairs pairs), cs)
      else (scanLiteral (c :: cs)).orElse fun _ => scanNumber floatRepr (c :: cs)

/-- `json.loads`; a `JSONDecodeError` is a `ValueError`.  The depth of the value and the digits of
an integer meet no limit. -/
def loads (floatRepr : String → String) (text : String) : Py Json :=
  match scanOnce floatRepr text.length (skipBlanks text.toList) with
  | some (j, rest) => if skipBlanks rest = [] then .ok j else .error (.valueError "Extra data")
  | none => .error (.valueError "Expecting value")

/-- `data.decode("utf-8")`. -/
def decodeUtf8 (data : Bytes) : Py String :=
  match String.fromUTF8? ⟨data.toArray⟩ with
  | some text => .ok text
  | none => .error (.valueError "invalid utf-8")

/-! ## What the strings read -/

theorem scanUnit_digits {unit : ℕ} (h : unit < 65536) (rest : List Char) :
    scanUnit (hexChar (unit / 4096 % 16) :: hexChar (unit / 256 % 16) :: hexChar (unit / 16 % 16) ::
      hexChar (unit % 16) :: rest) = some (unit, rest) := by
  have hdigit : ∀ n, hexDigit? (hexChar (n % 16)) = some (n % 16) :=
    fun n => (hexChar_reads ⟨n % 16, Nat.mod_lt n (by decide)⟩).2
  simp only [scanUnit, hdigit, Option.bind_eq_bind, Option.bind_some, Option.pure_def]
  congr 2
  omega

theorem toList_unicodeEscape (unit : ℕ) :
    (unicodeEscape unit).toList = [backslash, 'u', hexChar (unit / 4096 % 16),
      hexChar (unit / 256 % 16), hexChar (unit / 16 % 16), hexChar (unit % 16)] := by
  simp only [unicodeEscape, String.toList_append, String.toList_ofList]
  rfl

theorem scanChar_backslash (cs : List Char) :
    scanChar (backslash :: 'u' :: cs) = scanUnicode cs := by
  rw [scanChar, if_pos rfl]
  exact if_pos rfl

theorem scanChar_escape {e d : Char} (hu : e ≠ 'u') (h : simpleEscape? e = some d)
    (rest : List Char) : scanChar (backslash :: e :: rest) = some (d, rest) := by
  rw [scanChar, if_pos rfl]
  simp only [if_neg hu, h, Option.map_some]

/-- A character is not half of a surrogate pair. -/
theorem toNat_surrogates (c : Char) : c.toNat < 55296 ∨ 57343 < c.toNat ∧ c.toNat < 1114112 := c.valid

theorem scanUnicode_small {c : Char} (h : c.toNat < 65536) (rest : List Char) :
    scanChar ((unicodeEscape c.toNat).toList ++ rest) = some (c, rest) := by
  have hvalid := toNat_surrogates c
  rw [toList_unicodeEscape]
  simp only [List.cons_append, List.nil_append]
  rw [scanChar_backslash, scanUnicode, scanUnit_digits h]
  simp only [Option.bind_eq_bind, Option.bind_some, Option.pure_def]
  rw [if_neg (by omega), if_neg (by omega), Char.ofNat_toNat]

theorem scanUnicode_pair {hi lo : ℕ} (hhi : hi < 1024) (hlo : lo < 1024) (rest : List Char) :
    scanChar ((unicodeEscape (55296 + hi)).toList ++ ((unicodeEscape (56320 + lo)).toList ++ rest)) =
      some (Char.ofNat (65536 + 1024 * hi + lo), rest) := by
  obtain ⟨unit, hunit⟩ : ∃ unit, unit = 55296 + hi := ⟨_, rfl⟩
  obtain ⟨low, hlow⟩ : ∃ low, low = 56320 + lo := ⟨_, rfl⟩
  have hcode : 65536 + 1024 * (unit - 55296) + (low - 56320) = 65536 + 1024 * hi + lo := by omega
  rw [← hunit, ← hlow, toList_unicodeEscape, toList_unicodeEscape]
  simp only [List.cons_append, List.nil_append]
  rw [scanChar_backslash, scanUnicode, scanUnit_digits (by omega)]
  simp only [Option.bind_eq_bind, Option.bind_some, Option.pure_def]
  rw [if_pos (by omega), if_pos ⟨trivial, trivial⟩, scanUnit_digits (by omega)]
  simp only [Option.bind_some]
  rw [if_pos (by omega), hcode]

theorem scanChar_escapeChar (c : Char) (rest : List Char) :
    scanChar ((escapeChar c).toList ++ rest) = some (c, rest) := by
  unfold escapeChar
  split_ifs with hquote hn hr ht hb hf hascii hsmall
  · obtain rfl | rfl := hquote
    · exact scanChar_escape (by decide) rfl rest
    · exact scanChar_escape (by decide) rfl rest
  · rw [hn]
    exact scanChar_escape (by decide) rfl rest
  · rw [hr]
    exact scanChar_escape (by decide) rfl rest
  · rw [ht]
    exact scanChar_escape (by decide) rfl rest
  · rw [hb]
    exact scanChar_escape (by decide) rfl rest
  · rw [hf]
    exact scanChar_escape (by decide) rfl rest
  · have hne : c ≠ backslash := fun h => hquote (.inr h)
    have hplain : c.toString.toList ++ rest = c :: rest := by simp
    rw [hplain]
    unfold scanChar
    simp only [if_neg hne, if_neg (show ¬c.toNat < 32 by omega)]
  · exact scanUnicode_small hsmall rest
  · have hvalid := toNat_surrogates c
    rw [String.toList_append, List.append_assoc, scanUnicode_pair (by omega) (by omega)]
    rw [show 65536 + 1024 * ((c.toNat - 65536) / 1024) + (c.toNat - 65536) % 1024 = c.toNat by omega,
      Char.ofNat_toNat]

/-- No escaped character begins with a quote. -/
theorem head_escapeChar (c : Char) : ∃ d ds, (escapeChar c).toList = d :: ds ∧ d ≠ doubleQuote := by
  unfold escapeChar
  split_ifs with hquote hn hr ht hb hf hascii hsmall
  · exact ⟨backslash, [c], by simp [backslash], by decide⟩
  · exact ⟨_, _, rfl, by decide⟩
  · exact ⟨_, _, rfl, by decide⟩
  · exact ⟨_, _, rfl, by decide⟩
  · exact ⟨_, _, rfl, by decide⟩
  · exact ⟨_, _, rfl, by decide⟩
  · exact ⟨c, [], by simp, fun h => hquote (.inl h)⟩
  · exact ⟨_, _, toList_unicodeEscape _, by decide⟩
  · rw [String.toList_append, toList_unicodeEscape, List.cons_append]
    exact ⟨backslash, _, rfl, by decide⟩

theorem scanString_escaped (cs rest : List Char) {fuel : ℕ} (h : cs.length < fuel) :
    scanString fuel (cs.flatMap (fun c => (escapeChar c).toList) ++ doubleQuote :: rest) =
      some (cs, rest) := by
  induction cs generalizing fuel with
  | nil =>
      obtain ⟨fuel, rfl⟩ := Nat.exists_eq_succ_of_ne_zero (Nat.ne_of_gt h)
      rw [List.flatMap_nil, List.nil_append, scanString, if_pos rfl]
  | cons c cs ih =>
      obtain ⟨fuel, rfl⟩ := Nat.exists_eq_succ_of_ne_zero (Nat.ne_of_gt (Nat.zero_lt_of_lt h))
      obtain ⟨d, ds, hescape, hd⟩ := head_escapeChar c
      have hread := scanChar_escapeChar c
        (cs.flatMap (fun c => (escapeChar c).toList) ++ doubleQuote :: rest)
      rw [hescape, List.cons_append] at hread
      rw [List.flatMap_cons, hescape, List.append_assoc, List.cons_append, scanString, if_neg hd,
        hread]
      simp only [Option.bind_eq_bind, Option.bind_some]
      rw [ih (Nat.lt_of_succ_lt_succ h)]
      rfl

theorem length_le_escaped (cs : List Char) :
    cs.length ≤ (cs.flatMap fun c => (escapeChar c).toList).length := by
  induction cs with
  | nil => exact Nat.zero_le _
  | cons c cs ih =>
      obtain ⟨d, ds, hescape, -⟩ := head_escapeChar c
      rw [List.flatMap_cons, hescape, List.length_append, List.length_cons, List.length_cons]
      omega

theorem toList_dumpsStr (s : String) :
    (dumpsStr s).toList =
      doubleQuote :: (s.toList.flatMap (fun c => (escapeChar c).toList) ++ [doubleQuote]) := by
  rw [dumpsStr, String.toList_append, String.toList_append, String.toList_join, List.flatMap_map]
  rfl

/-- What follows the opening quote of a dumped string. -/
theorem scanString_dumpsStr (s : String) (rest : List Char) :
    scanString (s.toList.flatMap (fun c => (escapeChar c).toList) ++ doubleQuote :: rest).length
      (s.toList.flatMap (fun c => (escapeChar c).toList) ++ doubleQuote :: rest) =
      some (s.toList, rest) := by
  apply scanString_escaped
  have hlength := length_le_escaped s.toList
  rw [List.length_append, List.length_cons]
  omega

/-! ## What the numbers read -/

/-- The text after a value: none, or a comma or a closing bracket. -/
def Stops (rest : List Char) : Prop := ∀ c ∈ rest.head?, c = ',' ∨ c = ']' ∨ c = '\x7d'

theorem stops_nil : Stops [] := by simp [Stops]

theorem stops_cons {c : Char} (h : c = ',' ∨ c = ']' ∨ c = '\x7d') (rest : List Char) :
    Stops (c :: rest) := by simpa [Stops] using h

section

variable {rest : List Char} (h : Stops rest)

include h

theorem Stops.cases : rest = [] ∨ ∃ c cs, rest = c :: cs ∧ c.isDigit = false ∧
    c ∉ ['-', '+', '.', 'e', 'E', '0'] := by
  cases rest with
  | nil => exact .inl rfl
  | cons c cs =>
      refine .inr ⟨c, cs, rfl, ?_⟩
      obtain rfl | rfl | rfl := h c rfl
      all_goals decide

theorem takeWhile_append_stops (cs : List Char) :
    (cs ++ rest).takeWhile Char.isDigit = cs.takeWhile Char.isDigit := by
  have hrest : rest.takeWhile Char.isDigit = [] := by
    obtain rfl | ⟨c, ds, rfl, hc, -⟩ := h.cases
    · rfl
    · rw [List.takeWhile_cons_of_neg (by simp [hc])]
  induction cs with
  | nil => exact hrest
  | cons c cs ih => rw [List.cons_append, List.takeWhile_cons, List.takeWhile_cons, ih]

theorem dropWhile_append_stops (cs : List Char) :
    (cs ++ rest).dropWhile Char.isDigit = cs.dropWhile Char.isDigit ++ rest := by
  have hrest : rest.dropWhile Char.isDigit = rest := by
    obtain rfl | ⟨c, ds, rfl, hc, -⟩ := h.cases
    · rfl
    · rw [List.dropWhile_cons_of_neg (by simp [hc])]
  induction cs with
  | nil => exact hrest
  | cons c cs ih =>
      rw [List.cons_append, List.dropWhile_cons, List.dropWhile_cons, ih]
      split_ifs <;> rfl

theorem scanSign_append (cs : List Char) :
    scanSign (cs ++ rest) = ((scanSign cs).1, (scanSign cs).2 ++ rest) := by
  cases cs with
  | nil =>
      obtain rfl | ⟨c, ds, rfl, -, hc⟩ := h.cases
      · rfl
      · have hminus : c ≠ '-' := by
          rintro rfl
          simp at hc
        simp [scanSign, hminus]
  | cons c cs =>
      rw [List.cons_append, scanSign, scanSign]
      split_ifs <;> rfl

theorem scanInteger_append (cs : List Char) :
    scanInteger (cs ++ rest) = (scanInteger cs).map fun r => (r.1, r.2 ++ rest) := by
  cases cs with
  | nil =>
      obtain rfl | ⟨c, ds, rfl, hdigit, hc⟩ := h.cases
      · rfl
      · have hzero : c ≠ '0' := by
          rintro rfl
          simp at hc
        simp [scanInteger, hzero, hdigit]
  | cons c cs =>
      rw [List.cons_append, scanInteger, scanInteger, takeWhile_append_stops h,
        dropWhile_append_stops h]
      split_ifs <;> rfl

theorem scanFraction_append (cs : List Char) :
    scanFraction (cs ++ rest) = ((scanFraction cs).1, (scanFraction cs).2 ++ rest) := by
  match cs with
  | [] =>
      obtain rfl | ⟨c, ds, rfl, -, hc⟩ := h.cases
      · rfl
      · have hpoint : c ≠ '.' := by
          rintro rfl
          simp at hc
        cases ds <;> simp [scanFraction, hpoint]
  | [a] =>
      obtain rfl | ⟨c, ds, rfl, hdigit, -⟩ := h.cases
      · rfl
      · simp [scanFraction, hdigit]
  | a :: b :: cs =>
      rw [List.cons_append, List.cons_append, scanFraction, scanFraction, takeWhile_append_stops h,
        dropWhile_append_stops h]
      split_ifs <;> rfl

theorem scanExponent_append (cs : List Char) :
    scanExponent (cs ++ rest) = ((scanExponent cs).1, (scanExponent cs).2 ++ rest) := by
  match cs with
  | [] =>
      obtain rfl | ⟨c, ds, rfl, -, hc⟩ := h.cases
      · rfl
      · have hletter : ¬(c = 'e' ∨ c = 'E') := by
          rintro (rfl | rfl) <;> simp at hc
        simp [scanExponent, hletter]
  | [a] =>
      obtain rfl | ⟨c, ds, rfl, hdigit, hc⟩ := h.cases
      · simp
      · have hsign : ¬(c = '-' ∨ c = '+') := by
          rintro (rfl | rfl) <;> simp at hc
        simp [scanExponent, hsign, hdigit]
  | a :: b :: cs =>
      rw [List.cons_append, List.cons_append, scanExponent, scanExponent]
      by_cases hsign : b = '-' ∨ b = '+'
      · simp only [if_pos hsign, takeWhile_append_stops h, dropWhile_append_stops h]
        split_ifs <;> rfl
      · have htake := takeWhile_append_stops h (b :: cs)
        have hdrop := dropWhile_append_stops h (b :: cs)
        rw [List.cons_append] at htake hdrop
        simp only [if_neg hsign, htake, hdrop]
        split_ifs <;> rfl

theorem scanNumber_append (floatRepr : String → String) (cs : List Char) :
    scanNumber floatRepr (cs ++ rest) =
      (scanNumber floatRepr cs).map fun r => (r.1, r.2 ++ rest) := by
  unfold scanNumber
  simp only [scanSign_append h, scanInteger_append h]
  cases hdigits : scanInteger (scanSign cs).2 with
  | none => rfl
  | some digits =>
      simp only [Option.map_some, Option.bind_eq_bind, Option.bind_some, scanFraction_append h,
        scanExponent_append h]
      split_ifs <;> rfl

end

/-- A numeral does not begin with a zero. -/
theorem head_toDigits (n : ℕ) (hn : 0 < n) : ∃ d ds, Nat.toDigits 10 n = d :: ds ∧ d ≠ '0' := by
  induction n using Nat.strongRecOn with
  | ind n ih =>
      rw [Nat.toDigits_eq_if (by decide)]
      split_ifs with hlt
      · have hdigit : ∀ m < 10, 0 < m → m.digitChar ≠ '0' := by decide
        exact ⟨n.digitChar, [], rfl, hdigit n hlt hn⟩
      · obtain ⟨d, ds, hdigits, hd⟩ := ih (n / 10) (by omega) (by omega)
        exact ⟨d, ds ++ [(n % 10).digitChar], by rw [hdigits, List.cons_append], hd⟩

theorem scanInteger_toDigits (n : ℕ) :
    scanInteger (Nat.toDigits 10 n) = some (Nat.toDigits 10 n, []) := by
  obtain rfl | hn := Nat.eq_zero_or_pos n
  · rfl
  · obtain ⟨d, ds, hdigits, hd⟩ := head_toDigits n hn
    have hall : ∀ c ∈ d :: ds, c.isDigit = true := by
      intro c hc
      rw [← hdigits] at hc
      exact Nat.isDigit_of_mem_toDigits (by decide) (by decide) hc
    have htail : ∀ c ∈ ds, c.isDigit = true := fun c hc => hall c (List.mem_cons_of_mem d hc)
    rw [hdigits, scanInteger, if_neg hd, if_pos (hall d List.mem_cons_self),
      List.takeWhile_eq_self_iff.mpr htail, List.dropWhile_eq_nil_iff.mpr htail]

theorem scanNumber_int (floatRepr : String → String) (n : Int) :
    scanNumber floatRepr (toString n).toList = some (.int n, []) := by
  have hsign : ∀ m, scanSign (Nat.toDigits 10 m) = ([], Nat.toDigits 10 m) := by
    intro m
    obtain ⟨d, ds, hdigits⟩ := List.exists_cons_of_ne_nil (Nat.toDigits_ne_nil (n := m) (b := 10))
    have hdigit : d.isDigit = true :=
      Nat.isDigit_of_mem_toDigits (b := 10) (n := m) (by decide) (by decide) (by simp [hdigits])
    have hminus : d ≠ '-' := by
      rintro rfl
      exact absurd hdigit (by decide)
    rw [hdigits, scanSign, if_neg hminus]
  rw [Int.toString_eq_repr, Int.repr_eq_if]
  split_ifs with hn
  · rw [Nat.toList_repr, scanNumber]
    simp only [hsign, scanInteger_toDigits, Option.bind_eq_bind, Option.bind_some]
    simp [scanFraction, scanExponent, Nat.ofDigitChars_ten_toDigits, hn]
  · rw [String.toList_append, Nat.toList_repr, scanNumber]
    have hminus : scanSign ("-".toList ++ Nat.toDigits 10 (-n).toNat) =
        (['-'], Nat.toDigits 10 (-n).toNat) := rfl
    simp only [hminus, scanInteger_toDigits, Option.bind_eq_bind, Option.bind_some]
    simp [scanFraction, scanExponent, Nat.ofDigitChars_ten_toDigits]
    omega

/-! ## What the values read -/

/-- Characters that a value may begin with. -/
def Opens (c : Char) : Prop :=
  c ∉ [' ', '\t', '\n', '\r', ']', '\x7d', ',', ':']

theorem skipBlanks_cons {c : Char} (h : Opens c) (cs : List Char) :
    skipBlanks (c :: cs) = c :: cs := by
  apply List.dropWhile_cons_of_neg
  simp only [Opens, List.mem_cons, not_or] at h
  simp [h]

theorem skipBlanks_stops {rest : List Char} (h : Stops rest) : skipBlanks rest = rest := by
  cases rest with
  | nil => rfl
  | cons c cs =>
      obtain rfl | rfl | rfl := h c rfl
      all_goals rfl

/-- Texts are joined with a comma and blanks. -/
structure Joins (join : List String → String) (blanks : List Char) : Prop where
  nil : join [] = ""
  single : ∀ t, join [t] = t
  cons : ∀ t t' ts, (join (t :: t' :: ts)).toList =
    t.toList ++ ',' :: (blanks ++ (join (t' :: ts)).toList)
  skips : ∀ cs, skipBlanks (blanks ++ cs) = skipBlanks cs

theorem joins_commaJoin : Joins commaJoin [] where
  nil := rfl
  single _ := rfl
  cons t t' ts := by simp [commaJoin]
  skips _ := rfl

section

variable {α β : Type} {item : Scanner α} {close : Char} {text : β → String} {read : β → α}
  {join : List String → String} {blanks : List Char} (hjoins : Joins join blanks)

include hjoins

/-- Items in their texts, with commas between them. -/
theorem scanItems_join (hclose : close = ']' ∨ close = '\x7d') (rest : List Char) (b : β)
    (bs : List β) (hitem : ∀ x ∈ b :: bs, ∀ rest, Stops rest →
      item ((text x).toList ++ rest) = some (read x, rest))
    (hhead : ∀ x ∈ b :: bs, ∃ c cs, (text x).toList = c :: cs ∧ Opens c) {fuel : ℕ}
    (hfuel : bs.length < fuel) :
    scanItems item close fuel ((join ((b :: bs).map text)).toList ++ close :: rest) =
      some (read b :: bs.map read, rest) := by
  have hskip : ∀ x ∈ b :: bs, ∀ rest,
      skipBlanks ((text x).toList ++ rest) = (text x).toList ++ rest := by
    intro x hx rest
    obtain ⟨c, cs, htext, hc⟩ := hhead x hx
    rw [htext, List.cons_append, skipBlanks_cons hc]
  have hblanks : ∀ fuel cs, scanItems item close fuel (blanks ++ cs) =
      scanItems item close fuel cs := by
    intro fuel cs
    cases fuel with
    | zero => rfl
    | succ fuel => rw [scanItems, scanItems, hjoins.skips]
  obtain ⟨fuel, rfl⟩ := Nat.exists_eq_succ_of_ne_zero (Nat.ne_of_gt (Nat.zero_lt_of_lt hfuel))
  induction bs generalizing b fuel with
  | nil =>
      have hstops : Stops (close :: rest) := stops_cons (.inr hclose) rest
      rw [List.map_cons, List.map_nil, hjoins.single, scanItems, hskip b List.mem_cons_self,
        hitem b List.mem_cons_self _ hstops]
      have hcomma : close ≠ ',' := by
        obtain rfl | rfl := hclose <;> decide
      simp only [Option.bind_eq_bind, Option.bind_some, skipBlanks_stops hstops, if_neg hcomma,
        if_true, Option.pure_def, List.map_nil]
  | cons b' bs ih =>
      have hjoin : (join ((b :: b' :: bs).map text)).toList ++ close :: rest = (text b).toList ++
          (',' :: (blanks ++ ((join ((b' :: bs).map text)).toList ++ close :: rest))) := by
        simp [hjoins.cons]
      rw [hjoin, scanItems, hskip b List.mem_cons_self,
        hitem b List.mem_cons_self _ (stops_cons (.inl rfl) _)]
      simp only [Option.bind_eq_bind, Option.bind_some, skipBlanks_stops (stops_cons (.inl rfl) _),
        if_true, hblanks]
      obtain ⟨fuel, rfl⟩ := Nat.exists_eq_succ_of_ne_zero
        (Nat.ne_of_gt (Nat.zero_lt_of_lt (Nat.lt_of_succ_lt_succ hfuel)))
      rw [ih b' (fun x hx => hitem x (List.mem_cons_of_mem b hx))
        (fun x hx => hhead x (List.mem_cons_of_mem b hx))
        (fun x hx => hskip x (List.mem_cons_of_mem b hx)) fuel (Nat.lt_of_succ_lt_succ hfuel)]
      rfl

theorem length_lt_join (b : β) (bs : List β)
    (hhead : ∀ x ∈ b :: bs, ∃ c cs, (text x).toList = c :: cs ∧ Opens c) :
    bs.length < (join ((b :: bs).map text)).toList.length := by
  induction bs generalizing b with
  | nil =>
      obtain ⟨c, cs, htext, -⟩ := hhead b List.mem_cons_self
      simp [hjoins.single, htext]
  | cons b' bs ih =>
      have hrest := ih b' fun x hx => hhead x (List.mem_cons_of_mem b hx)
      rw [List.map_cons, List.map_cons, hjoins.cons, ← List.map_cons, List.length_append,
        List.length_cons, List.length_cons, List.length_append]
      omega

theorem scanGroup_join (hclose : close = ']' ∨ close = '\x7d') (rest : List Char)
    (bs : List β) (hitem : ∀ x ∈ bs, ∀ rest, Stops rest →
      item ((text x).toList ++ rest) = some (read x, rest))
    (hhead : ∀ x ∈ bs, ∃ c cs, (text x).toList = c :: cs ∧ Opens c) :
    scanGroup item close ((join (bs.map text)).toList ++ close :: rest) =
      some (bs.map read, rest) := by
  cases bs with
  | nil =>
      rw [List.map_nil, hjoins.nil]
      simp [scanGroup, skipBlanks_stops (stops_cons (.inr hclose) rest)]
  | cons b bs =>
      obtain ⟨c, cs, htext, hc⟩ := hhead b List.mem_cons_self
      obtain ⟨ds, hjoin⟩ : ∃ ds, (join ((b :: bs).map text)).toList = c :: ds := by
        cases bs with
        | nil => exact ⟨cs, by simp [hjoins.single, htext]⟩
        | cons b' bs =>
          rw [List.map_cons, List.map_cons, hjoins.cons, htext]
          exact ⟨_, rfl⟩
      have hne : c ≠ close := by
        rintro rfl
        obtain rfl | rfl := hclose
        all_goals simp [Opens] at hc
      have hlength := length_lt_join hjoins b bs hhead
      have hread := scanItems_join hjoins hclose rest b bs hitem hhead
        (show bs.length < ((join ((b :: bs).map text)).toList ++ close :: rest).length by
          rw [List.length_append]
          omega)
      rw [hjoin, List.cons_append] at hread ⊢
      rw [scanGroup, skipBlanks_cons hc]
      simp only [if_neg hne]
      exact hread

theorem length_le_join {bs : List β} {b : β} (h : b ∈ bs) :
    (text b).toList.length ≤ (join (bs.map text)).toList.length := by
  induction bs with
  | nil => cases h
  | cons b' bs ih =>
      cases bs with
      | nil =>
        rw [List.mem_singleton] at h
        rw [h, List.map_cons, List.map_nil, hjoins.single]
      | cons b'' bs =>
        rw [List.map_cons, List.map_cons, hjoins.cons, List.length_append, List.length_cons,
          List.length_append]
        obtain rfl | h := List.mem_cons.mp h
        · omega
        · have hrest := ih h
          rw [List.map_cons] at hrest
          omega

end

/-- A value of Python: no key is twice in a dictionary, and `json` reads the text of a float. -/
inductive Json.Proper (floatRepr : String → String) : Json → Prop
  | null : Proper floatRepr .null
  | bool (b : Bool) : Proper floatRepr (.bool b)
  | int (n : Int) : Proper floatRepr (.int n)
  | str (s : String) : Proper floatRepr (.str s)
  | nonfinite {repr : String} : repr ∈ ["nan", "inf", "-inf"] → Proper floatRepr (.float repr)
  | finite {repr : String} : repr ∉ ["nan", "inf", "-inf"] →
      scanNumber floatRepr repr.toList = some (.float repr, []) → Proper floatRepr (.float repr)
  | arr {elems : List Json} : (∀ e ∈ elems, Proper floatRepr e) → Proper floatRepr (.arr elems)
  | obj {members : List (String × Json)} : (members.map Prod.fst).Nodup →
      (∀ m ∈ members, Proper floatRepr m.2) → Proper floatRepr (.obj members)

namespace Json

variable {floatRepr : String → String}

@[simp] theorem proper_str (s : String) : (str s).Proper floatRepr := .str s

@[simp] theorem proper_int (n : Int) : (int n).Proper floatRepr := .int n

@[simp] theorem proper_bool (b : Bool) : (bool b).Proper floatRepr := .bool b

@[simp] theorem proper_null : null.Proper floatRepr := .null

@[simp] theorem proper_arr {elems : List Json} :
    (arr elems).Proper floatRepr ↔ ∀ e ∈ elems, e.Proper floatRepr :=
  ⟨fun | .arr h => h, .arr⟩

@[simp] theorem proper_obj {members : List (String × Json)} :
    (obj members).Proper floatRepr ↔
      (members.map Prod.fst).Nodup ∧ ∀ m ∈ members, m.2.Proper floatRepr :=
  ⟨fun | .obj h h' => ⟨h, h'⟩, fun h => .obj h.1 h.2⟩

end Json

theorem ofPairs_of_nodup {pairs : List (String × Json)} (h : (pairs.map Prod.fst).Nodup) :
    ofPairs pairs = pairs := by
  have hset : ∀ (key : String) (v : Json) (members : List (String × Json)),
      key ∉ members.map Prod.fst → Json.setMember key v members = members ++ [(key, v)] := by
    intro key v members hkey
    induction members with
    | nil => rfl
    | cons m ms ih =>
        rw [List.map_cons, List.mem_cons, not_or] at hkey
        rw [Json.setMember, if_neg (Ne.symm hkey.1), ih hkey.2, List.cons_append]
  have hfold : ∀ done, ((done ++ pairs).map Prod.fst).Nodup →
      pairs.foldl (fun members m => Json.setMember m.1 m.2 members) done = done ++ pairs := by
    clear h
    induction pairs with
    | nil =>
        intro done _
        rw [List.foldl_nil, List.append_nil]
    | cons m ms ih =>
        intro done hnodup
        have hm : m.1 ∉ done.map Prod.fst := by
          rw [List.map_append, List.map_cons] at hnodup
          intro hmem
          exact (List.nodup_append.mp hnodup).2.2 _ hmem _ List.mem_cons_self rfl
        rw [List.foldl_cons, hset _ _ _ hm, ih (done ++ [m]) (by simpa using hnodup),
          List.append_assoc, List.singleton_append]
  exact hfold [] h

/-! ## The round trip -/

section

variable {floatRepr : String → String}

/-- A number begins with a digit, or with a sign and a digit. -/
theorem numeral_of_scanNumber {cs : List Char} {r : Json × List Char}
    (h : scanNumber floatRepr cs = some r) :
    ∃ d ds, d.isDigit = true ∧ (cs = d :: ds ∨ cs = '-' :: d :: ds) := by
  have hinteger : ∀ {cs r}, scanInteger cs = some r → ∃ d ds, d.isDigit = true ∧ cs = d :: ds := by
    intro cs r hr
    cases cs with
    | nil => cases hr
    | cons d ds =>
        refine ⟨d, ds, ?_, rfl⟩
        rw [scanInteger] at hr
        split_ifs at hr with hzero hdigit
        · rw [hzero]
          decide
        · exact hdigit
  unfold scanNumber at h
  cases hdigits : scanInteger (scanSign cs).2 with
  | none => simp [hdigits] at h
  | some digits =>
      obtain ⟨d, ds, hd, hcs⟩ := hinteger hdigits
      refine ⟨d, ds, hd, ?_⟩
      cases cs with
      | nil => cases hcs
      | cons c cs =>
        rw [scanSign] at hcs
        split_ifs at hcs with hminus
        · rw [hminus]
          exact .inr (congrArg (List.cons '-') hcs)
        · exact .inl hcs

theorem scanLiteral_numeral {d : Char} (h : d.isDigit = true) (ds : List Char) :
    scanLiteral (d :: ds) = none ∧ scanLiteral ('-' :: d :: ds) = none := by
  have hnone : (['n', 't', 'f', 'N', 'I', '-'].all fun c => !c.isDigit) = true := rfl
  have hd : ∀ c ∈ ['n', 't', 'f', 'N', 'I', '-'], c ≠ d := by
    rintro c hc rfl
    simpa [h] using List.all_eq_true.mp hnone c hc
  simp only [List.mem_cons, List.not_mem_nil, or_false, forall_eq_or_imp, forall_eq] at hd
  simp [scanLiteral, literals, hd]

theorem scanOnce_number {cs rest : List Char} {j : Json} (hrest : Stops rest)
    (h : scanNumber floatRepr cs = some (j, [])) (fuel : ℕ) :
    scanOnce floatRepr (fuel + 1) (cs ++ rest) = some (j, rest) := by
  have hnumber : scanNumber floatRepr (cs ++ rest) = some (j, rest) := by
    rw [scanNumber_append hrest, h]
    rfl
  obtain ⟨d, ds, hd, hcs⟩ := numeral_of_scanNumber h
  obtain ⟨hliteral, hsigned⟩ := scanLiteral_numeral hd (ds ++ rest)
  have hother : ∀ c, c.isDigit = true ∨ c = '-' → c ≠ doubleQuote ∧ c ≠ '[' ∧ c ≠ '\x7b' := by
    rintro c (hc | rfl)
    · refine ⟨?_, ?_, ?_⟩
      all_goals
        rintro rfl
        revert hc
        decide
    · decide
  obtain rfl | rfl := hcs
  · obtain ⟨hquote, hbracket, hbrace⟩ := hother d (.inl hd)
    rw [List.cons_append] at hnumber ⊢
    rw [scanOnce, if_neg hquote, if_neg hbracket, if_neg hbrace, hliteral]
    exact hnumber
  · obtain ⟨hquote, hbracket, hbrace⟩ := hother '-' (.inr rfl)
    rw [List.cons_append, List.cons_append] at hnumber ⊢
    rw [scanOnce, if_neg hquote, if_neg hbracket, if_neg hbrace, hsigned]
    exact hnumber

theorem head_numeral {cs : List Char} {r : Json × List Char}
    (h : scanNumber floatRepr cs = some r) : ∃ c ds, cs = c :: ds ∧ Opens c := by
  obtain ⟨d, ds, hd, rfl | rfl⟩ := numeral_of_scanNumber h
  · have hopens : ([' ', '\t', '\n', '\r', ']', '\x7d', ',', ':'].all fun c ↦ !c.isDigit) = true := rfl
    refine ⟨d, ds, rfl, fun hmem => ?_⟩
    simpa [hd] using List.all_eq_true.mp hopens d hmem
  · exact ⟨'-', _, rfl, by simp [Opens]⟩

theorem dumpsFloat_finite {repr : String} (h : repr ∉ ["nan", "inf", "-inf"]) :
    dumpsFloat repr = repr := by
  simp only [List.mem_cons, List.not_mem_nil, or_false, not_or] at h
  simp [dumpsFloat, h]

end

/-- A way to write values down, and what the text is read back as: lists and dictionaries join
their items, and the members of a dictionary are put in some order. -/
structure Writes (text : Json → String) (read : Json → Json) (join : List String → String)
    (blanks : List Char) (order : List (String × Json) → List (String × Json))
    (member : String × Json → String) : Prop where
  joins : Joins join blanks
  perm : ∀ members, (order members).Perm members
  member_toList : ∀ m, (member m).toList = doubleQuote ::
    (m.1.toList.flatMap (fun c => (escapeChar c).toList) ++
      doubleQuote :: ':' :: (blanks ++ (text m.2).toList))
  null : text .null = "null" ∧ read .null = .null
  bool : ∀ b, (text (.bool b) = if b then "true" else "false") ∧ read (.bool b) = .bool b
  int : ∀ n, text (.int n) = toString n ∧ read (.int n) = .int n
  float : ∀ repr, text (.float repr) = dumpsFloat repr ∧ read (.float repr) = .float repr
  str : ∀ s, text (.str s) = dumpsStr s ∧ read (.str s) = .str s
  arr : ∀ elems, text (.arr elems) = "[" ++ join (elems.map text) ++ "]" ∧
    read (.arr elems) = .arr (elems.map read)
  obj : ∀ members, text (.obj members) = "\x7b" ++ join ((order members).map member) ++ "\x7d" ∧
    read (.obj members) = .obj ((order members).map fun m => (m.1, read m.2))

namespace Writes

variable {floatRepr : String → String} {text : Json → String} {read : Json → Json}
  {join : List String → String} {blanks : List Char}
  {order : List (String × Json) → List (String × Json)} {member : String × Json → String}
  (hw : Writes text read join blanks order member)

include hw

theorem head_text {j : Json} (h : j.Proper floatRepr) :
    ∃ c cs, (text j).toList = c :: cs ∧ Opens c := by
  cases h with
  | null => exact ⟨'n', "ull".toList, by rw [hw.null.1]; rfl, by simp [Opens]⟩
  | bool b =>
      rw [(hw.bool b).1]
      cases b with
      | false => exact ⟨'f', "alse".toList, rfl, by simp [Opens]⟩
      | true => exact ⟨'t', "rue".toList, rfl, by simp [Opens]⟩
  | int n =>
      rw [(hw.int n).1]
      exact head_numeral (scanNumber_int floatRepr n)
  | str s =>
      rw [(hw.str s).1, toList_dumpsStr]
      exact ⟨doubleQuote, _, rfl, by simp [Opens, doubleQuote]⟩
  | @nonfinite repr hrepr =>
      rw [(hw.float repr).1]
      simp only [List.mem_cons, List.not_mem_nil, or_false] at hrepr
      obtain rfl | rfl | rfl := hrepr
      · exact ⟨'N', "aN".toList, rfl, by simp [Opens]⟩
      · exact ⟨'I', "nfinity".toList, rfl, by simp [Opens]⟩
      · exact ⟨'-', "Infinity".toList, rfl, by simp [Opens]⟩
  | @finite repr hrepr hread =>
      rw [(hw.float repr).1, dumpsFloat_finite hrepr]
      exact head_numeral hread
  | @arr elems _ =>
      rw [(hw.arr elems).1, String.toList_append, String.toList_append]
      exact ⟨'[', _, rfl, by simp [Opens]⟩
  | @obj members _ _ =>
      rw [(hw.obj members).1, String.toList_append, String.toList_append]
      exact ⟨'\x7b', _, rfl, by simp [Opens]⟩

theorem scanMember_member {value : Scanner Json} {m : String × Json} {rest : List Char}
    (hhead : ∃ c cs, (text m.2).toList = c :: cs ∧ Opens c)
    (hvalue : value ((text m.2).toList ++ rest) = some (read m.2, rest)) :
    scanMember value ((member m).toList ++ rest) = some ((m.1, read m.2), rest) := by
  obtain ⟨c, cs, htext, hc⟩ := hhead
  have hskip : skipBlanks (blanks ++ ((text m.2).toList ++ rest)) = (text m.2).toList ++ rest := by
    rw [hw.joins.skips, htext, List.cons_append, skipBlanks_cons hc]
  have hcolon : ∀ cs, skipBlanks (':' :: cs) = ':' :: cs := fun cs => rfl
  rw [hw.member_toList, List.cons_append, List.append_assoc, List.cons_append, List.cons_append,
    List.append_assoc, scanMember, if_pos rfl, scanString_dumpsStr]
  simp only [Option.bind_eq_bind, Option.bind_some, hcolon, if_true, hskip, hvalue,
    String.ofList_toList, Option.pure_def]

/-- A value is read from its text, whatever follows. -/
theorem scanOnce_text (fuel : ℕ) : ∀ {j : Json}, j.Proper floatRepr →
    (text j).toList.length ≤ fuel → ∀ rest, Stops rest →
      scanOnce floatRepr fuel ((text j).toList ++ rest) = some (read j, rest) := by
  induction fuel with
  | zero =>
      intro j hj hfuel
      obtain ⟨c, cs, htext, -⟩ := hw.head_text hj
      rw [htext] at hfuel
      cases hfuel
  | succ fuel ih =>
      intro j hj hfuel rest hrest
      cases hj with
      | null =>
        rw [hw.null.1, hw.null.2]
        rfl
      | bool b =>
        rw [(hw.bool b).1, (hw.bool b).2]
        cases b <;> rfl
      | int n =>
        rw [(hw.int n).1, (hw.int n).2]
        exact scanOnce_number hrest (scanNumber_int floatRepr n) fuel
      | str s =>
        rw [(hw.str s).1, (hw.str s).2, toList_dumpsStr, List.cons_append, List.append_assoc,
          List.singleton_append, scanOnce, if_pos rfl, scanString_dumpsStr]
        simp
      | @nonfinite repr hrepr =>
        rw [(hw.float repr).1, (hw.float repr).2]
        simp only [List.mem_cons, List.not_mem_nil, or_false] at hrepr
        obtain rfl | rfl | rfl := hrepr
        all_goals rfl
      | @finite repr hrepr hread =>
        rw [(hw.float repr).1, (hw.float repr).2, dumpsFloat_finite hrepr]
        exact scanOnce_number hrest hread fuel
      | @arr elems helems =>
        have htext : (text (.arr elems)).toList =
            '[' :: ((join (elems.map text)).toList ++ [']']) := by
          rw [(hw.arr elems).1, String.toList_append, String.toList_append]
          rfl
        rw [htext, List.length_cons, List.length_append] at hfuel
        have hgroup : scanGroup (scanOnce floatRepr fuel) ']'
            ((join (elems.map text)).toList ++ ']' :: rest) = some (elems.map read, rest) := by
          apply scanGroup_join hw.joins (.inl rfl)
          · intro e he
            exact ih (helems e he) ((length_le_join hw.joins he).trans (by omega))
          · exact fun e he => hw.head_text (helems e he)
        rw [htext, List.cons_append, List.append_assoc, List.singleton_append, scanOnce,
          if_neg (by decide), if_pos rfl, hgroup, (hw.arr elems).2]
        rfl
      | @obj members hnodup hmembers =>
        have htext : (text (.obj members)).toList =
            '\x7b' :: ((join ((order members).map member)).toList ++ ['\x7d']) := by
          rw [(hw.obj members).1, String.toList_append, String.toList_append]
          rfl
        rw [htext, List.length_cons, List.length_append] at hfuel
        have hperm := hw.perm members
        have hmember : ∀ m ∈ order members, m.2.Proper floatRepr :=
          fun m hm => hmembers m (hperm.subset hm)
        have hgroup : scanGroup (scanMember (scanOnce floatRepr fuel)) '\x7d'
            ((join ((order members).map member)).toList ++ '\x7d' :: rest) =
            some ((order members).map fun m => (m.1, read m.2), rest) := by
          apply scanGroup_join hw.joins (.inr rfl)
          · intro m hm rest hrest
            have hhead := hw.head_text (hmember m hm)
            have hlength : (text m.2).toList.length ≤ fuel := by
              have hjoin : (member m).toList.length ≤
                  (join ((order members).map member)).toList.length :=
                length_le_join hw.joins hm
              rw [hw.member_toList, List.length_cons, List.length_append, List.length_cons,
                List.length_cons, List.length_append] at hjoin
              omega
            exact hw.scanMember_member hhead (ih (hmember m hm) hlength rest hrest)
          · intro m _
            exact ⟨doubleQuote, _, hw.member_toList m, by simp [Opens, doubleQuote]⟩
        have hkeys : (((order members).map fun m => (m.1, read m.2)).map Prod.fst).Nodup := by
          rw [List.map_map]
          exact (hperm.map Prod.fst).nodup_iff.mpr hnodup
        rw [htext, List.cons_append, List.append_assoc, List.singleton_append, scanOnce,
          if_neg (by decide), if_neg (by decide), if_pos rfl, hgroup, (hw.obj members).2]
        simp only [Option.bind_eq_bind, Option.bind_some, ofPairs_of_nodup hkeys, Option.pure_def]

theorem loads_text {j : Json} (h : j.Proper floatRepr) :
    loads floatRepr (text j) = .ok (read j) := by
  obtain ⟨c, cs, htext, hc⟩ := hw.head_text h
  have hskip : skipBlanks (text j).toList = (text j).toList := by
    rw [htext, skipBlanks_cons hc]
  have hread := hw.scanOnce_text (text j).length h (Nat.le_of_eq String.length_toList) []
    stops_nil
  rw [List.append_nil] at hread
  rw [loads, hskip, hread]
  rfl

end Writes

/-! ## The canonical text -/

theorem Json.canonicalElems_eq_map (elems : List Json) :
    canonicalElems elems = elems.map canonical := by
  induction elems with
  | nil => rfl
  | cons e es ih => rw [canonicalElems, ih, List.map_cons]

/-- A member as it is written. -/
def memberText (m : String × Json) : String := dumpsStr m.1 ++ ":" ++ m.2.canonical

theorem Json.canonical_obj (members : List (String × Json)) :
    (obj members).canonical =
      "\x7b" ++ commaJoin ((sortByKey members).map memberText) ++ "\x7d" := by
  rw [canonical, canonicalMembers_eq_map]
  have hsort := map_sortByKey canonical members
  rw [sortByKey, sortByKey] at hsort
  rw [← hsort, List.map_map]
  rfl

theorem writes_canonical :
    Writes Json.canonical Json.sortKeys commaJoin [] sortByKey memberText where
  joins := joins_commaJoin
  perm members := List.perm_insertionSort (fun a b : String × Json => a.1 ≤ b.1) members
  member_toList m := by
    rw [memberText, String.toList_append, String.toList_append, toList_dumpsStr]
    simp
  null := ⟨by rw [Json.canonical], Json.sortKeys_null⟩
  bool b := ⟨by rw [Json.canonical], Json.sortKeys_bool b⟩
  int n := ⟨by rw [Json.canonical], Json.sortKeys_int n⟩
  float repr := ⟨by rw [Json.canonical], by rw [Json.sortKeys] <;> simp⟩
  str s := ⟨by rw [Json.canonical], Json.sortKeys_str s⟩
  arr elems := ⟨by rw [Json.canonical, Json.canonicalElems_eq_map],
    by rw [Json.sortKeys, Json.sortElems_eq_map]⟩
  obj members := ⟨Json.canonical_obj members,
    by rw [Json.sortKeys_obj, Json.sorted, Json.sortMembers_eq_map, map_sortByKey]⟩

theorem loads_canonical {floatRepr : String → String} {j : Json} (h : j.Proper floatRepr) :
    loads floatRepr j.canonical = .ok j.sortKeys :=
  writes_canonical.loads_text h

theorem decodeUtf8_utf8 (text : String) : decodeUtf8 (utf8 text) = .ok text := by
  have hbytes : (⟨(utf8 text).toArray⟩ : ByteArray) = text.toUTF8 := by
    ext1
    apply Array.toList_inj.mp
    simp [utf8, ByteArray.toList, toList_loop_eq]
  have hvalid : text.toUTF8.IsValidUTF8 := text.isValidUTF8
  rw [decodeUtf8, hbytes, String.fromUTF8?, dif_pos hvalid]
  rfl

end CapsuleMesh.Python
