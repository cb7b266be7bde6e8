import Mathlib.Data.Bool.AllAny
import CapsuleMesh.Library.DecimalText
import CapsuleMesh.Library.TextTrees

/-!
# Texts of JSON values without blanks

The words, the marks and the escapes of RFC 8785.  A float is carried by its text, which begins as a
number does and shows that it is no integer.
-/

namespace CapsuleMesh.Library

inductive JsonWord where
  | null
  | bool (b : Bool)
  | int (n : Int)
  | float (text : List Char)
deriving DecidableEq

def JsonWord.text : JsonWord → List Char
  | .null => ['n', 'u', 'l', 'l']
  | .bool true => ['t', 'r', 'u', 'e']
  | .bool false => ['f', 'a', 'l', 's', 'e']
  | .int n => (toString n).toList
  | .float text => text

/-- A character that a number may begin with. -/
def BeginsNumber (c : Char) : Prop := c.isDigit = true ∨ c = '-'

instance (c : Char) : Decidable (BeginsNumber c) := inferInstanceAs (Decidable (_ ∨ _))

/-- The text of a finite float. -/
structure FloatText (cs : List Char) : Prop where
  head : ∃ c ∈ cs.head?, BeginsNumber c
  marked : cs.any Shortest.isFloatMark = true
  bare : ∀ c ∈ cs, BeginsNumber c ∨ c ∈ ['+', '.', 'e']

/-- The floats among the words have such texts. -/
def JsonWord.Valid : JsonWord → Prop
  | .float text => FloatText text
  | _ => True

def TextMark.char : TextMark → Char
  | .quote => '"'
  | .comma => ','
  | .colon => ':'
  | .openList => '['
  | .closeList => ']'
  | .openDict => '\x7b'
  | .closeDict => '\x7d'

/-- What a string has in place of a character; most characters stand for themselves. -/
def escapeOf (code : ℕ) : Option (List Char) :=
  if code = 0x22 then some ['\\', '"']
  else if code = 0x5c then some ['\\', '\\']
  else if code = 0x08 then some ['\\', 'b']
  else if code = 0x09 then some ['\\', 't']
  else if code = 0x0a then some ['\\', 'n']
  else if code = 0x0c then some ['\\', 'f']
  else if code = 0x0d then some ['\\', 'r']
  else if code < 0x20 then
    some ['\\', 'u', '0', '0', Nat.digitChar (code / 16), Nat.digitChar (code % 16)]
  else none

def jcsEscape (c : Char) : List Char := (escapeOf c.toNat).getD [c]

def jcsScript : Script JsonWord Char where
  mark := TextMark.char
  word := JsonWord.text
  escape := jcsEscape

theorem TextMark.char_injective : Function.Injective TextMark.char := by
  intro m m' h
  cases m <;> cases m' <;> first | rfl | simp [char] at h

/-! ## Words -/

theorem beginsNumber_of_mem_int {n : Int} {c : Char} (hc : c ∈ (toString n).toList) :
    BeginsNumber c := by
  have hdigits : ∀ m : ℕ, ∀ d ∈ Nat.toDigits 10 m, d.isDigit = true := fun m d hd =>
    Nat.isDigit_of_mem_toDigits (by decide) (by decide) hd
  rw [Int.toString_eq_repr, Int.repr_eq_if] at hc
  split_ifs at hc with hn
  · rw [Nat.toList_repr] at hc
    exact .inl (hdigits _ c hc)
  · rw [String.toList_append, Nat.toList_repr] at hc
    obtain hminus | hc := List.mem_append.mp hc
    · exact .inr (List.mem_singleton.mp hminus)
    · exact .inl (hdigits _ c hc)

theorem toList_int_injective {m n : Int} (h : (toString m).toList = (toString n).toList) : m = n := by
  have hnat : ∀ {a b : ℕ}, Nat.toDigits 10 a = Nat.toDigits 10 b → a = b := by
    intro a b hab
    have hread := congrArg (Nat.ofDigitChars 10 · 0) hab
    simpa only [Nat.ofDigitChars_ten_toDigits] using hread
  have hminus : ∀ a (ds : List Char), Nat.toDigits 10 a ≠ '-' :: ds := by
    intro a ds hab
    have hdigit : ('-').isDigit = true := by
      apply Nat.isDigit_of_mem_toDigits (b := 10) (n := a) (by decide) (by decide)
      rw [hab]
      exact List.mem_cons_self
    cases hdigit
  rw [Int.toString_eq_repr, Int.toString_eq_repr, Int.repr_eq_if, Int.repr_eq_if] at h
  split_ifs at h with hm hn hn
  · rw [Nat.toList_repr, Nat.toList_repr] at h
    have hnats := hnat h
    omega
  · rw [Nat.toList_repr, String.toList_append, Nat.toList_repr] at h
    exact absurd h (hminus _ _)
  · rw [Nat.toList_repr, String.toList_append, Nat.toList_repr] at h
    exact absurd h.symm (hminus _ _)
  · rw [String.toList_append, String.toList_append, Nat.toList_repr, Nat.toList_repr] at h
    have hnats := hnat (List.append_cancel_left h)
    omega

theorem toList_int_ne_nil (n : Int) : (toString n).toList ≠ [] := by
  rw [Int.toString_eq_repr, Int.repr_eq_if]
  split_ifs with hn
  · rw [Nat.toList_repr]
    exact Nat.toDigits_ne_nil
  · rw [String.toList_append]
    apply List.append_ne_nil_of_left_ne_nil
    decide

theorem BeginsNumber.not_marked {c : Char} (h : BeginsNumber c) : Shortest.isFloatMark c = false := by
  obtain h | rfl := h
  · have hrange : 48 ≤ c.toNat ∧ c.toNat ≤ 57 := by
      simpa [Char.isDigit, UInt32.le_iff_toNat_le] using h
    have hne : ∀ d : Char, 57 < d.toNat ∨ d.toNat < 48 → c ≠ d := by
      rintro d hd rfl
      omega
    rw [Shortest.isFloatMark]
    simp [hne '.' (by decide), hne 'e' (by decide), hne 'E' (by decide)]
  · decide

theorem not_floatText_int (n : Int) : ¬ FloatText (toString n).toList := by
  intro h
  obtain ⟨c, hc, hmark⟩ := List.any_eq_true.mp h.marked
  rw [(beginsNumber_of_mem_int hc).not_marked] at hmark
  cases hmark

/-- The head of a word tells the literals from the numbers. -/
theorem JsonWord.head_text {w : JsonWord} (hw : w.Valid) :
    ∃ c cs, w.text = c :: cs ∧ (c = 'n' ∧ w = .null ∨ c = 't' ∧ w = .bool true ∨
      c = 'f' ∧ w = .bool false ∨ BeginsNumber c ∧ ((∃ n, w = .int n) ∨ ∃ t, w = .float t)) := by
  cases w with
  | null => exact ⟨'n', _, rfl, .inl ⟨rfl, rfl⟩⟩
  | bool b =>
      cases b with
      | true => exact ⟨'t', _, rfl, .inr (.inl ⟨rfl, rfl⟩)⟩
      | false => exact ⟨'f', _, rfl, .inr (.inr (.inl ⟨rfl, rfl⟩))⟩
  | int n =>
      obtain ⟨c, cs, htext⟩ := List.exists_cons_of_ne_nil (toList_int_ne_nil n)
      refine ⟨c, cs, htext, .inr (.inr (.inr ⟨?_, .inl ⟨n, rfl⟩⟩))⟩
      apply beginsNumber_of_mem_int (n := n)
      rw [htext]
      exact List.mem_cons_self
  | float t =>
      obtain ⟨c, hc, hbegins⟩ := FloatText.head hw
      obtain ⟨cs, htext⟩ := List.head?_eq_some_iff.mp hc
      exact ⟨c, cs, htext, .inr (.inr (.inr ⟨hbegins, .inr ⟨t, rfl⟩⟩))⟩

theorem JsonWord.text_injective {v w : JsonWord} (hv : v.Valid) (hw : w.Valid)
    (h : v.text = w.text) : v = w := by
  have hletters : ¬ BeginsNumber 'n' ∧ ¬ BeginsNumber 't' ∧ ¬ BeginsNumber 'f' := by decide
  obtain ⟨c, cs, hvtext, hvhead⟩ := head_text hv
  obtain ⟨d, ds, hwtext, hwhead⟩ := head_text hw
  rw [hvtext, hwtext] at h
  obtain ⟨rfl, -⟩ := List.cons.inj h
  rw [← hwtext, ← hvtext] at h
  obtain ⟨rfl, rfl⟩ | ⟨rfl, rfl⟩ | ⟨rfl, rfl⟩ | ⟨hbegins, hvnumber⟩ := hvhead
  · exact (by simpa [hletters] using hwhead : w = _).symm
  · exact (by simpa [hletters] using hwhead : w = _).symm
  · exact (by simpa [hletters] using hwhead : w = _).symm
  · have hwnumber : (∃ n, w = .int n) ∨ ∃ t, w = .float t := by
      obtain ⟨rfl, -⟩ | ⟨rfl, -⟩ | ⟨rfl, -⟩ | ⟨-, hnumber⟩ := hwhead
      · exact absurd hbegins hletters.1
      · exact absurd hbegins hletters.2.1
      · exact absurd hbegins hletters.2.2
      · exact hnumber
    obtain ⟨m, rfl⟩ | ⟨t, rfl⟩ := hvnumber
    · obtain ⟨n, rfl⟩ | ⟨u, rfl⟩ := hwnumber
      · exact congrArg JsonWord.int (toList_int_injective h)
      · refine absurd ?_ (not_floatText_int m)
        rw [← text, h]
        exact hw
    · obtain ⟨n, rfl⟩ | ⟨u, rfl⟩ := hwnumber
      · refine absurd ?_ (not_floatText_int n)
        rw [← text, ← h]
        exact hv
      · exact congrArg JsonWord.float h

theorem JsonWord.text_bare {w : JsonWord} (hw : w.Valid) : ∀ c ∈ w.text, ∀ m : TextMark, c ≠ m.char := by
  have hnumber : ∀ c, BeginsNumber c ∨ c ∈ ['+', '.', 'e'] → ∀ m : TextMark, c ≠ m.char := by
    have hmarks : ∀ m : TextMark, ¬ (BeginsNumber m.char ∨ m.char ∈ ['+', '.', 'e']) := by
      intro m
      cases m <;> decide
    rintro c hc m rfl
    exact hmarks m hc
  intro c hc m
  cases w with
  | null =>
      revert c
      cases m <;> exact List.all_iff_forall_prop.mp (by decide)
  | bool b =>
      revert c
      cases b <;> cases m <;> exact List.all_iff_forall_prop.mp (by decide)
  | int n => exact hnumber c (.inl (beginsNumber_of_mem_int hc)) m
  | float t => exact hnumber c (FloatText.bare hw c hc) m

/-! ## Escapes -/

/-- The characters that are escaped. -/
def escapedCodes : List ℕ := 0x22 :: 0x5c :: List.range 0x20

theorem escapeOf_eq_none {code : ℕ} (h : code ∉ escapedCodes) : escapeOf code = none := by
  simp only [escapedCodes, List.mem_cons, List.mem_range, not_or, not_lt] at h
  obtain ⟨hquote, hbackslash, hcontrol⟩ := h
  rw [escapeOf, if_neg hquote, if_neg hbackslash, if_neg (by omega), if_neg (by omega),
    if_neg (by omega), if_neg (by omega), if_neg (by omega), if_neg (by omega)]

theorem head_escapeOf : ∀ code ∈ escapedCodes, ((escapeOf code).getD []).head? = some '\\' := by
  decide +kernel

theorem escapeOf_prefixFree : ∀ m ∈ escapedCodes, ∀ n ∈ escapedCodes,
    ((escapeOf m).getD []).isPrefixOf ((escapeOf n).getD []) = true → m = n := by
  decide +kernel

/-- A character is escaped with a backslash in front, or stands for itself. -/
theorem jcsEscape_cases (c : Char) :
    (c.toNat ∈ escapedCodes ∧ jcsEscape c = (escapeOf c.toNat).getD [] ∧
      (jcsEscape c).head? = some '\\') ∨ c.toNat ∉ escapedCodes ∧ jcsEscape c = [c] := by
  by_cases hc : c.toNat ∈ escapedCodes
  · have hhead := head_escapeOf _ hc
    cases hescape : escapeOf c.toNat with
    | none =>
        rw [hescape] at hhead
        cases hhead
    | some cs =>
        rw [hescape] at hhead
        rw [jcsEscape, hescape]
        exact .inl ⟨hc, rfl, hhead⟩
  · rw [jcsEscape, escapeOf_eq_none hc]
    exact .inr ⟨hc, rfl⟩

theorem not_escaped_ne {c d : Char} (hc : c.toNat ∉ escapedCodes) (hd : d.toNat ∈ escapedCodes) :
    c ≠ d := by
  rintro rfl
  exact hc hd

theorem jcsEscape_delimits : SelfDelimiting fun c x => x = jcsEscape c := by
  rintro c d _ _ rest rest' rfl rfl heq
  have hsame : c = d → c = d ∧ rest = rest' := by
    rintro rfl
    exact ⟨rfl, List.append_cancel_left heq⟩
  obtain ⟨hc, hcescape, hchead⟩ | ⟨hc, hcescape⟩ := jcsEscape_cases c
  · obtain ⟨hd, hdescape, -⟩ | ⟨hd, hdescape⟩ := jcsEscape_cases d
    · apply hsame
      apply Char.toNat_inj.mp
      have hprefix := List.prefix_or_prefix_of_prefix (List.prefix_append (jcsEscape c) rest)
        (heq ▸ List.prefix_append (jcsEscape d) rest')
      rw [hcescape, hdescape] at hprefix
      obtain hprefix | hprefix := hprefix
      · exact escapeOf_prefixFree _ hc _ hd (List.isPrefixOf_iff_prefix.mpr hprefix)
      · exact (escapeOf_prefixFree _ hd _ hc (List.isPrefixOf_iff_prefix.mpr hprefix)).symm
    · have hhead := congrArg List.head? heq
      rw [List.head?_append, hchead, hdescape] at hhead
      exact absurd (Option.some.inj hhead).symm (not_escaped_ne hd (by decide))
  · obtain ⟨hd, hdescape, hdhead⟩ | ⟨hd, hdescape⟩ := jcsEscape_cases d
    · have hhead := congrArg List.head? heq
      rw [List.head?_append, hcescape, List.head?_append, hdhead] at hhead
      exact absurd (Option.some.inj hhead) (not_escaped_ne hc (by decide))
    · apply hsame
      rw [hcescape, hdescape] at heq
      exact (List.cons.inj heq).1

theorem jcsEscape_head (c : Char) : ∃ d ds, jcsEscape c = d :: ds ∧ d ≠ '"' := by
  obtain ⟨-, -, hhead⟩ | ⟨hc, hescape⟩ := jcsEscape_cases c
  · obtain ⟨ds, hescape⟩ := List.head?_eq_some_iff.mp hhead
    exact ⟨'\\', ds, hescape, by decide⟩
  · exact ⟨c, [], hescape, not_escaped_ne hc (by decide)⟩

theorem jcsScript_readable : jcsScript.Readable JsonWord.Valid where
  mark_injective := by
    intro m m' h
    exact TextMark.char_injective h
  word_ne_nil w hw := by
    obtain ⟨c, cs, htext, -⟩ := JsonWord.head_text hw
    change w.text ≠ []
    rw [htext]
    exact List.cons_ne_nil c cs
  word_bare _ hw := JsonWord.text_bare hw
  word_injective _ _ hv hw := JsonWord.text_injective hv hw
  escape_delimits := jcsEscape_delimits
  escape_head := jcsEscape_head

end CapsuleMesh.Library
