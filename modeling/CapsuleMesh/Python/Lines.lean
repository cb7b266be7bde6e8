import CapsuleMesh.Python.Dumps

/-!
# The lines of a response

Iterating a response yields its lines with their ends.  A line is decoded with
`errors="replace"` and stripped before it is looked at.
-/

namespace CapsuleMesh.Python

/-- `for raw_line in resp`. -/
def byteLines : Bytes → List Bytes
  | [] => []
  | b :: bs =>
      if b = 10 then [b] :: byteLines bs
      else
        match byteLines bs with
        | [] => [[b]]
        | line :: lines => (b :: line) :: lines

/-- `data.decode("utf-8", errors="replace")`; `replaced` is the text of what is not UTF-8. -/
def decodeReplace (replaced : Bytes → String) (data : Bytes) : String :=
  match decodeUtf8 data with
  | .ok text => text
  | .error _ => replaced data

/-- `s.strip()`. -/
def strip (s : String) : String :=
  String.ofList ((s.toList.dropWhile isSpace).reverse.dropWhile isSpace).reverse

theorem byteLines_line {line : Bytes} (h : (10 : UInt8) ∉ line) (rest : Bytes) :
    byteLines (line ++ 10 :: rest) = (line ++ [10]) :: byteLines rest := by
  induction line with
  | nil => rfl
  | cons b line ih =>
      rw [List.mem_cons, not_or] at h
      rw [List.cons_append, byteLines, if_neg (Ne.symm h.1), ih h.2]
      rfl

theorem utf8_eq_flatMap (s : String) : utf8 s = s.toList.flatMap String.utf8EncodeChar := by
  have hdata : utf8 s = s.toUTF8.data.toList := by
    simp [utf8, ByteArray.toList, toList_loop_eq]
  have hbytes : s.toUTF8 = s.toList.utf8Encode := by simp
  rw [hdata, hbytes, List.utf8Encode]
  simp

theorem utf8_append (s t : String) : utf8 (s ++ t) = utf8 s ++ utf8 t := by
  simp only [utf8_eq_flatMap, String.toList_append, List.flatMap_append]

theorem newline_notMem_utf8 {s : String} (h : ∀ c ∈ s.toList, Printable c) :
    (10 : UInt8) ∉ utf8 s := by
  rw [utf8_eq_flatMap, List.mem_flatMap]
  rintro ⟨c, hc, hmem⟩
  obtain ⟨hlow, hhigh⟩ := h c hc
  have hsize : c.utf8Size = 1 := by
    rw [Char.utf8Size_eq_one_iff, UInt32.le_iff_toNat_le]
    exact Nat.le_of_lt_succ (hhigh.trans (by decide))
  rw [String.utf8EncodeChar_eq_singleton hsize, List.mem_singleton] at hmem
  have hbyte : c.toNat % 256 = 10 := by
    have hnat := congrArg UInt8.toNat hmem
    rw [UInt32.toNat_toUInt8] at hnat
    exact hnat.symm
  omega

theorem decodeReplace_utf8 (replaced : Bytes → String) (text : String) :
    decodeReplace replaced (utf8 text) = text := by
  rw [decodeReplace, decodeUtf8_utf8]

theorem Printable.isSpace_eq_false {c : Char} (h : Printable c) (hblank : c ≠ ' ') :
    isSpace c = false := by
  obtain ⟨hlow, hhigh⟩ := h
  have hne : c.toNat ≠ 32 := by
    intro heq
    apply hblank
    rw [← Char.ofNat_toNat c, heq]
  simp only [isSpace, Bool.or_eq_false_iff, Bool.and_eq_false_iff, decide_eq_false_iff_not]
  omega

theorem dropWhile_eq_self {α : Type} {p : α → Bool} {as : List α}
    (h : ∀ a ∈ as.head?, p a = false) : as.dropWhile p = as := by
  cases as with
  | nil => rfl
  | cons a as =>
      apply List.dropWhile_cons_of_neg
      simpa using h a rfl

/-- Blanks around a text that neither begins nor ends with one. -/
theorem strip_padded (before text after : String)
    (hbefore : ∀ c ∈ before.toList, isSpace c = true)
    (hafter : ∀ c ∈ after.toList, isSpace c = true)
    (hfirst : ∀ c ∈ text.toList.head?, isSpace c = false)
    (hlast : ∀ c ∈ text.toList.getLast?, isSpace c = false) :
    strip (before ++ text ++ after) = text := by
  have hfront : (text.toList ++ after.toList).dropWhile isSpace = text.toList ++ after.toList ∨
      text.toList = [] := by
    cases htext : text.toList with
    | nil => exact .inr rfl
    | cons c cs => exact .inl (dropWhile_eq_self (by simpa [htext] using hfirst))
  rw [strip, String.toList_append, String.toList_append, List.append_assoc,
    List.dropWhile_append_of_pos hbefore]
  obtain hfront | htext := hfront
  · rw [hfront, List.reverse_append, List.dropWhile_append_of_pos (by simpa using hafter),
      dropWhile_eq_self, List.reverse_reverse, String.ofList_toList]
    rwa [List.head?_reverse]
  · rw [htext, List.nil_append, List.dropWhile_eq_nil_iff.mpr hafter, String.toList_eq_nil_iff.mp htext]
    rfl

end CapsuleMesh.Python
