import CapsuleMesh.Python.Lines
import CapsuleMesh.Python.Quoting

/-!
# The lines of a text

`s.splitlines()` ends a line at more characters than the newline, three of which may stand in the
strings of a JSON text.
-/

namespace CapsuleMesh.Python

/-- What reading a file as text makes of its newlines. -/
def universalNewlines : List Char → List Char
  | [] => []
  | '\r' :: '\n' :: cs => '\n' :: universalNewlines cs
  | c :: cs => (if c = '\r' then '\n' else c) :: universalNewlines cs

/-- A line boundary of `str.splitlines`. -/
def lineBoundary (c : Char) : Bool :=
  let n := c.toNat
  (10 ≤ n && n ≤ 13) || (28 ≤ n && n ≤ 30) || n = 133 || n = 8232 || n = 8233

/-- `s.splitlines()`. -/
def splitLines : List Char → List (List Char)
  | [] => []
  | '\r' :: '\n' :: cs => [] :: splitLines cs
  | c :: cs =>
      if lineBoundary c then [] :: splitLines cs
      else
        match splitLines cs with
        | [] => [[c]]
        | line :: lines => (c :: line) :: lines

theorem universalNewlines_eq_self {cs : List Char} (h : '\r' ∉ cs) : universalNewlines cs = cs := by
  induction cs using universalNewlines.induct with
  | case1 => rfl
  | case2 cs ih => simp at h
  | case3 c cs hcrlf ih =>
      rw [List.mem_cons, not_or] at h
      rw [universalNewlines, if_neg (Ne.symm h.1), ih h.2]
      exact hcrlf

section

variable {c : Char} {cs : List Char}

theorem splitLines_boundary (hc : lineBoundary c = true) (hr : c ≠ '\r') :
    splitLines (c :: cs) = [] :: splitLines cs := by
  rw [splitLines, if_pos hc]
  rintro rest rfl
  exact absurd rfl hr

theorem splitLines_cons (hc : lineBoundary c = false) :
    splitLines (c :: cs) =
      match splitLines cs with
      | [] => [[c]]
      | line :: lines => (c :: line) :: lines := by
  rw [splitLines, if_neg (Bool.eq_false_iff.mp hc)]
  rintro rest rfl
  cases hc

theorem splitLines_ne_nil (h : cs ≠ []) : splitLines cs ≠ [] := by
  cases cs using splitLines.fun_cases_unfolding with
  | case1 => exact absurd rfl h
  | case2 cs => exact List.cons_ne_nil _ _
  | case3 => exact List.cons_ne_nil _ _
  | case4 => exact List.cons_ne_nil _ _
  | case5 => exact List.cons_ne_nil _ _

end

/-- A line without boundaries of its own. -/
theorem splitLines_line {line : List Char} (hline : ∀ c ∈ line, lineBoundary c = false) {sep : Char}
    (hsep : lineBoundary sep = true) (hr : sep ≠ '\r') (rest : List Char) :
    splitLines (line ++ sep :: rest) = line :: splitLines rest := by
  induction line with
  | nil => exact splitLines_boundary hsep hr
  | cons c line ih =>
      obtain ⟨hc, hline⟩ := List.forall_mem_cons.mp hline
      rw [List.cons_append, splitLines_cons hc, ih hline]

/-- What ends with a boundary is split apart from what follows. -/
theorem splitLines_append {cs : List Char} (hcs : '\r' ∉ cs) {sep : Char}
    (hsep : lineBoundary sep = true) (hr : sep ≠ '\r') (rest : List Char) :
    splitLines (cs ++ sep :: rest) = splitLines (cs ++ [sep]) ++ splitLines rest := by
  induction cs with
  | nil => rw [List.nil_append, List.nil_append, splitLines_boundary hsep hr,
      splitLines_boundary hsep hr, splitLines, List.singleton_append]
  | cons c cs ih =>
      rw [List.mem_cons, not_or] at hcs
      rw [List.cons_append, List.cons_append]
      cases hc : lineBoundary c with
      | true =>
        rw [splitLines_boundary hc (Ne.symm hcs.1), splitLines_boundary hc (Ne.symm hcs.1), ih hcs.2,
          List.cons_append]
      | false =>
        rw [splitLines_cons hc, splitLines_cons hc, ih hcs.2]
        cases hsplit : splitLines (cs ++ [sep]) with
        | nil => exact absurd hsplit (splitLines_ne_nil (by simp))
        | cons line lines => rfl

/-! ## The line of a JSON text -/

/-- The characters that end a line and may stand in a string of a JSON text. -/
def Separator (c : Char) : Prop := c.toNat = 133 ∨ c.toNat = 8232 ∨ c.toNat = 8233

instance (c : Char) : Decidable (Separator c) := inferInstanceAs (Decidable (_ ∨ _ ∨ _))

open Quoting

theorem control_of_run {cs : List Char} {q q' : Quoting} (h : q.run cs = some q') :
    ∀ c ∈ cs, 32 ≤ c.toNat ∨ c ∈ ['\t', '\n', '\r'] := by
  induction cs generalizing q with
  | nil => exact List.forall_mem_nil _
  | cons c cs ih =>
      rw [run_cons] at h
      obtain ⟨q'', hnext, hrun⟩ := Option.bind_eq_some_iff.mp h
      refine List.forall_mem_cons.mpr ⟨?_, ih hrun⟩
      by_cases hquote : c = doubleQuote
      · exact .inl (by rw [hquote]; decide)
      · cases q with
        | outside =>
          rw [Quoting.next, if_neg hquote] at hnext
          split_ifs at hnext with hstructural
          simp only [structural, Bool.and_eq_true, Bool.or_eq_true, decide_eq_true_eq] at hstructural
          exact hstructural.2
        | inside =>
          rw [Quoting.next, if_neg hquote] at hnext
          split_ifs at hnext with hback hcontrol
          · exact .inl (by rw [hback]; decide)
          · exact .inl (by omega)
        | escaped =>
          rw [Quoting.next] at hnext
          split_ifs at hnext with hcontrol
          exact .inl (by omega)

section

variable {floatRepr : String → String} {text : String} {j : Json}

/-- A boundary within a JSON text on one line is one that may stand in its strings. -/
theorem separator_of_boundary (h : loads floatRepr text = .ok j) (hn : '\n' ∉ text.toList)
    (hr : '\r' ∉ text.toList) {c : Char} (hc : c ∈ text.toList) (hboundary : lineBoundary c = true) :
    Separator c := by
  rcases control_of_run (outside_of_loads h) c hc with hlow | hblank
  · simp only [lineBoundary, Bool.or_eq_true, Bool.and_eq_true, decide_eq_true_eq] at hboundary
    rw [Separator]
    omega
  · simp only [List.mem_cons, List.not_mem_nil, or_false] at hblank
    rcases hblank with rfl | rfl | rfl
    · exact absurd hboundary (by decide)
    · exact absurd hc hn
    · exact absurd hc hr

theorem Separator.boundary {c : Char} (h : Separator c) : lineBoundary c = true := by
  simp only [lineBoundary, Bool.or_eq_true, Bool.and_eq_true, decide_eq_true_eq]
  rw [Separator] at h
  omega

theorem Separator.not_structural {c : Char} (h : Separator c) :
    structural c = false ∧ c ≠ doubleQuote ∧ c ≠ backslash ∧ c ≠ '\r' := by
  have hhigh : 127 < c.toNat := by
    rw [Separator] at h
    omega
  refine ⟨?_, ?_, ?_, ?_⟩
  · simp [structural, show ¬c.toNat < 127 by omega]
  all_goals
    rintro rfl
    revert hhigh
    decide

theorem isSpace_of_strip_eq_empty (h : strip text = "") : ∀ c ∈ text.toList, isSpace c = true := by
  have hrest := String.ofList_eq_empty_iff.mp h
  rw [List.reverse_eq_nil_iff, List.dropWhile_eq_nil_iff] at hrest
  rw [← List.dropWhile_eq_nil_iff]
  cases hdropped : text.toList.dropWhile isSpace with
  | nil => rfl
  | cons c cs =>
      have hhead := List.head?_dropWhile_not isSpace text.toList
      rw [hdropped, List.head?_cons] at hhead
      simp only at hhead
      rw [hrest c (by rw [hdropped]; simp)] at hhead
      cases hhead

theorem ne_quote_of_isSpace {c : Char} (h : isSpace c = true) : c ≠ doubleQuote ∧ c ≠ backslash := by
  have hquote : isSpace doubleQuote = false := rfl
  have hback : isSpace backslash = false := rfl
  constructor
  · intro hc
    rw [hc, hquote] at h
    cases h
  · intro hc
    rw [hc, hback] at h
    cases h

/-- Between the strings, blanks are those of JSON. -/
theorem skipBlanks_of_spaces {cs : List Char} {q : Quoting} (hspaces : ∀ c ∈ cs, isSpace c = true)
    (hrun : outside.run cs = some q) : skipBlanks cs = [] := by
  induction cs with
  | nil => rfl
  | cons c cs ih =>
      obtain ⟨hc, hcs⟩ := List.forall_mem_cons.mp hspaces
      rw [run_cons] at hrun
      obtain ⟨q', hnext, hrun⟩ := Option.bind_eq_some_iff.mp hrun
      rw [Quoting.next, if_neg (ne_quote_of_isSpace hc).1] at hnext
      split_ifs at hnext with hstructural
      obtain rfl := Option.some.inj hnext
      have hblank : c ∈ [' ', '\t', '\n', '\r'] := by
        simp only [structural, Bool.and_eq_true, Bool.or_eq_true, decide_eq_true_eq] at hstructural
        rcases hstructural.2 with hlow | hcontrol
        · have hsmall := hstructural.1.1.1
          have hspace : c.toNat = 32 := by
            simp only [isSpace, Bool.or_eq_true, Bool.and_eq_true, decide_eq_true_eq] at hc
            omega
          rw [← Char.ofNat_toNat c, hspace]
          decide
        · exact List.mem_cons_of_mem _ hcontrol
      rw [skipBlanks, List.dropWhile_cons_of_pos (by simpa using hblank)]
      exact ih hcs hrun

theorem inside_of_spaces {cs : List Char} {q : Quoting} (hspaces : ∀ c ∈ cs, isSpace c = true)
    (hrun : inside.run cs = some q) : q = inside := by
  induction cs with
  | nil => exact (Option.some.inj hrun).symm
  | cons c cs ih =>
      obtain ⟨hc, hcs⟩ := List.forall_mem_cons.mp hspaces
      obtain ⟨hquote, hback⟩ := ne_quote_of_isSpace hc
      rw [run_cons] at hrun
      obtain ⟨q', hnext, hrun⟩ := Option.bind_eq_some_iff.mp hrun
      rw [Quoting.next, if_neg hquote, if_neg hback] at hnext
      split_ifs at hnext with hcontrol
      obtain rfl := Option.some.inj hnext
      exact ih hcs hrun

/-- Blanks alone are no JSON text. -/
theorem strip_ne_empty (h : loads floatRepr text = .ok j) : strip text ≠ "" := by
  intro hstrip
  have hblank := skipBlanks_of_spaces (isSpace_of_strip_eq_empty hstrip) (outside_of_loads h)
  rw [loads, hblank] at h
  cases hlength : text.length with
  | zero =>
      rw [hlength] at h
      cases h
  | succ n =>
      rw [hlength] at h
      cases h

/-- What follows the last separator of a JSON text is no blank, and no JSON text either. -/
theorem after_separator (h : loads floatRepr text = .ok j) {before after : List Char} {c : Char}
    (hsplit : text.toList = before ++ c :: after) (hc : Separator c) :
    strip (String.ofList after) ≠ "" ∧ ∀ j', loads floatRepr (String.ofList after) ≠ .ok j' := by
  obtain ⟨hstructural, hquote, hback, -⟩ := hc.not_structural
  have hinside := inside_after h hsplit hstructural hquote hback
  refine ⟨?_, ?_⟩
  · intro hstrip
    have hspaces := isSpace_of_strip_eq_empty hstrip
    rw [String.toList_ofList] at hspaces
    cases inside_of_spaces hspaces hinside
  · intro j' hafter
    have hout := outside_of_loads hafter
    rw [String.toList_ofList] at hout
    exact not_outside_of_inside hinside hout

end

end CapsuleMesh.Python
