import CapsuleMesh.Python.Dumps

/-!
# The quotes of a JSON text

A text that `json.loads` reads ends outside of its strings.  So no text that begins inside a string of
one is a JSON text itself.
-/

namespace CapsuleMesh.Python

/-- Where a reader of a JSON text stands. -/
inductive Quoting where
  | outside
  | inside
  | escaped
deriving DecidableEq

/-- A character between the strings of a JSON text. -/
def structural (c : Char) : Bool :=
  c.toNat < 127 && c ≠ doubleQuote && c ≠ backslash &&
    (32 ≤ c.toNat || c ∈ ['\t', '\n', '\r'])

namespace Quoting

def next : Quoting → Char → Option Quoting
  | outside, c =>
      if c = doubleQuote then some inside else if structural c then some outside else none
  | inside, c =>
      if c = doubleQuote then some outside
      else if c = backslash then some escaped
      else if c.toNat < 32 then none
      else some inside
  | escaped, c => if c.toNat < 32 then none else some inside

/-- Where the reader stands after a text. -/
def run (q : Quoting) (cs : List Char) : Option Quoting := cs.foldlM next q

@[simp] theorem run_nil (q : Quoting) : q.run [] = some q := rfl

theorem run_cons (q : Quoting) (c : Char) (cs : List Char) :
    q.run (c :: cs) = (q.next c).bind fun q' => q'.run cs :=
  rfl

theorem run_append (q : Quoting) (cs ds : List Char) :
    q.run (cs ++ ds) = (q.run cs).bind fun q' => q'.run ds := by
  rw [run, List.foldlM_append]
  rfl

theorem run_append_of {q q' q'' : Quoting} {cs ds : List Char} (hcs : q.run cs = some q')
    (hds : q'.run ds = some q'') : q.run (cs ++ ds) = some q'' := by
  rw [run_append, hcs, Option.bind_some, hds]

theorem run_structural {cs : List Char} (h : ∀ c ∈ cs, structural c = true) :
    outside.run cs = some outside := by
  induction cs with
  | nil => rfl
  | cons c cs ih =>
      obtain ⟨hc, hcs⟩ := List.forall_mem_cons.mp h
      have hquote : c ≠ doubleQuote := by
        rintro rfl
        revert hc
        decide
      rw [run_cons, next, if_neg hquote, if_pos hc, Option.bind_some, ih hcs]

/-- One reader stands outside of the strings and the other within one. -/
def Opposed (q q' : Quoting) : Prop :=
  q = outside ∧ q' = inside ∨ q = inside ∧ q' = outside

theorem Opposed.symm {q q' : Quoting} (h : Opposed q q') : Opposed q' q := by
  rcases h with ⟨rfl, rfl⟩ | ⟨rfl, rfl⟩
  · exact .inr ⟨rfl, rfl⟩
  · exact .inl ⟨rfl, rfl⟩

theorem opposed_next {c : Char} {q q' : Quoting} (hout : outside.next c = some q)
    (hin : inside.next c = some q') : Opposed q q' := by
  simp only [Quoting.next] at hout hin
  split_ifs at hout hin with hquote hstructural hback hcontrol
  · obtain rfl := Option.some.inj hout
    obtain rfl := Option.some.inj hin
    exact .inr ⟨rfl, rfl⟩
  · rw [hback] at hstructural
    exact absurd hstructural (by decide)
  · obtain rfl := Option.some.inj hout
    obtain rfl := Option.some.inj hin
    exact .inl ⟨rfl, rfl⟩

theorem Opposed.next {q q' r r' : Quoting} {c : Char} (h : Opposed q q') (hq : q.next c = some r)
    (hq' : q'.next c = some r') : Opposed r r' := by
  rcases h with ⟨rfl, rfl⟩ | ⟨rfl, rfl⟩
  · exact opposed_next hq hq'
  · exact (opposed_next hq' hq).symm

theorem Opposed.run {q q' r r' : Quoting} {cs : List Char} (h : Opposed q q')
    (hq : q.run cs = some r) (hq' : q'.run cs = some r') : Opposed r r' := by
  induction cs generalizing q q' with
  | nil =>
      obtain rfl := Option.some.inj hq
      obtain rfl := Option.some.inj hq'
      exact h
  | cons c cs ih =>
      obtain ⟨s, hs, hq⟩ := Option.bind_eq_some_iff.mp hq
      obtain ⟨s', hs', hq'⟩ := Option.bind_eq_some_iff.mp hq'
      exact ih (h.next hs hs') hq hq'

/-- What ends outside when it is begun within a string does not when it is begun outside. -/
theorem not_outside_of_inside {cs : List Char} (h : inside.run cs = some outside) :
    outside.run cs ≠ some outside := by
  intro hout
  have hopposed : Opposed outside inside := .inl ⟨rfl, rfl⟩
  rcases hopposed.run hout h with ⟨-, habsurd⟩ | ⟨habsurd, -⟩
  · cases habsurd
  · cases habsurd

end Quoting

open Quoting

/-! ## What the scanners take -/

/-- What the scanner takes leads a reader from one place to the other. -/
def Leads {α : Type} (q q' : Quoting) (scan : Scanner α) : Prop :=
  ∀ cs r, scan cs = some r → ∃ taken, cs = taken ++ r.2 ∧ q.run taken = some q'

theorem hexDigit_range {c : Char} {n : ℕ} (h : hexDigit? c = some n) :
    32 ≤ c.toNat ∧ c ≠ doubleQuote ∧ c ≠ backslash := by
  refine ⟨?_, ?_, ?_⟩
  · rw [hexDigit?] at h
    simp only [Char.le_def, UInt32.le_iff_toNat_le] at h
    have hzero : '0'.val.toNat = 48 := rfl
    have ha : 'a'.val.toNat = 97 := rfl
    have hA : 'A'.val.toNat = 65 := rfl
    have hval : c.val.toNat = c.toNat := rfl
    split_ifs at h
    all_goals omega
  · rintro rfl
    revert h
    simp [hexDigit?, doubleQuote]
  · rintro rfl
    revert h
    simp [hexDigit?, backslash]

theorem next_inside {c : Char} (hlow : 32 ≤ c.toNat) (hquote : c ≠ doubleQuote)
    (hback : c ≠ backslash) : inside.next c = some inside := by
  rw [next, if_neg hquote, if_neg hback, if_neg (by omega)]

theorem leads_scanUnit : Leads inside inside scanUnit := by
  intro cs r h
  unfold scanUnit at h
  split at h
  · rename_i a b c d cs
    obtain ⟨na, ha, h⟩ := Option.bind_eq_some_iff.mp h
    obtain ⟨nb, hb, h⟩ := Option.bind_eq_some_iff.mp h
    obtain ⟨nc, hc, h⟩ := Option.bind_eq_some_iff.mp h
    obtain ⟨nd, hd, h⟩ := Option.bind_eq_some_iff.mp h
    obtain rfl := Option.some.inj h
    refine ⟨[a, b, c, d], rfl, ?_⟩
    have hnext : ∀ x n, hexDigit? x = some n → inside.next x = some inside := by
      intro x n hx
      obtain ⟨hlow, hquote, hback⟩ := hexDigit_range hx
      exact next_inside hlow hquote hback
    simp only [run_cons, hnext a na ha, hnext b nb hb, hnext c nc hc, hnext d nd hd,
      Option.bind_some, run_nil]
  · cases h

theorem leads_scanUnicode : Leads inside inside scanUnicode := by
  intro cs r h
  obtain ⟨⟨unit, rest⟩, hunit, hrest⟩ := Option.bind_eq_some_iff.mp h
  obtain ⟨taken, hcs, hrun⟩ := leads_scanUnit cs _ hunit
  simp only at hrest
  split_ifs at hrest with hhigh hlow
  · split at hrest
    · rename_i a b rest
      split_ifs at hrest with hback
      obtain ⟨⟨low, rest'⟩, hunit', hlow⟩ := Option.bind_eq_some_iff.mp hrest
      obtain ⟨taken', hcs', hrun'⟩ := leads_scanUnit _ _ hunit'
      simp only at hlow
      split_ifs at hlow
      obtain rfl := Option.some.inj hlow
      obtain ⟨rfl, rfl⟩ := hback
      refine ⟨taken ++ backslash :: 'u' :: taken', by simp [hcs, hcs'], ?_⟩
      exact run_append_of hrun hrun'
    · cases hrest
  · obtain rfl := Option.some.inj hrest
    exact ⟨taken, hcs, hrun⟩

theorem simpleEscape_range {c d : Char} (h : simpleEscape? c = some d) : 32 ≤ c.toNat := by
  unfold simpleEscape? at h
  split_ifs at h with hself hn hr ht hb hf
  · rcases hself with rfl | rfl | rfl
    all_goals decide
  · rw [hn]
    decide
  · rw [hr]
    decide
  · rw [ht]
    decide
  · rw [hb]
    decide
  · rw [hf]
    decide

theorem scanChar_leads {cs : List Char} {r : Char × List Char} (hquote : cs.head? ≠ some doubleQuote)
    (h : scanChar cs = some r) : ∃ taken, cs = taken ++ r.2 ∧ inside.run taken = some inside := by
  cases cs with
  | nil => cases h
  | cons c cs =>
      have hne : c ≠ doubleQuote := by
        rintro rfl
        exact hquote rfl
      unfold scanChar at h
      simp only at h
      split_ifs at h with hback hcontrol
      · rw [hback]
        cases cs with
        | nil => cases h
        | cons e cs =>
          simp only at h
          split_ifs at h with hu
          · obtain ⟨taken, hcs, hrun⟩ := leads_scanUnicode cs r h
            refine ⟨backslash :: e :: taken, by rw [hcs, List.cons_append, List.cons_append], ?_⟩
            rw [hu]
            exact hrun
          · obtain ⟨d, hd, rfl⟩ := Option.map_eq_some_iff.mp h
            have hlow := simpleEscape_range hd
            have hnext : escaped.next e = some inside := by
              rw [Quoting.next, if_neg (by omega)]
            refine ⟨[backslash, e], rfl, ?_⟩
            change escaped.run [e] = some inside
            rw [run_cons, hnext]
            rfl
      · obtain rfl := Option.some.inj h
        refine ⟨[c], rfl, ?_⟩
        rw [run_cons, next_inside (by omega) hne hback]
        rfl

theorem leads_scanString (fuel : ℕ) : Leads inside outside (scanString fuel) := by
  induction fuel with
  | zero =>
      intro cs r h
      cases h
  | succ fuel ih =>
      intro cs r h
      cases cs with
      | nil => cases h
      | cons c cs =>
        rw [scanString] at h
        split_ifs at h with hquote
        · obtain rfl := Option.some.inj h
          exact ⟨[c], rfl, by rw [hquote]; rfl⟩
        · obtain ⟨⟨d, rest⟩, hchar, h⟩ := Option.bind_eq_some_iff.mp h
          obtain ⟨⟨text, rest'⟩, hstring, h⟩ := Option.bind_eq_some_iff.mp h
          obtain rfl := Option.some.inj h
          have hhead : (c :: cs).head? ≠ some doubleQuote := by simpa using hquote
          obtain ⟨taken, hcs, hrun⟩ := scanChar_leads hhead hchar
          obtain ⟨taken', hcs', hrun'⟩ := ih _ _ hstring
          refine ⟨taken ++ taken', ?_, run_append_of hrun hrun'⟩
          rw [hcs, List.append_assoc]
          exact congrArg _ hcs'

/-! ## Between the strings -/

theorem Numeral.structural {c : Char} (h : Numeral c) : structural c = true := by
  obtain ⟨⟨hlow, hhigh⟩, -⟩ := h.printable
  have hquote : c ≠ doubleQuote := by
    rintro rfl
    revert h
    simp [Numeral, doubleQuote]
  have hback : c ≠ backslash := by
    rintro rfl
    revert h
    simp [Numeral, backslash]
  simp [Python.structural, hhigh, hquote, hback, hlow]

theorem leads_scanNumber (floatRepr : String → String) :
    Leads outside outside (scanNumber floatRepr) := by
  intro cs r h
  have hsign := takes_scanSign cs
  unfold scanNumber at h
  cases hdigits : scanInteger (scanSign cs).2 with
  | none => simp [hdigits] at h
  | some digits =>
      have hinteger := takes_scanInteger hdigits
      have hfraction := takes_scanFraction digits.2
      have hexponent := takes_scanExponent (scanFraction digits.2).2
      have hrest : (scanExponent (scanFraction digits.2).2).2 = r.2 := by
        simp only [hdigits, Option.bind_eq_bind, Option.bind_some, Option.pure_def] at h
        split_ifs at h
        all_goals exact congrArg Prod.snd (Option.some.inj h)
      refine ⟨(scanSign cs).1 ++ digits.1 ++ (scanFraction digits.2).1 ++
        (scanExponent (scanFraction digits.2).2).1, ?_, ?_⟩
      · rw [← hrest, List.append_assoc, ← hexponent.1, List.append_assoc, ← hfraction.1,
          List.append_assoc, ← hinteger.1, ← hsign.1]
      · apply run_structural
        simp only [List.mem_append]
        rintro c (((hc | hc) | hc) | hc)
        · exact (hsign.2 c hc).structural
        · exact (hinteger.2 c hc).structural
        · exact (hfraction.2 c hc).structural
        · exact (hexponent.2 c hc).structural

theorem leads_scanLiteral : Leads outside outside scanLiteral := by
  intro cs r h
  obtain ⟨l, hl, hfound⟩ := List.exists_of_findSome?_eq_some h
  split_ifs at hfound with hprefix
  obtain rfl := Option.some.inj hfound
  have hstructural : ∀ l ∈ literals, ∀ c ∈ l.1.toList, structural c = true := by
    have hall : (literals.all fun l => l.1.toList.all structural) = true := by decide
    intro l hl
    exact List.all_eq_true.mp (List.all_eq_true.mp hall l hl)
  refine ⟨l.1.toList, ?_, run_structural (hstructural l hl)⟩
  obtain ⟨rest, rfl⟩ := List.isPrefixOf_iff_prefix.mp hprefix
  rw [← String.length_toList, List.drop_left]

theorem leads_skipBlanks (cs : List Char) :
    ∃ taken, cs = taken ++ skipBlanks cs ∧ outside.run taken = some outside := by
  refine ⟨cs.takeWhile fun c => decide (c ∈ [' ', '\t', '\n', '\r']), ?_, ?_⟩
  · exact (List.takeWhile_append_dropWhile).symm
  · apply run_structural
    intro c hc
    have hblank : c ∈ [' ', '\t', '\n', '\r'] := by simpa using List.mem_takeWhile_imp hc
    simp only [List.mem_cons, List.not_mem_nil, or_false] at hblank
    rcases hblank with rfl | rfl | rfl | rfl
    all_goals decide

/-! ## Values -/

section

variable {α : Type} {item : Scanner α} {close : Char}

theorem Leads.skipped {q : Quoting} (h : Leads outside q item) :
    Leads outside q fun cs => item (skipBlanks cs) := by
  intro cs r hr
  obtain ⟨blanks, hcs, hblanks⟩ := leads_skipBlanks cs
  obtain ⟨taken, hcs', hrun⟩ := h _ _ hr
  refine ⟨blanks ++ taken, ?_, run_append_of hblanks hrun⟩
  rw [List.append_assoc, ← hcs']
  exact hcs

/-- One character between the strings, after blanks. -/
theorem run_blanks_cons {cs rest : List Char} {c : Char} (h : skipBlanks cs = c :: rest)
    (hc : structural c = true) :
    ∃ taken, cs = taken ++ rest ∧ outside.run taken = some outside := by
  obtain ⟨blanks, hcs, hblanks⟩ := leads_skipBlanks cs
  refine ⟨blanks ++ [c], by rw [hcs, h]; simp, run_append_of hblanks ?_⟩
  apply run_structural
  intro d hd
  obtain rfl := List.mem_singleton.mp hd
  exact hc

theorem leads_scanItems (hitem : Leads outside outside item) (hclose : structural close = true)
    (fuel : ℕ) : Leads outside outside (scanItems item close fuel) := by
  induction fuel with
  | zero =>
      intro cs r h
      cases h
  | succ fuel ih =>
      intro cs r h
      obtain ⟨⟨a, rest⟩, ha, h⟩ := Option.bind_eq_some_iff.mp h
      obtain ⟨taken, hcs, hrun⟩ := hitem.skipped cs _ ha
      simp only at h hcs
      cases hrest : skipBlanks rest with
      | nil =>
        rw [hrest] at h
        cases h
      | cons c rest' =>
        rw [hrest] at h
        simp only at h
        split_ifs at h with hcomma hend
        · obtain ⟨⟨as, rest''⟩, has, h⟩ := Option.bind_eq_some_iff.mp h
          obtain rfl := Option.some.inj h
          rw [hcomma] at hrest
          obtain ⟨sep, hsep, hsepRun⟩ := run_blanks_cons hrest (by decide)
          obtain ⟨taken', hcs', hrun'⟩ := ih _ _ has
          refine ⟨taken ++ sep ++ taken', ?_, run_append_of (run_append_of hrun hsepRun) hrun'⟩
          rw [List.append_assoc, ← hcs', List.append_assoc, ← hsep]
          exact hcs
        · obtain rfl := Option.some.inj h
          rw [hend] at hrest
          obtain ⟨sep, hsep, hsepRun⟩ := run_blanks_cons hrest hclose
          refine ⟨taken ++ sep, ?_, run_append_of hrun hsepRun⟩
          rw [List.append_assoc, ← hsep]
          exact hcs

theorem leads_scanGroup (hitem : Leads outside outside item) (hclose : structural close = true) :
    Leads outside outside (scanGroup item close) := by
  intro cs r h
  unfold scanGroup at h
  cases hrest : skipBlanks cs with
  | nil =>
      rw [hrest] at h
      cases h
  | cons c rest =>
      rw [hrest] at h
      simp only at h
      split_ifs at h with hend
      · obtain rfl := Option.some.inj h
        rw [hend] at hrest
        exact run_blanks_cons hrest hclose
      · obtain ⟨blanks, hcs, hblanks⟩ := leads_skipBlanks cs
        obtain ⟨taken, hcs', hrun⟩ := leads_scanItems hitem hclose _ _ _ h
        refine ⟨blanks ++ taken, ?_, run_append_of hblanks hrun⟩
        rw [List.append_assoc, ← hcs', ← hrest]
        exact hcs

end

theorem leads_scanMember {value : Scanner Json} (h : Leads outside outside value) :
    Leads outside outside (scanMember value) := by
  intro cs r hr
  cases cs with
  | nil => cases hr
  | cons c cs =>
      unfold scanMember at hr
      simp only at hr
      split_ifs at hr with hquote
      obtain ⟨⟨key, rest⟩, hkey, hr⟩ := Option.bind_eq_some_iff.mp hr
      obtain ⟨taken, hcs, hrun⟩ := leads_scanString _ _ _ hkey
      have hopened : outside.run (c :: taken) = some outside := by
        rw [hquote]
        exact hrun
      simp only at hr hcs
      cases hrest : skipBlanks rest with
      | nil =>
        rw [hrest] at hr
        cases hr
      | cons d rest' =>
        rw [hrest] at hr
        simp only at hr
        split_ifs at hr with hcolon
        obtain ⟨⟨v, rest''⟩, hv, hr⟩ := Option.bind_eq_some_iff.mp hr
        obtain rfl := Option.some.inj hr
        rw [hcolon] at hrest
        obtain ⟨sep, hsep, hsepRun⟩ := run_blanks_cons hrest (by decide)
        obtain ⟨taken', hcs', hrun'⟩ := h.skipped _ _ hv
        refine ⟨c :: taken ++ sep ++ taken', ?_, run_append_of (run_append_of hopened hsepRun) hrun'⟩
        rw [List.append_assoc, ← hcs', List.append_assoc, ← hsep, List.cons_append]
        exact congrArg (List.cons c) hcs

theorem leads_scanOnce (floatRepr : String → String) (fuel : ℕ) :
    Leads outside outside (scanOnce floatRepr fuel) := by
  induction fuel with
  | zero =>
      intro cs r h
      cases h
  | succ fuel ih =>
      intro cs r h
      cases cs with
      | nil => cases h
      | cons c cs =>
        have hopen : ∀ {taken}, structural c = true → outside.run taken = some outside →
            outside.run (c :: taken) = some outside := by
          intro taken hc hrun
          have hsingle : outside.run [c] = some outside := by
            apply run_structural
            intro d hd
            obtain rfl := List.mem_singleton.mp hd
            exact hc
          exact run_append_of hsingle hrun
        rw [scanOnce] at h
        split_ifs at h with hquote hbracket hbrace
        · obtain ⟨⟨text, rest⟩, htext, h⟩ := Option.bind_eq_some_iff.mp h
          obtain rfl := Option.some.inj h
          obtain ⟨taken, hcs, hrun⟩ := leads_scanString _ _ _ htext
          refine ⟨c :: taken, congrArg (List.cons c) hcs, ?_⟩
          rw [hquote]
          exact hrun
        · obtain ⟨⟨elems, rest⟩, helems, h⟩ := Option.bind_eq_some_iff.mp h
          obtain rfl := Option.some.inj h
          obtain ⟨taken, hcs, hrun⟩ := leads_scanGroup ih (by decide) _ _ helems
          refine ⟨c :: taken, congrArg (List.cons c) hcs, hopen ?_ hrun⟩
          rw [hbracket]
          decide
        · obtain ⟨⟨pairs, rest⟩, hpairs, h⟩ := Option.bind_eq_some_iff.mp h
          obtain rfl := Option.some.inj h
          obtain ⟨taken, hcs, hrun⟩ := leads_scanGroup (leads_scanMember ih) (by decide) _ _ hpairs
          refine ⟨c :: taken, congrArg (List.cons c) hcs, hopen ?_ hrun⟩
          rw [hbrace]
          decide
        · cases hliteral : scanLiteral (c :: cs) with
          | some found =>
            rw [hliteral] at h
            obtain rfl := Option.some.inj h
            exact leads_scanLiteral _ _ hliteral
          | none =>
            rw [hliteral] at h
            exact leads_scanNumber floatRepr _ _ h

/-- A text that is read ends outside of its strings. -/
theorem outside_of_loads {floatRepr : String → String} {text : String} {j : Json}
    (h : loads floatRepr text = .ok j) : outside.run text.toList = some outside := by
  unfold loads at h
  split at h
  · rename_i j' rest hscan
    split_ifs at h with hrest
    obtain ⟨taken, hcs, hrun⟩ := (leads_scanOnce floatRepr _).skipped _ _ hscan
    obtain ⟨blanks, hblanks, hblanksRun⟩ := leads_skipBlanks rest
    rw [hrest, List.append_nil] at hblanks
    simp only at hcs
    rw [hcs, hblanks]
    exact run_append_of hrun hblanksRun
  · cases h

/-- A character that stands only in strings leaves the reader within one. -/
theorem inside_after {floatRepr : String → String} {text : String} {j : Json}
    (h : loads floatRepr text = .ok j) {before after : List Char} {c : Char}
    (hsplit : text.toList = before ++ c :: after) (hc : structural c = false)
    (hquote : c ≠ doubleQuote) (hback : c ≠ backslash) : inside.run after = some outside := by
  have hrun := outside_of_loads h
  rw [hsplit, run_append] at hrun
  obtain ⟨q, hq, hrun⟩ := Option.bind_eq_some_iff.mp hrun
  rw [run_cons] at hrun
  obtain ⟨q', hq', hrun⟩ := Option.bind_eq_some_iff.mp hrun
  have hinside : q' = inside := by
    cases q with
    | outside => simp [Quoting.next, hquote, hc] at hq'
    | inside =>
        simp only [Quoting.next, hquote, hback, if_false] at hq'
        split_ifs at hq'
        exact (Option.some.inj hq').symm
    | escaped =>
        simp only [Quoting.next] at hq'
        split_ifs at hq'
        exact (Option.some.inj hq').symm
  rw [hinside] at hrun
  exact hrun

end CapsuleMesh.Python
