import Mathlib.Data.List.Basic

/-!
# The tokens of an HTML text

A tokenizer of HTML, and what an escape of `&`, `<` and `>` does to it.  Declarations and comments
are read up to their first `>`; the text of a raw-text element is read as any other text, which is
the same where it holds no `<` and no `&`.
-/

namespace CapsuleMesh.Library.Html

def quotationMark : Char := Char.ofNat 34

def apostrophe : Char := Char.ofNat 39

def nul : Char := Char.ofNat 0

def isWhite (c : Char) : Bool := c.toNat = 9 || c.toNat = 10 || c.toNat = 12 || c.toNat = 13 ||
  c.toNat = 32

def isLetter (c : Char) : Bool := ('a' ≤ c && c ≤ 'z') || ('A' ≤ c && c ≤ 'Z')

def nameChar (c : Char) : Char :=
  if c = nul then Char.ofNat 0xFFFD
  else if 'A' ≤ c ∧ c ≤ 'Z' then Char.ofNat (c.toNat + 32)
  else c

/-! ## Character data -/

/-- The line ends as line feeds; the flag says that a carriage return came right before. -/
def lineFeeds : Bool → List Char → List Char
  | _, [] => []
  | afterReturn, c :: cs =>
      if c = '\r' then '\n' :: lineFeeds true cs
      else if c = '\n' ∧ afterReturn = true then lineFeeds false cs
      else c :: lineFeeds false cs

/-- The references that an escape writes. -/
def decode : List Char → List Char
  | '&' :: 'a' :: 'm' :: 'p' :: ';' :: cs => '&' :: decode cs
  | '&' :: 'l' :: 't' :: ';' :: cs => '<' :: decode cs
  | '&' :: 'g' :: 't' :: ';' :: cs => '>' :: decode cs
  | c :: cs => c :: decode cs
  | [] => []

def withoutNul (cs : List Char) : List Char :=
  cs.map fun c => if c = nul then Char.ofNat 0xFFFD else c

/-- The characters of an attribute value, before its references are decoded. -/
def cleaned (cs : List Char) : List Char := withoutNul (lineFeeds false cs)

/-! ## The tokenizer -/

structure Tag where
  closing : Bool
  name : List Char
  attrs : List (List Char × List Char)
  selfClosing : Bool
deriving DecidableEq

def Tag.add (tag : Tag) (name value : List Char) : Tag :=
  { tag with attrs := tag.attrs ++ [(name, value)] }

def Tag.named (closing : Bool) (name : List Char) : Tag := ⟨closing, name, [], false⟩

inductive Token where
  | text (chars : List Char)
  | tag (tag : Tag)
  | markup (chars : List Char)
deriving DecidableEq

/-- `beforeAttr` is also the state after a quoted value, which goes on in the same ways. -/
inductive State where
  | data (text : List Char)
  | tagOpen (text : List Char)
  | endTagOpen (text : List Char)
  | markup (chars : List Char)
  | tagName (tag : Tag)
  | beforeAttr (tag : Tag)
  | attrName (tag : Tag) (name : List Char)
  | afterAttrName (tag : Tag) (name : List Char)
  | beforeValue (tag : Tag) (name : List Char)
  | quoted (tag : Tag) (name : List Char) (quote : Char) (value : List Char)
  | unquoted (tag : Tag) (name value : List Char)
  | selfClosing (tag : Tag)
deriving DecidableEq

def textToken (text : List Char) : List Token :=
  if text = [] then [] else [.text (decode (lineFeeds false text))]

def beginAttr (tag : Tag) (c : Char) : State × List Token :=
  if isWhite c then (.beforeAttr tag, [])
  else if c = '/' then (.selfClosing tag, [])
  else if c = '>' then (.data [], [.tag tag])
  else (.attrName tag [nameChar c], [])

def endAttrName (tag : Tag) (name : List Char) (c : Char) : State × List Token :=
  if isWhite c then (.afterAttrName tag name, [])
  else if c = '=' then (.beforeValue tag name, [])
  else if c = '/' then (.selfClosing (tag.add name []), [])
  else if c = '>' then (.data [], [.tag (tag.add name [])])
  else (.attrName (tag.add name []) [nameChar c], [])

def endsName (c : Char) : Bool := isWhite c || c = '/' || c = '>'

def step : State → Char → State × List Token
  | .data text, c => if c = '<' then (.tagOpen text, []) else (.data (text ++ [c]), [])
  | .tagOpen text, c =>
      if isLetter c then (.tagName (.named false [nameChar c]), textToken text)
      else if c = '/' then (.endTagOpen text, [])
      else if c = '!' then (.markup [], textToken text)
      else if c = '?' then (.markup [c], textToken text)
      else if c = '<' then (.tagOpen (text ++ ['<']), [])
      else (.data (text ++ ['<', c]), [])
  | .endTagOpen text, c =>
      if isLetter c then (.tagName (.named true [nameChar c]), textToken text)
      else if c = '>' then (.data text, [])
      else (.markup [c], textToken text)
  | .markup chars, c =>
      if c = '>' then (.data [], [.markup chars]) else (.markup (chars ++ [c]), [])
  | .tagName tag, c =>
      if endsName c then beginAttr tag c
      else (.tagName { tag with name := tag.name ++ [nameChar c] }, [])
  | .beforeAttr tag, c => beginAttr tag c
  | .attrName tag name, c =>
      if endsName c || c = '=' then endAttrName tag name c
      else (.attrName tag (name ++ [nameChar c]), [])
  | .afterAttrName tag name, c => endAttrName tag name c
  | .beforeValue tag name, c =>
      if isWhite c then (.beforeValue tag name, [])
      else if c = quotationMark ∨ c = apostrophe then (.quoted tag name c [], [])
      else if c = '>' then (.data [], [.tag (tag.add name [])])
      else (.unquoted tag name [c], [])
  | .quoted tag name quote value, c =>
      if c = quote then (.beforeAttr (tag.add name (decode (cleaned value))), [])
      else (.quoted tag name quote (value ++ [c]), [])
  | .unquoted tag name value, c =>
      if isWhite c then (.beforeAttr (tag.add name (decode (cleaned value))), [])
      else if c = '>' then (.data [], [.tag (tag.add name (decode (cleaned value)))])
      else (.unquoted tag name (value ++ [c]), [])
  | .selfClosing tag, c =>
      if c = '>' then (.data [], [.tag { tag with selfClosing := true }]) else beginAttr tag c

/-- A tag that the text breaks off in is dropped. -/
def State.atEnd : State → List Token
  | .data text => textToken text
  | .tagOpen text => textToken (text ++ ['<'])
  | .endTagOpen text => textToken (text ++ ['<', '/'])
  | .markup chars => [.markup chars]
  | _ => []

def tokensFrom : State → List Char → List Token
  | s, [] => s.atEnd
  | s, c :: cs => (step s c).2 ++ tokensFrom (step s c).1 cs

def tokens (html : List Char) : List Token := tokensFrom (.data []) html

variable {tag : Tag} {name text value cs rest : List Char} {c quote : Char}

theorem tokensFrom_cons (s : State) (c : Char) (cs : List Char) :
    tokensFrom s (c :: cs) = (step s c).2 ++ tokensFrom (step s c).1 cs :=
  rfl

/-! ## Runs over one kind of character -/

theorem tokensFrom_data (h : '<' ∉ cs) :
    tokensFrom (.data text) (cs ++ rest) = tokensFrom (.data (text ++ cs)) rest := by
  induction cs generalizing text with
  | nil => rw [List.append_nil, List.nil_append]
  | cons c cs ih =>
      obtain ⟨hc, hcs⟩ := not_or.mp (mt List.mem_cons.mpr h)
      rw [List.cons_append, tokensFrom_cons, step, if_neg (Ne.symm hc), List.nil_append, ih hcs,
        List.append_assoc, List.singleton_append]

theorem tokensFrom_markup (h : '>' ∉ cs) :
    tokensFrom (.markup text) (cs ++ '>' :: rest) =
      .markup (text ++ cs) :: tokensFrom (.data []) rest := by
  induction cs generalizing text with
  | nil => rw [List.append_nil, List.nil_append, tokensFrom_cons, step, if_pos rfl]; rfl
  | cons c cs ih =>
      obtain ⟨hc, hcs⟩ := not_or.mp (mt List.mem_cons.mpr h)
      rw [List.cons_append, tokensFrom_cons, step, if_neg (Ne.symm hc), List.nil_append, ih hcs,
        List.append_assoc, List.singleton_append]

theorem tokensFrom_quoted (h : quote ∉ cs) :
    tokensFrom (.quoted tag name quote value) (cs ++ quote :: rest) =
      tokensFrom (.beforeAttr (tag.add name (decode (cleaned (value ++ cs))))) rest := by
  induction cs generalizing value with
  | nil => rw [List.append_nil, List.nil_append, tokensFrom_cons, step, if_pos rfl]; rfl
  | cons c cs ih =>
      obtain ⟨hc, hcs⟩ := not_or.mp (mt List.mem_cons.mpr h)
      rw [List.cons_append, tokensFrom_cons, step, if_neg (Ne.symm hc), List.nil_append, ih hcs,
        List.append_assoc, List.singleton_append]

/-- A character of a name in lower case, which stands for itself. -/
def isNamePart (c : Char) : Bool := ('a' ≤ c && c ≤ 'z') || ('0' ≤ c && c ≤ '9') || c = '-'

theorem isNamePart_toNat (h : isNamePart c = true) :
    (97 ≤ c.toNat ∧ c.toNat ≤ 122) ∨ (48 ≤ c.toNat ∧ c.toNat ≤ 57) ∨ c.toNat = 45 := by
  simp only [isNamePart, Bool.or_eq_true, Bool.and_eq_true, decide_eq_true_eq] at h
  rcases h with (⟨hlow, hhigh⟩ | ⟨hlow, hhigh⟩) | rfl
  · exact .inl ⟨hlow, hhigh⟩
  · exact .inr (.inl ⟨hlow, hhigh⟩)
  · exact .inr (.inr rfl)

theorem ne_of_toNat_ne {d : Char} (h : c.toNat ≠ d.toNat) : c ≠ d := by
  rintro rfl
  exact h rfl

theorem nameChar_of_part (h : isNamePart c = true) : nameChar c = c := by
  have hc := isNamePart_toNat h
  have hnul : c ≠ nul := by
    apply ne_of_toNat_ne
    have : nul.toNat = 0 := rfl
    omega
  rw [nameChar, if_neg hnul, if_neg]
  rintro ⟨hlow, hhigh⟩
  have hlow : 65 ≤ c.toNat := hlow
  have hhigh : c.toNat ≤ 90 := hhigh
  omega

theorem endsName_of_part (h : isNamePart c = true) : endsName c = false := by
  have hc := isNamePart_toNat h
  have hslash : c ≠ '/' := by
    apply ne_of_toNat_ne
    have : ('/' : Char).toNat = 47 := rfl
    omega
  have hgt : c ≠ '>' := by
    apply ne_of_toNat_ne
    have : ('>' : Char).toNat = 62 := rfl
    omega
  simp only [endsName, isWhite, hslash, hgt, decide_false, Bool.or_false, Bool.or_eq_false_iff,
    decide_eq_false_iff_not]
  omega

theorem ne_equals_of_part (h : isNamePart c = true) : c ≠ '=' := by
  have hc := isNamePart_toNat h
  apply ne_of_toNat_ne
  have : ('=' : Char).toNat = 61 := rfl
  omega

theorem tokensFrom_tagName (h : ∀ c ∈ cs, isNamePart c = true) :
    tokensFrom (.tagName tag) (cs ++ rest) =
      tokensFrom (.tagName { tag with name := tag.name ++ cs }) rest := by
  induction cs generalizing tag with
  | nil => rw [List.append_nil, List.nil_append]
  | cons c cs ih =>
      obtain ⟨hc, hcs⟩ := List.forall_mem_cons.mp h
      rw [List.cons_append, tokensFrom_cons, step, endsName_of_part hc, if_neg Bool.false_ne_true,
        List.nil_append, ih hcs, nameChar_of_part hc]
      simp only [List.append_assoc, List.singleton_append]

theorem tokensFrom_attrName (h : ∀ c ∈ cs, isNamePart c = true) :
    tokensFrom (.attrName tag name) (cs ++ '=' :: rest) =
      tokensFrom (.beforeValue tag (name ++ cs)) rest := by
  induction cs generalizing name with
  | nil => rw [List.append_nil, List.nil_append]; rfl
  | cons c cs ih =>
      obtain ⟨hc, hcs⟩ := List.forall_mem_cons.mp h
      have hends : (endsName c || decide (c = '=')) = false := by
        rw [endsName_of_part hc, decide_eq_false (ne_equals_of_part hc), Bool.or_false]
      rw [List.cons_append, tokensFrom_cons, step, hends, if_neg Bool.false_ne_true,
        List.nil_append, ih hcs, nameChar_of_part hc, List.append_assoc, List.singleton_append]

/-! ## Inside a tag -/

/-- The tag that is being read. -/
def State.tag? : State → Option Tag
  | .tagName tag => some tag
  | .beforeAttr tag => some tag
  | .attrName tag _ => some tag
  | .afterAttrName tag _ => some tag
  | .beforeValue tag _ => some tag
  | .quoted tag _ _ _ => some tag
  | .unquoted tag _ _ => some tag
  | .selfClosing tag => some tag
  | _ => none

/-- The tag is read on, or it is complete; the attributes read so far stay in front. -/
inductive ReadsOn (tag : Tag) : State × List Token → Prop
  | inside {s : State} {next : Tag} : s.tag? = some next → tag.attrs <+: next.attrs →
      ReadsOn tag (s, [])
  | complete {s : State} {next : Tag} : tag.attrs <+: next.attrs → ReadsOn tag (s, [.tag next])

theorem Tag.prefix_add (tag : Tag) (name value : List Char) :
    tag.attrs <+: (tag.add name value).attrs :=
  List.prefix_append _ _

theorem beginAttr_readsOn (tag : Tag) (c : Char) : ReadsOn tag (beginAttr tag c) := by
  unfold beginAttr
  split_ifs
  · exact .inside rfl (List.prefix_refl _)
  · exact .inside rfl (List.prefix_refl _)
  · exact .complete (List.prefix_refl _)
  · exact .inside rfl (List.prefix_refl _)

theorem endAttrName_readsOn (tag : Tag) (name : List Char) (c : Char) :
    ReadsOn tag (endAttrName tag name c) := by
  unfold endAttrName
  split_ifs
  · exact .inside rfl (List.prefix_refl _)
  · exact .inside rfl (List.prefix_refl _)
  · exact .inside rfl (tag.prefix_add name [])
  · exact .complete (tag.prefix_add name [])
  · exact .inside rfl (tag.prefix_add name [])

theorem step_readsOn {s : State} (hs : s.tag? = some tag) (c : Char) : ReadsOn tag (step s c) := by
  cases s with
  | data text => cases hs
  | tagOpen text => cases hs
  | endTagOpen text => cases hs
  | markup chars => cases hs
  | tagName =>
      obtain rfl := Option.some.inj hs
      rw [step]
      split_ifs
      · exact beginAttr_readsOn _ c
      · exact .inside rfl (List.prefix_refl _)
  | beforeAttr =>
      obtain rfl := Option.some.inj hs
      exact beginAttr_readsOn _ c
  | attrName _ name =>
      obtain rfl := Option.some.inj hs
      rw [step]
      split_ifs
      · exact endAttrName_readsOn _ name c
      · exact .inside rfl (List.prefix_refl _)
  | afterAttrName _ name =>
      obtain rfl := Option.some.inj hs
      exact endAttrName_readsOn _ name c
  | beforeValue =>
      obtain rfl := Option.some.inj hs
      rw [step]
      split_ifs
      · exact .inside rfl (List.prefix_refl _)
      · exact .inside rfl (List.prefix_refl _)
      · exact .complete (Tag.prefix_add _ _ _)
      · exact .inside rfl (List.prefix_refl _)
  | quoted =>
      obtain rfl := Option.some.inj hs
      rw [step]
      split_ifs
      · exact .inside rfl (Tag.prefix_add _ _ _)
      · exact .inside rfl (List.prefix_refl _)
  | unquoted =>
      obtain rfl := Option.some.inj hs
      rw [step]
      split_ifs
      · exact .inside rfl (Tag.prefix_add _ _ _)
      · exact .complete (Tag.prefix_add _ _ _)
      · exact .inside rfl (List.prefix_refl _)
  | selfClosing =>
      obtain rfl := Option.some.inj hs
      rw [step]
      split_ifs
      · exact .complete (List.prefix_refl _)
      · exact beginAttr_readsOn _ c

/-- What is read of a tag begins with the attributes that are there already. -/
theorem attrs_of_tokensFrom {s : State} {next : Tag} {ts : List Token} (hs : s.tag? = some tag)
    (h : tokensFrom s cs = .tag next :: ts) : tag.attrs <+: next.attrs := by
  induction cs generalizing s tag with
  | nil =>
      have hend : s.atEnd = [] := by
        cases s with
        | data | tagOpen | endTagOpen | markup => cases hs
        | _ => rfl
      rw [tokensFrom, hend] at h
      cases h
  | cons c cs ih =>
      rw [tokensFrom_cons] at h
      have hstep := step_readsOn hs c
      generalize step s c = result at h hstep
      cases hstep with
      | inside hnext hprefix => exact hprefix.trans (ih hnext h)
      | complete hprefix =>
        rw [List.singleton_append] at h
        obtain rfl := Token.tag.inj (List.cons.inj h).1
        exact hprefix

/-! ## Escaped text -/

def escapeChar (c : Char) : List Char :=
  if c = '&' then ['&', 'a', 'm', 'p', ';']
  else if c = '<' then ['&', 'l', 't', ';']
  else if c = '>' then ['&', 'g', 't', ';']
  else [c]

/-- `&`, `<` and `>` as references. -/
def escape (cs : List Char) : List Char := cs.flatMap escapeChar

theorem escape_cons (c : Char) (cs : List Char) : escape (c :: cs) = escapeChar c ++ escape cs :=
  List.flatMap_cons

theorem escape_append (cs ds : List Char) : escape (cs ++ ds) = escape cs ++ escape ds :=
  List.flatMap_append

theorem lt_not_mem_escapeChar (c : Char) : '<' ∉ escapeChar c := by
  unfold escapeChar
  split_ifs with hamp hlt hgt
  · decide
  · decide
  · decide
  · exact fun h => hlt (List.mem_singleton.mp h).symm

theorem lt_not_mem_escape (cs : List Char) : '<' ∉ escape cs := by
  intro h
  obtain ⟨c, -, hc⟩ := List.mem_flatMap.mp h
  exact lt_not_mem_escapeChar c hc

theorem quotationMark_mem_escapeChar (h : quotationMark ∈ escapeChar c) : c = quotationMark := by
  unfold escapeChar at h
  split_ifs at h with hamp hlt hgt
  · exact absurd h (by decide)
  · exact absurd h (by decide)
  · exact absurd h (by decide)
  · exact (List.mem_singleton.mp h).symm

theorem quotationMark_not_mem_escape (h : quotationMark ∉ cs) : quotationMark ∉ escape cs := by
  intro hmem
  obtain ⟨c, hc, hmem⟩ := List.mem_flatMap.mp hmem
  rw [quotationMark_mem_escapeChar hmem] at hc
  exact h hc

theorem escape_eq_self (h : ∀ c ∈ cs, c ≠ '&' ∧ c ≠ '<' ∧ c ≠ '>') : escape cs = cs := by
  induction cs with
  | nil => rfl
  | cons c cs ih =>
      obtain ⟨⟨hamp, hlt, hgt⟩, hcs⟩ := List.forall_mem_cons.mp h
      rw [escape_cons, ih hcs, escapeChar, if_neg hamp, if_neg hlt, if_neg hgt,
        List.singleton_append]

theorem decode_cons (h : c ≠ '&') : decode (c :: cs) = c :: decode cs := by
  rw [decode]
  all_goals
    intros
    exact absurd ‹_› h

theorem decode_escape (cs : List Char) : decode (escape cs) = cs := by
  induction cs with
  | nil => rfl
  | cons c cs ih =>
      rw [escape_cons, escapeChar]
      split_ifs with hamp hlt hgt
      · rw [hamp]
        simp only [List.cons_append, List.nil_append, decode, ih]
      · rw [hlt]
        simp only [List.cons_append, List.nil_append, decode, ih]
      · rw [hgt]
        simp only [List.cons_append, List.nil_append, decode, ih]
      · rw [List.singleton_append, decode_cons hamp, ih]

theorem lineFeeds_cons {afterReturn : Bool} (hreturn : c ≠ '\r') (hfeed : c ≠ '\n') :
    lineFeeds afterReturn (c :: cs) = c :: lineFeeds false cs := by
  rw [lineFeeds, if_neg hreturn, if_neg fun h => hfeed h.1]

theorem lineFeeds_append {afterReturn : Bool} (hcs : cs ≠ [])
    (h : ∀ c ∈ cs, c ≠ '\r' ∧ c ≠ '\n') :
    lineFeeds afterReturn (cs ++ rest) = cs ++ lineFeeds false rest := by
  induction cs generalizing afterReturn with
  | nil => exact absurd rfl hcs
  | cons c cs ih =>
      obtain ⟨⟨hreturn, hfeed⟩, htail⟩ := List.forall_mem_cons.mp h
      rw [List.cons_append, lineFeeds_cons hreturn hfeed, List.cons_append]
      cases cs with
      | nil => rfl
      | cons d ds => rw [ih (List.cons_ne_nil d ds) htail]

theorem escapeChar_of_lineEnd (h : c = '\r' ∨ c = '\n') : escapeChar c = [c] := by
  rcases h with rfl | rfl <;> decide

theorem lineFeeds_escape (afterReturn : Bool) (cs : List Char) :
    lineFeeds afterReturn (escape cs) = escape (lineFeeds afterReturn cs) := by
  induction cs generalizing afterReturn with
  | nil => rfl
  | cons c cs ih =>
      by_cases hreturn : c = '\r'
      · rw [escape_cons, escapeChar_of_lineEnd (.inl hreturn), List.singleton_append, lineFeeds,
          lineFeeds, if_pos hreturn, if_pos hreturn, ih, escape_cons,
          escapeChar_of_lineEnd (.inr rfl), List.singleton_append]
      · by_cases hfeed : c = '\n'
        · rw [escape_cons, escapeChar_of_lineEnd (.inr hfeed), List.singleton_append, lineFeeds,
            lineFeeds, if_neg hreturn, if_neg hreturn]
          split_ifs with hafter
          · exact ih false
          · rw [ih, escape_cons, escapeChar_of_lineEnd (.inr hfeed), List.singleton_append]
        · rw [lineFeeds_cons hreturn hfeed, escape_cons, escape_cons, lineFeeds_append, ih]
          · unfold escapeChar
            split_ifs <;> simp
          · unfold escapeChar
            split_ifs <;> simp [hreturn, hfeed]

theorem withoutNul_escape (cs : List Char) : withoutNul (escape cs) = escape (withoutNul cs) := by
  induction cs with
  | nil => rfl
  | cons c cs ih =>
      have hchar : withoutNul (escapeChar c) =
          escapeChar (if c = nul then Char.ofNat 0xFFFD else c) := by
        by_cases hnul : c = nul
        · rw [if_pos hnul, hnul]
          decide
        · rw [if_neg hnul, escapeChar]
          split_ifs
          · decide
          · decide
          · decide
          · rw [withoutNul, List.map_singleton, if_neg hnul]
      have hcons : withoutNul (c :: cs) =
          (if c = nul then Char.ofNat 0xFFFD else c) :: withoutNul cs :=
        rfl
      have happend : withoutNul (escapeChar c ++ escape cs) =
          withoutNul (escapeChar c) ++ withoutNul (escape cs) :=
        List.map_append
      rw [escape_cons, happend, hchar, ih, hcons, escape_cons]

/-- An escaped value is decoded to the value, but for its line ends and null characters. -/
theorem decode_cleaned_escape (cs : List Char) : decode (cleaned (escape cs)) = cleaned cs := by
  rw [cleaned, lineFeeds_escape, withoutNul_escape, decode_escape, cleaned]

theorem textToken_escape (cs : List Char) :
    textToken (escape cs) = if cs = [] then [] else [.text (lineFeeds false cs)] := by
  have hnil : escape cs = [] ↔ cs = [] := by
    constructor
    · intro h
      rw [← decode_escape cs, h]
      rfl
    · rintro rfl
      rfl
  rw [textToken, lineFeeds_escape, decode_escape]
  simp only [hnil]

/-! ## Values that an attribute gives back -/

/-- No character that ends the value or that a browser replaces in it. -/
def Clean (cs : List Char) : Prop := quotationMark ∉ cs ∧ '\r' ∉ cs ∧ nul ∉ cs

instance (cs : List Char) : Decidable (Clean cs) := inferInstanceAs (Decidable (_ ∧ _ ∧ _))

theorem lineFeeds_eq_self (h : '\r' ∉ cs) : lineFeeds false cs = cs := by
  induction cs with
  | nil => rfl
  | cons c cs ih =>
      obtain ⟨hc, hcs⟩ := not_or.mp (mt List.mem_cons.mpr h)
      rw [lineFeeds, if_neg (Ne.symm hc), if_neg fun h => Bool.false_ne_true h.2, ih hcs]

theorem cleaned_eq_self (hreturn : '\r' ∉ cs) (hnul : nul ∉ cs) : cleaned cs = cs := by
  rw [cleaned, lineFeeds_eq_self hreturn, withoutNul]
  conv_rhs => rw [← List.map_id cs]
  apply List.map_congr_left
  intro c hc
  have hne : c ≠ nul := by
    rintro rfl
    exact hnul hc
  rw [if_neg hne, id]

theorem mem_lineFeeds {afterReturn : Bool} (h : c ∈ lineFeeds afterReturn cs) :
    c = '\n' ∨ c ∈ cs ∧ c ≠ '\r' := by
  induction cs generalizing afterReturn with
  | nil => cases h
  | cons d ds ih =>
      rw [lineFeeds] at h
      have htail : ∀ b, c ∈ lineFeeds b ds → c = '\n' ∨ c ∈ d :: ds ∧ c ≠ '\r' := by
        intro b hmem
        apply (ih hmem).imp_right
        exact fun hc => ⟨List.mem_cons_of_mem d hc.1, hc.2⟩
      split_ifs at h with hreturn
      · rcases List.mem_cons.mp h with rfl | h
        · exact .inl rfl
        · exact htail _ h
      · exact htail _ h
      · rcases List.mem_cons.mp h with rfl | h
        · exact .inr ⟨List.mem_cons_self, hreturn⟩
        · exact htail _ h

theorem cleaned_clean (h : quotationMark ∉ cs) : Clean (cleaned cs) := by
  have hmem : ∀ c ∈ cleaned cs, c ≠ nul ∧
      (c = Char.ofNat 0xFFFD ∨ c = '\n' ∨ c ∈ cs ∧ c ≠ '\r') := by
    intro c hc
    obtain ⟨d, hd, rfl⟩ := List.mem_map.mp hc
    split_ifs with hnul
    · exact ⟨by decide, .inl rfl⟩
    · exact ⟨hnul, .inr (mem_lineFeeds hd)⟩
  refine ⟨?_, ?_, ?_⟩
  · intro hc
    rcases (hmem _ hc).2 with hc | hc | hc
    · exact absurd hc (by decide)
    · exact absurd hc (by decide)
    · exact h hc.1
  · intro hc
    rcases (hmem _ hc).2 with hc | hc | hc
    · exact absurd hc (by decide)
    · exact absurd hc (by decide)
    · exact hc.2 rfl
  · intro hc
    exact (hmem _ hc).1 rfl

/-- A clean value in quotation marks is read as itself. -/
theorem tokensFrom_clean (h : Clean cs) :
    tokensFrom (.quoted tag name quotationMark []) (escape cs ++ quotationMark :: rest) =
      tokensFrom (.beforeAttr (tag.add name cs)) rest := by
  rw [tokensFrom_quoted (quotationMark_not_mem_escape h.1), List.nil_append, decode_cleaned_escape,
    cleaned_eq_self h.2.1 h.2.2]

/-- Another one is never read as itself. -/
theorem tokensFrom_unclean {next : Tag} {post : List (List Char × List Char)} {ts : List Token}
    (h : ¬Clean cs)
    (htokens : tokensFrom (.quoted tag name quotationMark []) (escape cs ++ quotationMark :: rest) =
      .tag next :: ts) :
    next.attrs ≠ tag.attrs ++ (name, cs) :: post := by
  -- what is read is the value up to its first quotation mark
  obtain ⟨seen, rest', hseen, hne, hread⟩ : ∃ seen rest', quotationMark ∉ seen ∧ cleaned seen ≠ cs ∧
      escape cs ++ quotationMark :: rest = escape seen ++ quotationMark :: rest' := by
    by_cases hmark : quotationMark ∈ cs
    · obtain ⟨seen, after, rfl, hseen⟩ := List.eq_append_cons_of_mem hmark
      refine ⟨seen, escape after ++ quotationMark :: rest, hseen, ?_, ?_⟩
      · intro heq
        apply (cleaned_clean hseen).1
        rw [heq]
        exact hmark
      · rw [escape_append, escape_cons, List.append_assoc, List.append_assoc]
        rfl
    · refine ⟨cs, rest, hmark, ?_, rfl⟩
      intro heq
      apply h
      rw [← heq]
      exact cleaned_clean hmark
  rw [hread, tokensFrom_quoted (quotationMark_not_mem_escape hseen), List.nil_append,
    decode_cleaned_escape] at htokens
  obtain ⟨more, hmore⟩ := attrs_of_tokensFrom rfl htokens
  intro hattrs
  rw [← hmore, Tag.add, List.append_assoc, List.append_cancel_left_eq, List.singleton_append]
    at hattrs
  exact hne (Prod.mk.inj (List.cons.inj hattrs).1).2

end CapsuleMesh.Library.Html
