import CapsuleMesh.Library.HtmlTokens

/-!
# Templates with escaped holes

A template is written in pieces whose fixed parts carry the proof that they hold no markup.  Its
values are escaped, in text and in attribute values alike, and a tokenizer finds the pieces of the
template again exactly when no attribute value holds a character that the escape leaves out.
-/

namespace CapsuleMesh.Library.Html

/-! ## Pieces -/

def isName : List Char → Bool
  | [] => false
  | c :: cs => ('a' ≤ c && c ≤ 'z') && cs.all isNamePart

structure Name where
  chars : List Char
  valid : isName chars = true

def isPlain (c : Char) : Bool := c ≠ '&' && c ≠ '<' && c ≠ '>'

def isQuotable (c : Char) : Bool :=
  isPlain c && c ≠ quotationMark && c ≠ apostrophe && c ≠ '\r' && c ≠ nul

/-- Text that holds no markup. -/
structure PlainText where
  chars : List Char
  plain : chars.all isPlain = true

/-- Text that is escaped already, and what it stands for. -/
structure EscapedText where
  written : List Char
  meant : List Char
  written_eq : written = escape meant

/-- An attribute value that can stand in either quotes. -/
structure PlainValue where
  chars : List Char
  quotable : chars.all isQuotable = true

def named (s : String) (valid : isName s.toList = true := by decide) : Name := ⟨s.toList, valid⟩

namespace Name

def div : Name := named "div"

def span : Name := named "span"

def p : Name := named "p"

def h2 : Name := named "h2"

def h3 : Name := named "h3"

def table : Name := named "table"

def thead : Name := named "thead"

def tbody : Name := named "tbody"

def tr : Name := named "tr"

def th : Name := named "th"

def td : Name := named "td"

def header : Name := named "header"

def details : Name := named "details"

def summary : Name := named "summary"

def title : Name := named "title"

def section_ : Name := named "section"

def class_ : Name := named "class"

end Name

def plainText (s : String) (plain : s.toList.all isPlain = true := by decide) : PlainText :=
  ⟨s.toList, plain⟩

def plainValue (s : String) (quotable : s.toList.all isQuotable = true := by decide) : PlainValue :=
  ⟨s.toList, quotable⟩

inductive Quote where
  | single
  | double

def Quote.char : Quote → Char
  | .single => apostrophe
  | .double => quotationMark

inductive Attr where
  | fixed (name : Name) (quote : Quote) (value : PlainValue)
  | hole (name : Name) (value : List Char)

inductive Piece where
  | text (chars : PlainText)
  | escaped (chars : EscapedText)
  | value (chars : List Char)
  | tag (name : Name) (attrs : List Attr)
  | endTag (name : Name)
  | declaration (chars : PlainText)

section

-- what the writer of the text does to a value
variable (esc : List Char → List Char)

def Attr.html : Attr → List Char
  | .fixed name quote value =>
      ' ' :: (name.chars ++ '=' :: quote.char :: (value.chars ++ [quote.char]))
  | .hole name value =>
      ' ' :: (name.chars ++ '=' :: quotationMark :: (esc value ++ [quotationMark]))

def Piece.html : Piece → List Char
  | .text t => t.chars
  | .escaped t => t.written
  | .value v => esc v
  | .tag name attrs => '<' :: (name.chars ++ (attrs.flatMap (Attr.html esc) ++ ['>']))
  | .endTag name => '<' :: '/' :: (name.chars ++ ['>'])
  | .declaration t => '<' :: '!' :: (t.chars ++ ['>'])

def html (ps : List Piece) : List Char := ps.flatMap (Piece.html esc)

end

/-! ## What a template means -/

def Attr.given : Attr → List Char × List Char
  | .fixed name _ value => (name.chars, value.chars)
  | .hole name value => (name.chars, value)

def textRead (text : List Char) : List Token :=
  if text = [] then [] else [.text (lineFeeds false text)]

/-- The tokens of a template, after some text. -/
def intendedFrom : List Char → List Piece → List Token
  | text, [] => textRead text
  | text, .text t :: ps => intendedFrom (text ++ t.chars) ps
  | text, .escaped t :: ps => intendedFrom (text ++ t.meant) ps
  | text, .value v :: ps => intendedFrom (text ++ v) ps
  | text, .tag name attrs :: ps =>
      textRead text ++ .tag ⟨false, name.chars, attrs.map Attr.given, false⟩ :: intendedFrom [] ps
  | text, .endTag name :: ps =>
      textRead text ++ .tag ⟨true, name.chars, [], false⟩ :: intendedFrom [] ps
  | text, .declaration t :: ps => textRead text ++ .markup t.chars :: intendedFrom [] ps

def intended (ps : List Piece) : List Token := intendedFrom [] ps

/-- A tokenizer reads the pieces back: every value is in the attribute or the text it was put in,
an attribute has the value it was given, and there is no other tag, attribute or text. -/
def Contained (esc : List Char → List Char) (ps : List Piece) : Prop :=
  tokens (html esc ps) = intended ps

def element (name : Name) (attrs : List Attr) (children : List Piece) : List Piece :=
  .tag name attrs :: (children ++ [.endTag name])

def plain (s : String) (valid : s.toList.all isPlain = true := by decide) : List Piece :=
  [.text (plainText s valid)]

/-- A new line and so many blanks. -/
def lineBreak (n : ℕ) : List Piece :=
  [.text {
    chars := '\n' :: List.replicate n ' '
    plain := by
      apply List.all_eq_true.mpr
      intro c hc
      rcases List.mem_cons.mp hc with rfl | hc
      · decide
      · rw [List.eq_of_mem_replicate hc]
        decide }]

def Attr.holes : Attr → List (List Char)
  | .fixed _ _ _ => []
  | .hole _ value => [value]

def Piece.holes : Piece → List (List Char)
  | .tag _ attrs => attrs.flatMap Attr.holes
  | _ => []

/-- The values in attributes. -/
def holes (ps : List Piece) : List (List Char) := ps.flatMap Piece.holes

@[simp] theorem holes_nil : holes [] = [] := rfl

@[simp] theorem holes_cons (p : Piece) (ps : List Piece) : holes (p :: ps) = p.holes ++ holes ps :=
  List.flatMap_cons

@[simp] theorem holes_append (ps qs : List Piece) : holes (ps ++ qs) = holes ps ++ holes qs :=
  List.flatMap_append

@[simp] theorem holes_plain (s : String) (valid : s.toList.all isPlain = true) :
    holes (plain s valid) = [] :=
  rfl

@[simp] theorem holes_lineBreak (n : ℕ) : holes (lineBreak n) = [] := rfl

@[simp] theorem Piece.holes_text (t : PlainText) : (Piece.text t).holes = [] := rfl

@[simp] theorem Piece.holes_escaped (t : EscapedText) : (Piece.escaped t).holes = [] := rfl

@[simp] theorem Piece.holes_value (v : List Char) : (Piece.value v).holes = [] := rfl

@[simp] theorem Attr.holes_fixed (name : Name) (quote : Quote) (value : PlainValue) :
    (Attr.fixed name quote value).holes = [] :=
  rfl

@[simp] theorem Attr.holes_hole (name : Name) (value : List Char) :
    (Attr.hole name value).holes = [value] :=
  rfl

@[simp] theorem holes_element (name : Name) (attrs : List Attr) (children : List Piece) :
    holes (element name attrs children) = attrs.flatMap Attr.holes ++ holes children := by
  rw [element, holes_cons, holes_append]
  exact congrArg _ (List.append_nil _)

@[simp] theorem holes_flatMap {α : Type} (xs : List α) (f : α → List Piece) :
    holes (xs.flatMap f) = xs.flatMap fun x => holes (f x) :=
  List.flatMap_assoc

theorem holes_intercalate {sep : List Piece} (hsep : holes sep = []) (pss : List (List Piece)) :
    holes (sep.intercalate pss) = pss.flatMap holes := by
  induction pss with
  | nil => rfl
  | cons ps pss ih =>
      cases pss with
      | nil => simp
      | cons qs pss =>
        rw [List.intercalate_cons_cons, holes_append, holes_append, hsep, ih, List.append_nil]
        exact List.flatMap_cons.symm

theorem html_cons (esc : List Char → List Char) (p : Piece) (ps : List Piece) :
    html esc (p :: ps) = p.html esc ++ html esc ps :=
  List.flatMap_cons

/-! ## Reading a template back -/

variable {tag : Tag} {s : State} {raw rest : List Char}

theorem PlainText.escape_chars (t : PlainText) : escape t.chars = t.chars := by
  apply escape_eq_self
  intro c hc
  have h := List.all_eq_true.mp t.plain c hc
  simpa only [isPlain, Bool.and_eq_true, decide_eq_true_eq, and_assoc] using h

theorem PlainValue.quotable_of_mem (v : PlainValue) {c : Char} (hc : c ∈ v.chars) :
    (c ≠ '&' ∧ c ≠ '<' ∧ c ≠ '>') ∧ c ≠ quotationMark ∧ c ≠ apostrophe ∧ c ≠ '\r' ∧ c ≠ nul := by
  have h := List.all_eq_true.mp v.quotable c hc
  simpa only [isQuotable, isPlain, Bool.and_eq_true, decide_eq_true_eq, and_assoc] using h

theorem PlainValue.quote_not_mem (v : PlainValue) (quote : Quote) : quote.char ∉ v.chars := by
  intro hmem
  have h := v.quotable_of_mem hmem
  cases quote with
  | single => exact h.2.2.1 rfl
  | double => exact h.2.1 rfl

theorem PlainValue.decode_chars (v : PlainValue) : decode (cleaned v.chars) = v.chars := by
  have hescape : escape v.chars = v.chars := escape_eq_self fun c hc => (v.quotable_of_mem hc).1
  have hdecode := decode_cleaned_escape v.chars
  rw [hescape] at hdecode
  rw [hdecode]
  apply cleaned_eq_self
  · exact fun hmem => (v.quotable_of_mem hmem).2.2.2.1 rfl
  · exact fun hmem => (v.quotable_of_mem hmem).2.2.2.2 rfl

theorem Name.eq_cons (name : Name) : ∃ c cs, name.chars = c :: cs ∧ isLetter c = true ∧
    isNamePart c = true ∧ ∀ d ∈ cs, isNamePart d = true := by
  obtain ⟨chars, valid⟩ := name
  cases chars with
  | nil => cases valid
  | cons c cs =>
      obtain ⟨hletter, hcs⟩ := Bool.and_eq_true_iff.mp valid
      refine ⟨c, cs, rfl, ?_, ?_, List.all_eq_true.mp hcs⟩
      · rw [isLetter, hletter, Bool.true_or]
      · rw [isNamePart, hletter, Bool.true_or, Bool.true_or]

theorem tokensFrom_openTag (name : Name) :
    tokensFrom (.data raw) ('<' :: (name.chars ++ rest)) =
      textToken raw ++ tokensFrom (.tagName (.named false name.chars)) rest := by
  obtain ⟨c, cs, hname, hletter, hc, hcs⟩ := name.eq_cons
  rw [hname, tokensFrom_cons, step, if_pos rfl, List.nil_append, List.cons_append, tokensFrom_cons,
    step, if_pos hletter, nameChar_of_part hc, tokensFrom_tagName hcs]
  rfl

theorem tokensFrom_closeTag (name : Name) :
    tokensFrom (.data raw) ('<' :: '/' :: (name.chars ++ rest)) =
      textToken raw ++ tokensFrom (.tagName (.named true name.chars)) rest := by
  obtain ⟨c, cs, hname, hletter, hc, hcs⟩ := name.eq_cons
  have hslash : step (.tagOpen raw) '/' = (.endTagOpen raw, []) := rfl
  rw [hname, tokensFrom_cons, step, if_pos rfl, List.nil_append, tokensFrom_cons, hslash,
    List.nil_append, List.cons_append, tokensFrom_cons, step, if_pos hletter, nameChar_of_part hc,
    tokensFrom_tagName hcs]
  rfl

theorem tokensFrom_declaration (t : PlainText) :
    tokensFrom (.data raw) ('<' :: '!' :: (t.chars ++ '>' :: rest)) =
      textToken raw ++ .markup t.chars :: tokensFrom (.data []) rest := by
  have hmark : step (.tagOpen raw) '!' = (.markup [], textToken raw) := rfl
  have hgt : '>' ∉ t.chars := by
    intro hmem
    have h := List.all_eq_true.mp t.plain _ hmem
    exact absurd h (by decide)
  rw [tokensFrom_cons, step, if_pos rfl, List.nil_append, tokensFrom_cons, hmark,
    tokensFrom_markup hgt, List.nil_append]

/-- The tag has been read up to an end of its name or of an attribute. -/
inductive Between (tag : Tag) : State → Prop
  | name : Between tag (.tagName tag)
  | attr : Between tag (.beforeAttr tag)

theorem Between.close (hs : Between tag s) :
    tokensFrom s ('>' :: rest) = .tag tag :: tokensFrom (.data []) rest := by
  cases hs <;> rfl

theorem Between.attribute (hs : Between tag s) (name : Name) (quote : Quote) :
    tokensFrom s (' ' :: (name.chars ++ '=' :: quote.char :: rest)) =
      tokensFrom (.quoted tag name.chars quote.char []) rest := by
  obtain ⟨c, cs, hname, -, hc, hcs⟩ := name.eq_cons
  have hspace : step s ' ' = (.beforeAttr tag, []) := by cases hs <;> rfl
  have hends := endsName_of_part hc
  simp only [endsName, Bool.or_eq_false_iff, decide_eq_false_iff_not] at hends
  have hbegin : step (.beforeAttr tag) c = (.attrName tag [c], []) := by
    rw [step, beginAttr, hends.1.1, if_neg Bool.false_ne_true, if_neg hends.1.2, if_neg hends.2,
      nameChar_of_part hc]
  have hquote : step (.beforeValue tag (c :: cs)) quote.char =
      (.quoted tag (c :: cs) quote.char [], []) := by
    cases quote <;> rfl
  rw [hname, tokensFrom_cons, hspace, List.nil_append, List.cons_append, tokensFrom_cons, hbegin,
    List.nil_append, tokensFrom_attrName hcs, List.singleton_append, tokensFrom_cons, hquote,
    List.nil_append]

theorem Between.fixed (hs : Between tag s) (name : Name) (quote : Quote) (value : PlainValue) :
    tokensFrom s ((Attr.fixed name quote value).html escape ++ rest) =
      tokensFrom (.beforeAttr (tag.add name.chars value.chars)) rest := by
  have hquoted :
      tokensFrom (.quoted tag name.chars quote.char []) (value.chars ++ quote.char :: rest) =
        tokensFrom (.beforeAttr (tag.add name.chars value.chars)) rest := by
    rw [tokensFrom_quoted (value.quote_not_mem quote), List.nil_append, value.decode_chars]
  rw [← hquoted, ← hs.attribute name quote, Attr.html]
  simp only [List.cons_append, List.append_assoc, List.nil_append]

/-- The attributes are read as given exactly when their values are clean. -/
theorem Between.attrs (hs : Between tag s) (attrs : List Attr) (ts : List Token) :
    tokensFrom s (attrs.flatMap (Attr.html escape) ++ '>' :: rest) =
        .tag { tag with attrs := tag.attrs ++ attrs.map Attr.given } :: ts ↔
      (∀ v ∈ attrs.flatMap Attr.holes, Clean v) ∧ tokensFrom (.data []) rest = ts := by
  induction attrs generalizing tag s with
  | nil =>
      rw [List.flatMap_nil, List.nil_append, hs.close, List.map_nil, List.append_nil,
        List.cons_eq_cons]
      simp
  | cons a attrs ih =>
      have hgiven : ({ tag with attrs := tag.attrs ++ (a :: attrs).map Attr.given } : Tag) =
          { tag.add a.given.1 a.given.2 with
            attrs := (tag.add a.given.1 a.given.2).attrs ++ attrs.map Attr.given } := by
        simp only [Tag.add, List.map_cons, List.append_assoc, List.singleton_append]
      cases a with
      | fixed name quote value =>
        rw [List.flatMap_cons, List.append_assoc, hs.fixed, hgiven, Attr.given, ih .attr]
        rfl
      | hole name value =>
        have hread : tokensFrom s (((Attr.hole name value) :: attrs).flatMap (Attr.html escape) ++
            '>' :: rest) =
            tokensFrom (.quoted tag name.chars quotationMark [])
              (escape value ++ quotationMark ::
                (attrs.flatMap (Attr.html escape) ++ '>' :: rest)) := by
          refine Eq.trans ?_ (hs.attribute name .double)
          rw [List.flatMap_cons, Attr.html]
          simp only [List.cons_append, List.append_assoc, List.nil_append, Quote.char]
        rw [hread, List.flatMap_cons, Attr.holes, List.singleton_append, List.forall_mem_cons,
          and_assoc]
        by_cases hclean : Clean value
        · rw [tokensFrom_clean hclean, hgiven, Attr.given, ih .attr]
          exact (and_iff_right hclean).symm
        · constructor
          · intro htokens
            exact absurd rfl (tokensFrom_unclean hclean htokens)
          · intro h
            exact absurd h.1 hclean

theorem textToken_escape_eq (text : List Char) : textToken (escape text) = textRead text :=
  textToken_escape text

/-- After some text, the pieces are read as intended exactly when the values in their attributes are
clean. -/
theorem tokensFrom_html_iff (ps : List Piece) (text : List Char) :
    tokensFrom (.data (escape text)) (html escape ps) = intendedFrom text ps ↔
      ∀ v ∈ holes ps, Clean v := by
  induction ps generalizing text with
  | nil =>
      refine iff_of_true (textToken_escape text) ?_
      simp
  | cons p ps ih =>
      have hempty : tokensFrom (.data []) (html escape ps) = intendedFrom [] ps ↔
          ∀ v ∈ holes ps, Clean v :=
        ih []
      rw [html_cons, holes_cons]
      cases p with
      | text t =>
        have hlt : '<' ∉ t.chars := t.escape_chars ▸ lt_not_mem_escape t.chars
        have htail := ih (text ++ t.chars)
        rw [escape_append, t.escape_chars] at htail
        rw [Piece.html, tokensFrom_data hlt, intendedFrom, htail]
        rfl
      | escaped t =>
        have hlt : '<' ∉ t.written := t.written_eq ▸ lt_not_mem_escape t.meant
        have htail := ih (text ++ t.meant)
        rw [escape_append, ← t.written_eq] at htail
        rw [Piece.html, tokensFrom_data hlt, intendedFrom, htail]
        rfl
      | value v =>
        rw [Piece.html, tokensFrom_data (lt_not_mem_escape v), intendedFrom, ← escape_append, ih]
        rfl
      | tag name attrs =>
        have hhtml : (Piece.tag name attrs).html escape ++ html escape ps =
            '<' :: (name.chars ++
              (attrs.flatMap (Attr.html escape) ++ '>' :: html escape ps)) := by
          simp only [Piece.html, List.cons_append, List.append_assoc, List.nil_append]
        rw [hhtml, tokensFrom_openTag, intendedFrom, textToken_escape_eq,
          List.append_cancel_left_eq]
        have hbetween : Between (.named false name.chars) (.tagName (.named false name.chars)) :=
          .name
        rw [Piece.holes, List.forall_mem_append, ← hempty]
        exact hbetween.attrs attrs (intendedFrom [] ps)
      | endTag name =>
        have hhtml : (Piece.endTag name).html escape ++ html escape ps =
            '<' :: '/' :: (name.chars ++ '>' :: html escape ps) := by
          simp only [Piece.html, List.cons_append, List.append_assoc, List.nil_append]
        rw [hhtml, tokensFrom_closeTag, Between.name.close, intendedFrom, textToken_escape_eq,
          List.append_cancel_left_eq, List.cons_eq_cons]
        exact (and_iff_right rfl).trans hempty
      | declaration t =>
        have hhtml : (Piece.declaration t).html escape ++ html escape ps =
            '<' :: '!' :: (t.chars ++ '>' :: html escape ps) := by
          simp only [Piece.html, List.cons_append, List.append_assoc, List.nil_append]
        rw [hhtml, tokensFrom_declaration, intendedFrom, textToken_escape_eq,
          List.append_cancel_left_eq, List.cons_eq_cons]
        exact (and_iff_right rfl).trans hempty

theorem contained_iff (ps : List Piece) : Contained escape ps ↔ ∀ v ∈ holes ps, Clean v :=
  tokensFrom_html_iff ps []

end CapsuleMesh.Library.Html
