import CapsuleMesh.Ledger.Finder
import CapsuleMesh.Pane.Cards

/-!
# The page of the finder

The HTML of `ledger_finder.py`.  One escape serves texts and attribute values; it leaves out the
quotation mark, which ends an attribute value.
-/

namespace CapsuleMesh.Ledger

open Python Library Html Pane

/-! ## The page -/

/-- What the page reads of an archived segment beside what the search reads. -/
structure SegmentTexts where
  firstTs : Json
  lastTs : Json
  checkpointRoot : Json
  note : Json

/-- What a view holds beside the id of its record. -/
structure ViewBody where
  exchangeId : Json
  role : Json
  modelClaimed : Json
  verdict : List VerdictLine
  digest : Sidecar.MatchGrade
  sequence : CardSequence
  thisHalf : IdentityChain
  counterpart : Option IdentityChain
  properties : Properties

/-- The parts of the page that its templates are filled with: how values are written as texts,
which characters beyond ASCII are printable, the stylesheet, and the views. -/
structure PageTools where
  str : Json → String
  printable : Char → Bool
  style : PlainText
  segmentTexts : ArchivedSegment → SegmentTexts
  viewBody : Json → List Json → Py ViewBody

def PageTools.view (T : PageTools) (record : Json) (allRecords : List Json) : Py CardView := do
  let id ← record.get "capsule_id"
  let body ← T.viewBody record allRecords
  return {
    capsuleId := id
    exchangeId := body.exchangeId
    role := body.role
    modelClaimed := body.modelClaimed
    verdict := body.verdict
    digest := body.digest
    sequence := body.sequence
    thisHalf := body.thisHalf
    counterpart := body.counterpart
    properties := body.properties }

def hexEscape (mark : Char) (width n : ℕ) : List Char :=
  Char.ofNat 92 :: mark :: ((List.range width).map fun i => hexChar (n / 16 ^ (width - 1 - i) % 16))

/-- A character as `repr` writes it. -/
def reprCharFrom (printable : Char → Bool) (quote c : Char) : List Char :=
  if c = quote ∨ c = Char.ofNat 92 then [Char.ofNat 92, c]
  else if c = '\n' then [Char.ofNat 92, 'n']
  else if c = '\r' then [Char.ofNat 92, 'r']
  else if c = '\t' then [Char.ofNat 92, 't']
  else if 32 ≤ c.toNat ∧ c.toNat < 127 then [c]
  else if 127 < c.toNat ∧ printable c then [c]
  else if c.toNat < 256 then hexEscape 'x' 2 c.toNat
  else if c.toNat < 65536 then hexEscape 'u' 4 c.toNat
  else hexEscape 'U' 8 c.toNat

def reprQuote (text : List Char) : Char :=
  if singleQuote ∈ text ∧ doubleQuote ∉ text then doubleQuote else singleQuote

/-- `repr(text)`. -/
def reprText (printable : Char → Bool) (text : List Char) : List Char :=
  reprQuote text :: (text.flatMap (reprCharFrom printable (reprQuote text)) ++ [reprQuote text])

theorem hexChar_plain (n : ℕ) : isPlain (hexChar (n % 16)) = true := by
  have hall : ∀ d < 16, isPlain (hexChar d) = true := by decide
  exact hall _ (Nat.mod_lt n (by decide))

theorem escape_hexEscape {mark : Char} (hmark : isPlain mark = true) (width n : ℕ) :
    escape (hexEscape mark width n) = hexEscape mark width n := by
  have hplain : (hexEscape mark width n).all isPlain = true := by
    rw [hexEscape, List.all_cons, List.all_cons, hmark, List.all_map]
    refine Bool.and_eq_true_iff.mpr ⟨by decide, Bool.and_eq_true_iff.mpr ⟨rfl, ?_⟩⟩
    exact List.all_eq_true.mpr fun i _ => hexChar_plain _
  exact (PlainText.mk _ hplain).escape_chars

theorem escape_plainChar {c : Char} (hc : c ≠ '&' ∧ c ≠ '<' ∧ c ≠ '>') : escape [c] = [c] := by
  apply escape_eq_self
  intro d hd
  rw [List.mem_singleton.mp hd]
  exact hc

/-- A character of markup is printable, and so are the references to it. -/
theorem reprCharFrom_escapeChar {printable : Char → Bool} {quote : Char}
    (hquote : quote = singleQuote ∨ quote = doubleQuote) (c : Char) :
    (Html.escapeChar c).flatMap (reprCharFrom printable quote) =
      escape (reprCharFrom printable quote c) := by
  by_cases hc : c ≠ '&' ∧ c ≠ '<' ∧ c ≠ '>'
  · rw [Html.escapeChar, if_neg hc.1, if_neg hc.2.1, if_neg hc.2.2, List.flatMap_singleton]
    have hself := escape_plainChar hc
    unfold reprCharFrom
    split_ifs
    · rw [escape_cons, hself]
      rfl
    · decide
    · decide
    · decide
    · exact hself.symm
    · exact hself.symm
    · exact (escape_hexEscape (by decide) _ _).symm
    · exact (escape_hexEscape (by decide) _ _).symm
    · exact (escape_hexEscape (by decide) _ _).symm
  · obtain rfl | rfl | rfl : c = '&' ∨ c = '<' ∨ c = '>' := by
      by_contra hnone
      rw [not_or, not_or] at hnone
      exact hc hnone
    all_goals
      rcases hquote with rfl | rfl <;> rfl

theorem mem_escape_iff {c : Char} (hc : c = singleQuote ∨ c = doubleQuote) (text : List Char) :
    c ∈ escape text ↔ c ∈ text := by
  rw [escape, List.mem_flatMap]
  have hchar : ∀ d, c ∈ Html.escapeChar d ↔ c = d := by
    intro d
    unfold Html.escapeChar
    split_ifs with hamp hlt hgt
    · rw [hamp]
      rcases hc with rfl | rfl <;> decide
    · rw [hlt]
      rcases hc with rfl | rfl <;> decide
    · rw [hgt]
      rcases hc with rfl | rfl <;> decide
    · exact List.mem_singleton
  constructor
  · rintro ⟨d, hd, hmem⟩
    rw [(hchar d).mp hmem]
    exact hd
  · intro h
    exact ⟨c, h, (hchar c).mpr rfl⟩

theorem reprQuote_cases (text : List Char) :
    reprQuote text = singleQuote ∨ reprQuote text = doubleQuote := by
  unfold reprQuote
  split_ifs
  · exact .inr rfl
  · exact .inl rfl

theorem reprText_escText (printable : Char → Bool) (text : List Char) :
    reprText printable (escText text) = escape (reprText printable text) := by
  have hquote : reprQuote (escape text) = reprQuote text := by
    simp only [reprQuote, mem_escape_iff (.inl rfl) text, mem_escape_iff (.inr rfl) text]
  have hself : escape [reprQuote text] = [reprQuote text] := by
    apply escape_plainChar
    rcases reprQuote_cases text with h | h <;>
    · rw [h]
      decide
  have hchars : (escape text).flatMap (reprCharFrom printable (reprQuote text)) =
      escape (text.flatMap (reprCharFrom printable (reprQuote text))) := by
    rw [escape, escape, List.flatMap_assoc, List.flatMap_assoc]
    apply congrArg (List.flatMap · text)
    funext c
    exact reprCharFrom_escapeChar (reprQuote_cases text) c
  rw [escText_eq_escape, reprText, hquote, hchars, reprText, escape_cons, escape_append, hself]
  rw [← List.singleton_append, ← hself, escape, List.flatMap_singleton]

/-- `_esc(id)!r`: the escape comes before the quotes. -/
def idText (printable : Char → Bool) (id : String) : EscapedText where
  written := reprText printable (escText id.toList)
  meant := reprText printable id.toList
  written_eq := reprText_escText printable id.toList

def finderInput (name placeholder : PlainValue) (value : Option String) : List Piece :=
  [.tag (named "input")
    [.fixed (named "type") .double (plainValue "text"), .fixed (named "name") .double name,
      .fixed (named "placeholder") .double placeholder,
      .hole (named "value") (value.getD "").toList]]

def renderFinderBarHtml (q : Query) : List Piece :=
  element (named "form")
    [class_ (plainValue "finder-bar"), .fixed (named "method") .double (plainValue "get"),
      .fixed (named "action") .double (plainValue "/accountability/finder")]
    (lineBreak 2 ++ finderInput (plainValue "start") (plainValue "start (ISO8601)") q.start ++
      lineBreak 2 ++ finderInput (plainValue "end") (plainValue "end (ISO8601)") q.stop ++
      lineBreak 2 ++
      finderInput (plainValue "id_query") (plainValue "exchange id / capsule id / digest")
        q.idQuery ++
      lineBreak 2 ++ finderInput (plainValue "peer") (plainValue "peer") q.peer ++
      lineBreak 2 ++
      element (named "button") [.fixed (named "type") .double (plainValue "submit")]
        (plain "Find") ++
      lineBreak 0)

section

variable (T : PageTools)

def segmentRow (segment : ArchivedSegment) : List Piece :=
  element .tr []
    (element .td [monoClass] [.value segment.segment.toList] ++
      element .td []
        ([.value (shown T.str ((T.segmentTexts segment).firstTs.or (.str "?")))] ++ plain " – " ++
          [.value (shown T.str ((T.segmentTexts segment).lastTs.or (.str "?")))]) ++
      element .td [monoClass]
        [.value (shown T.str (T.segmentTexts segment).checkpointRoot)] ++
      element .td [] [.value (shown T.str (T.segmentTexts segment).note)])

def renderArchivedSegmentsHtml (segments : List ArchivedSegment) : List Piece :=
  if segments = [] then []
  else
    element .h3 []
        (plain "Archived segments (" ++ [.text (number segments.length)] ++ parenthesis) ++
      lineBreak 0 ++
      element .table []
        (lineBreak 2 ++
          element .thead []
            (element .tr []
              (element .th [] (plain "segment") ++
                element .th [] (plain "date range") ++
                element .th [] (plain "checkpoint root") ++
                element .th [] stateHead)) ++
          lineBreak 2 ++ element .tbody [] (segments.flatMap (segmentRow T)) ++
          lineBreak 0)

def resultCard (allRecords : List Json) (record : Json) : Py (List Piece) := do
  let view ← T.view record allRecords
  let id ← record.get "capsule_id"
  let timestamp ← record.get "timestamp"
  return element .details
    [class_ (plainValue "finder-result"), capsuleIdAttr (shown T.str id)]
    (element .summary []
        (element .span [class_ mono] [.value (shown T.str id)] ++
          dot ++ [.value (shown T.str timestamp)]) ++
      renderExchangeSubtabHtml T.str view)

def notFound (id : String) (archived : ℕ) : List Piece :=
  element .p []
    (plain "id " ++ [.escaped (idText T.printable id)] ++
      plain " not found in the mounted ledger — " ++ [.text (number archived)] ++
      plain " archived segment(s) not mounted, it may be among them (archived — mount to view)")

/-- The body of the results. -/
def resultsBody (result : FinderResult) : Py (List Piece) :=
  if result.results = [] then
    if result.notFoundButMaybeArchived then
      .ok (notFound T (result.query.idQuery.getD "") result.archivedSegments.length)
    else if result.query.hasFilter then
      .ok (element .p [] (plain "no matching exchanges"))
    else .ok []
  else do
    let cards ← result.results.mapM (resultCard T result.allRecords)
    return cards.flatten

def renderFinderResultsHtml (result : FinderResult) : Py (List Piece) := do
  let body ← resultsBody T result
  return element .section_ [class_ (plainValue "finder-results")] body ++
    renderArchivedSegmentsHtml T result.archivedSegments

def pageHead : List Piece :=
  element (named "head") []
    (lineBreak 0 ++
      [.tag (named "meta") [.fixed (named "charset") .double (plainValue "utf-8")]] ++ lineBreak 0 ++
      [.tag (named "meta")
        [.fixed (named "name") .double (plainValue "viewport"),
          .fixed (named "content") .double (plainValue "width=device-width, initial-scale=1")]] ++
      lineBreak 0 ++
      element .title [] (plain "mesh-llm · Accountability · Finder") ++ lineBreak 0 ++
      element (named "style") [] [.text T.style] ++ lineBreak 0)

def pageTemplate (bar results : List Piece) : List Piece :=
  [.declaration (plainText "DOCTYPE html")] ++ lineBreak 0 ++
    element (named "html")
      [.fixed (named "lang") .double (plainValue "en"),
        .fixed (named "data-theme") .double (plainValue "dark")]
      (lineBreak 0 ++ pageHead T ++ lineBreak 0 ++
        element (named "body") []
          (lineBreak 0 ++
            element (named "main") []
              (lineBreak 2 ++ element (named "h1") [] (plain "Accountability") ++ lineBreak 2 ++
                element .p [class_ (plainValue "caption")]
                  (plain "Finder — time range · exchange id / capsule id / digest · peer") ++
                lineBreak 2 ++ bar ++ lineBreak 2 ++ results ++
                lineBreak 0) ++
            lineBreak 0) ++
        lineBreak 0)

def renderFinderPageHtml (result : FinderResult) : Py (List Piece) := do
  return pageTemplate T (renderFinderBarHtml result.query) (← renderFinderResultsHtml T result)

end

/-! ## The values in attributes -/

def Query.values (q : Query) : List String :=
  [q.start.getD "", q.stop.getD "", q.idQuery.getD "", q.peer.getD ""]

variable {T : PageTools} {result : FinderResult}

theorem holes_renderFinderBarHtml (q : Query) :
    holes (renderFinderBarHtml q) = q.values.map String.toList := by
  simp [renderFinderBarHtml, finderInput, Piece.holes, Query.values]

theorem holes_renderArchivedSegmentsHtml (segments : List ArchivedSegment) :
    holes (renderArchivedSegmentsHtml T segments) = [] := by
  have hrow : ∀ segment, holes (segmentRow T segment) = [] := by
    intro segment
    simp [segmentRow]
  unfold renderArchivedSegmentsHtml
  split_ifs
  · rfl
  · simp [hrow]

theorem holes_resultCard {allRecords : List Json} {record : Json} {card : List Piece}
    (h : resultCard T allRecords record = .ok card) :
    ∃ id, record.get "capsule_id" = .ok id ∧ holes card = [shown T.str id, shown T.str id] := by
  simp only [resultCard, PageTools.view, Py.bind_eq_ok] at h
  obtain ⟨view, ⟨id, hid, body, -, hview⟩, id', hid', timestamp, -, h⟩ := h
  obtain rfl := Except.ok.inj hview
  obtain rfl := Except.ok.inj (hid.symm.trans hid')
  obtain rfl := Except.ok.inj h
  refine ⟨id, hid, ?_⟩
  simp [holes_renderExchangeSubtabHtml]

/-- The capsule ids of the records that the page has a card for. -/
def IdsClean (T : PageTools) (records : List Json) : Prop :=
  ∀ record ∈ records, ∀ id, record.get "capsule_id" = .ok id → Clean (shown T.str id)

theorem idsClean_of_none {records : List Json} (h : records = []) : IdsClean T records := by
  intro record hrecord
  rw [h] at hrecord
  cases hrecord

theorem holes_cards {allRecords records : List Json} {cards : List (List Piece)}
    (h : records.mapM (resultCard T allRecords) = .ok cards) :
    (∀ v ∈ holes cards.flatten, Clean v) ↔ IdsClean T records := by
  induction records generalizing cards with
  | nil =>
      obtain rfl := Except.ok.inj h
      refine iff_of_true ?_ (idsClean_of_none rfl)
      simp
  | cons record records ih =>
      simp only [List.mapM_cons, Py.bind_eq_ok] at h
      obtain ⟨card, hcard, rest, hrest, h⟩ := h
      obtain rfl := Except.ok.inj h
      obtain ⟨id, hid, hholes⟩ := holes_resultCard hcard
      have hfirst : (∀ v ∈ holes card, Clean v) ↔
          ∀ id', record.get "capsule_id" = .ok id' → Clean (shown T.str id') := by
        rw [hholes]
        constructor
        · intro hclean id' hid'
          obtain rfl := Except.ok.inj (hid.symm.trans hid')
          exact hclean _ List.mem_cons_self
        · intro hclean v hv
          have hv : v = shown T.str id := by simpa using hv
          rw [hv]
          exact hclean id hid
      rw [List.flatten_cons, holes_append, List.forall_mem_append, hfirst, ih hrest, IdsClean,
        IdsClean, List.forall_mem_cons]

theorem holes_resultsBody {body : List Piece} (h : resultsBody T result = .ok body) :
    (∀ v ∈ holes body, Clean v) ↔ IdsClean T result.results := by
  unfold resultsBody at h
  split_ifs at h with hnone hmaybe hfilter
  · obtain rfl := Except.ok.inj h
    refine iff_of_true ?_ (idsClean_of_none hnone)
    simp [notFound]
  · obtain rfl := Except.ok.inj h
    refine iff_of_true ?_ (idsClean_of_none hnone)
    simp
  · obtain rfl := Except.ok.inj h
    refine iff_of_true ?_ (idsClean_of_none hnone)
    simp
  · obtain ⟨cards, hcards, h⟩ := Py.bind_eq_ok.mp h
    obtain rfl := Except.ok.inj h
    exact holes_cards hcards

theorem holes_pageTemplate (bar results : List Piece) :
    holes (pageTemplate T bar results) = holes bar ++ holes results := by
  simp [pageTemplate, pageHead, Piece.holes]

theorem holes_renderFinderPageHtml {page : List Piece}
    (h : renderFinderPageHtml T result = .ok page) :
    (∀ v ∈ holes page, Clean v) ↔
      (∀ value ∈ result.query.values, Clean value.toList) ∧ IdsClean T result.results := by
  simp only [renderFinderPageHtml, renderFinderResultsHtml, Py.bind_eq_ok] at h
  obtain ⟨results, ⟨body, hbody, hresults⟩, h⟩ := h
  obtain rfl := Except.ok.inj hresults
  obtain rfl := Except.ok.inj h
  have hresults : holes (element .section_ [class_ (plainValue "finder-results")] body ++
      renderArchivedSegmentsHtml T result.archivedSegments) = holes body := by
    rw [holes_append, holes_element, holes_renderArchivedSegmentsHtml, List.append_nil]
    rfl
  rw [holes_pageTemplate, holes_renderFinderBarHtml, hresults, List.forall_mem_append,
    List.forall_mem_map, holes_resultsBody hbody]

/-! ## What a quotation mark does -/

/-- What the title of a chip is written from. -/
def ChipsClean (str : Json → String) (properties : Properties) : Prop :=
  ∀ e ∈ entriesOf properties, Clean e.2.state.toList ∧
    (e.2.text.truthy = true → Clean (str e.2.text).toList)

theorem clean_append (cs ds : List Char) : Clean (cs ++ ds) ↔ Clean cs ∧ Clean ds := by
  simp only [Clean, List.mem_append, not_or]
  constructor
  · rintro ⟨hmark, hreturn, hnul⟩
    exact ⟨⟨hmark.1, hreturn.1, hnul.1⟩, hmark.2, hreturn.2, hnul.2⟩
  · rintro ⟨hleft, hright⟩
    exact ⟨⟨hleft.1, hright.1⟩, ⟨hleft.2.1, hright.2.1⟩, hleft.2.2, hright.2.2⟩

theorem clean_chipTitle (str : Json → String) (key : Property) (entry : ChipEntry) :
    Clean (chipTitle str key entry).toList ↔
      Clean entry.state.toList ∧ (entry.text.truthy = true → Clean (str entry.text).toList) := by
  have hlabel : Clean key.label.toList := by cases key <;> decide
  have hcolon : Clean (": " : String).toList := by decide
  have hdashes : Clean (" -- " : String).toList := by decide
  rw [chipTitle, String.toList_append, String.toList_append, String.toList_append, clean_append,
    clean_append, clean_append, and_iff_right hlabel, and_iff_right hcolon]
  apply and_congr_right
  intro _
  split_ifs with htext
  · rw [String.toList_append, clean_append, and_iff_right hdashes]
    exact ⟨fun h _ => h, fun h => h htext⟩
  · exact iff_of_true (by decide) fun h => absurd h htext

/-- A chip strip, a card and a page are read back as written exactly when no value in one of their
attributes holds a quotation mark, a carriage return or a null character. -/
theorem pages_contained_iff (T : PageTools) :
    (∀ properties, Contained escText (renderChipStrip T.str properties) ↔
        ChipsClean T.str properties) ∧
      (∀ view, Contained escText (renderExchangeSubtabHtml T.str view) ↔
        Clean (shown T.str view.capsuleId)) ∧
      ∀ result page, renderFinderPageHtml T result = .ok page →
        (Contained escText page ↔
          (∀ value ∈ result.query.values, Clean value.toList) ∧ IdsClean T result.results) := by
  refine ⟨?_, ?_, ?_⟩
  · intro properties
    rw [escText_eq_escape, contained_iff, holes_renderChipStrip, List.forall_mem_map]
    apply forall₂_congr
    intro e _
    exact clean_chipTitle T.str e.1 e.2
  · intro view
    rw [escText_eq_escape, contained_iff, holes_renderExchangeSubtabHtml, List.forall_mem_singleton]
  · intro result page h
    rw [escText_eq_escape, contained_iff, holes_renderFinderPageHtml h]

/-- A page without views, over an empty ledger. -/
def emptyTools : PageTools where
  str := Stranger.pyStr
  printable := fun _ => true
  style := plainText ""
  segmentTexts := fun _ => ⟨.null, .null, .null, .null⟩
  viewBody := fun _ _ => .error .keyError

def emptyResult (peer : String) : FinderResult where
  query := ⟨none, none, none, some peer⟩
  results := []
  allRecords := []
  archivedSegments := []
  notFoundButMaybeArchived := false

/-- The page of one record with its view. -/
def recordTools : PageTools :=
  let half : IdentityChain := ⟨.str "node", .str "absent", .null, .null, .null, .null⟩
  { emptyTools with
    viewBody := fun _ _ => .ok
      { exchangeId := .str "<e>"
        role := .str "served"
        modelClaimed := .str "m&n"
        verdict := []
        digest := ⟨.verified, [], none⟩
        sequence := ⟨1, 1, ""⟩
        thisHalf := half
        counterpart := none
        properties := fun _ => none } }

def recordResult : FinderResult :=
  { emptyResult "peer" with
    results := [.obj [("capsule_id", .str "<a>"), ("timestamp", .str "now")]] }

theorem pages_contained_iff_record :
    ∃ page, renderFinderPageHtml recordTools recordResult = .ok page ∧ Contained escText page := by
  obtain ⟨page, hpage⟩ : ∃ page, renderFinderPageHtml recordTools recordResult = .ok page :=
    ⟨_, rfl⟩
  refine ⟨page, hpage, ((pages_contained_iff recordTools).2.2 recordResult page hpage).mpr ⟨?_, ?_⟩⟩
  · decide
  · intro record hrecord id hid
    obtain rfl := List.mem_singleton.mp hrecord
    obtain rfl := Except.ok.inj hid
    decide

/-- The peer of this query is an event handler of the input that should show it. -/
theorem handler_from_query :
    (∃ page, renderFinderPageHtml emptyTools (emptyResult "\" onfocus=\"f()") = .ok page ∧
        ¬Contained escText page) ∧
      tokens (html escText
          (finderInput (plainValue "peer") (plainValue "peer") (some "\" onfocus=\"f()"))) =
        [.tag ⟨false, "input".toList,
          [("type".toList, "text".toList), ("name".toList, "peer".toList),
            ("placeholder".toList, "peer".toList), ("value".toList, []),
            ("onfocus".toList, "f()".toList)], false⟩] := by
  constructor
  · obtain ⟨page, hpage⟩ : ∃ page, renderFinderPageHtml emptyTools
        (emptyResult "\" onfocus=\"f()") = .ok page :=
      ⟨_, rfl⟩
    refine ⟨page, hpage, ?_⟩
    rw [escText_eq_escape, contained_iff, holes_renderFinderPageHtml hpage]
    rintro ⟨hquery, -⟩
    have hpeer := hquery "\" onfocus=\"f()" (by decide)
    exact absurd hpeer (by decide)
  · decide

end CapsuleMesh.Ledger
