import CapsuleMesh.Library.HtmlTemplates
import CapsuleMesh.Pane.Exchange

/-!
# The card of an exchange

The HTML of `assurance_map.py` and of `render_exchange_subtab_html`, as templates.  A view is
whatever it is rendered from; `str` writes its values as texts.
-/

namespace CapsuleMesh.Pane

open Python Library Html Sidecar

/-! ## Escaping -/

/-- `text.replace(old, new)` for a single character. -/
def replaceChar (old : Char) (new text : List Char) : List Char :=
  text.flatMap fun c => if c = old then new else [c]

/-- `_esc` of a text. -/
def escText (text : List Char) : List Char :=
  replaceChar '>' ['&', 'g', 't', ';'] <| replaceChar '<' ['&', 'l', 't', ';'] <|
    replaceChar '&' ['&', 'a', 'm', 'p', ';'] text

theorem escText_eq_escape : escText = escape := by
  funext text
  rw [escText, replaceChar, replaceChar, replaceChar, List.flatMap_assoc, List.flatMap_assoc,
    escape]
  apply congrArg (List.flatMap · text)
  funext c
  unfold Html.escapeChar
  split_ifs with hamp hlt hgt
  · decide
  · rw [hlt]
    decide
  · rw [hgt]
    decide
  · simp [hlt, hgt]

/-- What `_esc` escapes of a value. -/
def shown (str : Json → String) (value : Json) : List Char :=
  if value.isNull then [] else (str value).toList

def class_ (value : PlainValue) : Attr := .fixed .class_ .double value

def mono : PlainValue := plainValue "mono"

def monoClass : Attr := .fixed .class_ .single mono

def capsuleIdAttr (value : List Char) : Attr := .hole (named "data-capsule-id") value

def dot : List Piece := plain " · "

def parenthesis : List Piece := plain ")"

def stateHead : List Piece := plain "state"

/-! ## Tones -/

inductive Tone where
  | good
  | warn
  | bad
  | neutral

def Tone.pillClass : Tone → PlainValue
  | .good => plainValue "pill pill-good"
  | .warn => plainValue "pill pill-warn"
  | .bad => plainValue "pill pill-bad"
  | .neutral => plainValue "pill pill-neutral"

def Tone.chipClass : Tone → PlainValue
  | .good => plainValue "chip-seg chip-good"
  | .warn => plainValue "chip-seg chip-warn"
  | .bad => plainValue "chip-seg chip-bad"
  | .neutral => plainValue "chip-seg chip-neutral"

def CHIP_TONE : List (String × Tone) :=
  [("PASS", .good), ("FAIL", .bad), ("NOT_PRESENT", .neutral), ("NOT_CHECKED", .neutral),
    ("INCONCLUSIVE", .warn)]

def LEGACY_TONE : List (String × Tone) :=
  [("absent", .neutral), ("unilateral_fallback", .neutral), ("unattested", .neutral),
    ("pending", .neutral), ("present-unverified", .warn), ("acknowledged_receipt", .warn),
    ("self_measured", .warn), ("os_measured", .warn), ("platform-attested", .warn),
    ("unilateral", .warn), ("verified", .good), ("full_bilateral", .good), ("tee_measured", .good),
    ("attested", .good), ("present", .good), ("failed", .bad), ("refused", .bad),
    ("contradicted", .bad)]

def toneFor (state : String) : Tone :=
  ((CHIP_TONE.lookup state).or (LEGACY_TONE.lookup state)).getD .neutral

def CHIP_GLYPH : List (String × PlainText) :=
  [("PASS", plainText "✓"), ("FAIL", plainText "✕"), ("NOT_PRESENT", plainText "∅"),
    ("NOT_CHECKED", plainText "…"), ("INCONCLUSIVE", plainText "?")]

def pill (tone : Tone) (text : String) : List Piece :=
  element .span [class_ tone.pillClass] [.value text.toList]

def renderPill (state : String) : List Piece := pill (toneFor state) state

/-! ## The nine properties -/

inductive Property where
  | contentBinding
  | producerSignature
  | localInclusion
  | checkpointSignature
  | externalRegistration
  | continuity
  | identityAuthority
  | captureCoverage
  | outcomeCorroboration

def PROPERTY_ORDER : List Property :=
  [.contentBinding, .producerSignature, .localInclusion, .checkpointSignature,
    .externalRegistration, .continuity, .identityAuthority, .captureCoverage,
    .outcomeCorroboration]

/-- `PROPERTY_LABEL`. -/
def Property.label : Property → String
  | .contentBinding => "content binding"
  | .producerSignature => "producer signature"
  | .localInclusion => "local inclusion"
  | .checkpointSignature => "checkpoint signature"
  | .externalRegistration => "external registration"
  | .continuity => "continuity"
  | .identityAuthority => "identity/authority"
  | .captureCoverage => "capture coverage"
  | .outcomeCorroboration => "outcome corroboration"

/-- `PROPERTY_SHORT_LABEL`. -/
def Property.shortLabel : Property → String
  | .contentBinding => "binding"
  | .producerSignature => "sig"
  | .localInclusion => "local incl."
  | .checkpointSignature => "chkpt sig"
  | .externalRegistration => "registered"
  | .continuity => "continuity"
  | .identityAuthority => "identity"
  | .captureCoverage => "capture"
  | .outcomeCorroboration => "outcome"

structure ChipEntry where
  state : String
  text : Json

/-- The entries of an assurance map. -/
abbrev Properties := Property → Option ChipEntry

-- `str(value)`, of the values of a record or a view
variable (str : Json → String)

/-- `entry.get("text") or entry["state"]`. -/
def ChipEntry.detail (entry : ChipEntry) : String :=
  if entry.text.truthy then str entry.text else entry.state

def chipTitle (key : Property) (entry : ChipEntry) : String :=
  key.label ++ ": " ++ entry.state ++ if entry.text.truthy then " -- " ++ str entry.text else ""

def chipSegment (key : Property) (entry : ChipEntry) : List Piece :=
  element .span
    [class_ (toneFor entry.state).chipClass, .hole .title (chipTitle str key entry).toList]
    (.value key.shortLabel.toList :: plain " " ++
      [.text ((CHIP_GLYPH.lookup entry.state).getD (plainText "?"))])

/-- The entries that are there, in order. -/
def entriesOf (properties : Properties) : List (Property × ChipEntry) :=
  PROPERTY_ORDER.filterMap fun key => (properties key).map (key, ·)

def renderChipStrip (properties : Properties) : List Piece :=
  element .span [class_ (plainValue "chip-strip")]
    (dot.intercalate ((entriesOf properties).map fun e => chipSegment str e.1 e.2))

def chipRow (key : Property) (entry : ChipEntry) : List Piece :=
  element .tr []
    (element .td [] [.value key.label.toList] ++
      element .td [] (renderPill entry.state) ++
      element .td [] [.value (entry.detail str).toList])

def renderChipTable (properties : Properties) : List Piece :=
  element .table [.fixed .class_ .single (plainValue "assurance-map")]
    (element .thead []
        (element .tr []
          (element .th [] (plain "property") ++ element .th [] stateHead ++
            element .th [] (plain "detail"))) ++
      element .tbody []
        ((entriesOf properties).flatMap fun e => chipRow str e.1 e.2))

/-! ## The card -/

structure VerdictLine where
  mark : Mark
  text : String

structure CardSequence where
  position : ℕ
  groupSize : ℕ
  caveat : String

structure CardView where
  capsuleId : Json
  exchangeId : Json
  role : Json
  modelClaimed : Json
  verdict : List VerdictLine
  digest : MatchGrade
  sequence : CardSequence
  thisHalf : IdentityChain
  counterpart : Option IdentityChain
  properties : Properties

def markClass : Mark → PlainValue
  | .good => plainValue "verdict-line verdict-ok"
  | .warn => plainValue "verdict-line verdict-warn"
  | .bad => plainValue "verdict-line verdict-bad"

def verdictLine (line : VerdictLine) : List Piece :=
  element .div [class_ (markClass line.mark)] [.value line.text.toList]

/-- The line of the property that took the place of the third verdict. -/
def identityLine (entry : ChipEntry) : List Piece :=
  element .div [class_ (plainValue "verdict-line")]
    (.value Property.identityAuthority.label.toList :: plain ": " ++ renderPill entry.state ++
      plain " " ++ element .span [class_ (plainValue "verdict-detail")]
        [.value (entry.detail str).toList])

def verdictLines (view : CardView) : List Piece :=
  (view.verdict.take 2).flatMap verdictLine ++
    ((view.properties .identityAuthority).map (identityLine str)).getD []

def matchName : MatchState → String
  | .absent => "absent"
  | .presentUnverified => "present-unverified"
  | .verified => "verified"
  | .failed => "failed"

/-- `_TONE_BY_STATE`. -/
def matchTone : MatchState → Tone
  | .absent => .neutral
  | .presentUnverified => .warn
  | .verified => .good
  | .failed => .bad

/-- `_DIGEST_HEADER_TEXT`. -/
def digestHeaderText : MatchState → String
  | .verified => "matches"
  | .failed => "mismatch"
  | .presentUnverified => "partially captured"
  | .absent => "no counterparty half"

def digestRow (field : String) (info : FieldMatch) : List Piece :=
  element .tr []
    (element .td [] [.value field.toList] ++
      element .td [monoClass] [.value (shown str info.a)] ++
      element .td [monoClass] [.value (shown str info.b)] ++
      element .td [] (pill (matchTone info.state) (matchName info.state)))

def loneHalf : List Piece :=
  lineBreak 4 ++ element .h3 [] (plain "Requester ↔ provider half") ++ lineBreak 4 ++
    element .p [class_ (plainValue "unilateral-note")]
      (plain "unilateral — no counterparty half; pair view unavailable") ++ lineBreak 2

def pairTable (digest : MatchGrade) : List Piece :=
  lineBreak 4 ++
    element .h3 [] (plain "Requester ↔ provider half " ++
      pill (matchTone digest.state) (digestHeaderText digest.state)) ++
    lineBreak 4 ++
    element .table []
      (lineBreak 6 ++
        element .thead []
          (element .tr []
            (element .th [] (plain "field") ++
              element .th [] (plain "requester half") ++
              element .th [] (plain "provider half") ++
              element .th [] (plain "match"))) ++
        lineBreak 6 ++
        element .tbody [] (digest.fields.flatMap fun f => digestRow str f.1 f.2) ++
        lineBreak 4) ++
    lineBreak 2

def pairSection (digest : MatchGrade) : List Piece :=
  element .section_ [class_ (plainValue "pair")]
    (if digest.state = .absent ∧ digest.fields = [] then loneHalf else pairTable str digest)

def number (n : ℕ) : PlainText where
  chars := Nat.toDigits 10 n
  plain := by
    apply List.all_eq_true.mpr
    intro c hc
    have hdigit := Nat.isDigit_of_mem_toDigits (by decide) (by decide) hc
    have hplain : ∀ d : Char, isPlain d = false → d.isDigit = false := by
      intro d hd
      simp only [isPlain, Bool.and_eq_false_iff, decide_eq_false_iff_not, not_not] at hd
      rcases hd with (rfl | rfl) | rfl <;> decide
    by_contra hne
    rw [hplain c (Bool.eq_false_of_not_eq_true hne)] at hdigit
    cases hdigit

def sequenceLine (sequence : CardSequence) : List Piece :=
  element .p []
    (plain "sequence: " ++ [.text (number sequence.position)] ++ plain " of " ++
      [.text (number sequence.groupSize)] ++ plain " (this view's order, not cross-signed) " ++
      element .details [class_ (plainValue "caveat-toggle")]
        (element .summary [] (plain "omission-detection caveat") ++
          [.value sequence.caveat.toList]))

def identityLabel (label : String) : List Piece :=
  element .div [class_ (plainValue "label")] [.value label.toList]

def identityBlock (label : String) : Option IdentityChain → List Piece
  | none =>
      element .div [class_ (plainValue "identity-col")]
        (identityLabel label ++ pill (matchTone .absent) "no counterparty half yet")
  | some chain =>
      element .div [class_ (plainValue "identity-col")]
        (identityLabel label ++
          element .div [monoClass]
            (plain "node: " ++ [.value (shown str (chain.nodeId.or (.str "—")))]) ++
          element .div []
            (plain "owner: " ++ [.value (shown str (chain.ownerId.or (.str "—")))] ++ plain " (" ++
              [.value (shown str chain.ownerStatus)] ++ parenthesis) ++
          element .div []
            (plain "owner cert: " ++
              [.value (if chain.ownerCertRef.truthy then "cited" else "not cited").toList]))

def cardHeader (view : CardView) : List Piece :=
  element .header []
    (lineBreak 4 ++
      element .h2 []
        (plain "This exchange — " ++ [.value (shown str view.modelClaimed)]) ++
      lineBreak 4 ++
      element .p [class_ mono]
        (plain "exchange_id: " ++ [.value (shown str view.exchangeId)] ++ plain " · this half: " ++
          [.value (shown str view.role)] ++ plain " · capsule_id: " ++
          [.value (shown str view.capsuleId)]) ++
      lineBreak 4 ++ sequenceLine view.sequence ++ lineBreak 2)

def identitySection (view : CardView) : List Piece :=
  element .section_ [class_ (plainValue "identity-chain")]
    (lineBreak 4 ++ element .h3 [] (plain "Identity chain") ++ lineBreak 4 ++
      element .div [class_ (plainValue "identity-row")]
        (lineBreak 6 ++ identityBlock str "This half" (some view.thisHalf) ++
          lineBreak 6 ++ identityBlock str "Counterpart" view.counterpart ++
          lineBreak 4) ++
      lineBreak 2)

def assuranceSection (view : CardView) : List Piece :=
  element .section_ [class_ (plainValue "assurance")]
    (lineBreak 4 ++ element .h3 [] (plain "Assurance map") ++ lineBreak 4 ++
      renderChipTable str view.properties ++ lineBreak 2)

def renderExchangeSubtabHtml (view : CardView) : List Piece :=
  element .section_
    [class_ (plainValue "exchange-card"), capsuleIdAttr (shown str view.capsuleId)]
    (lineBreak 2 ++ cardHeader str view ++ lineBreak 2 ++
      element .div [class_ (plainValue "verdict")] (verdictLines str view) ++
      lineBreak 2 ++ pairSection str view.digest ++ lineBreak 2 ++ identitySection str view ++
      lineBreak 2 ++ assuranceSection str view ++ lineBreak 0)

/-! ## The values in attributes -/

@[simp] theorem class_holes (value : PlainValue) : (class_ value).holes = [] := rfl

@[simp] theorem monoClass_holes : monoClass.holes = [] := rfl

@[simp] theorem capsuleIdAttr_holes (value : List Char) : (capsuleIdAttr value).holes = [value] :=
  rfl

@[simp] theorem holes_dot : holes dot = [] := rfl

@[simp] theorem holes_parenthesis : holes parenthesis = [] := rfl

@[simp] theorem holes_stateHead : holes stateHead = [] := rfl

@[simp] theorem holes_pill (tone : Tone) (text : String) : holes (pill tone text) = [] := by
  simp [pill]

@[simp] theorem holes_renderPill (state : String) : holes (renderPill state) = [] :=
  holes_pill _ _

@[simp] theorem holes_chipSegment (key : Property) (entry : ChipEntry) :
    holes (chipSegment str key entry) = [(chipTitle str key entry).toList] := by
  rw [chipSegment, holes_element]
  rfl

@[simp] theorem holes_chipRow (key : Property) (entry : ChipEntry) :
    holes (chipRow str key entry) = [] := by
  simp [chipRow]

@[simp] theorem holes_renderChipTable (properties : Properties) :
    holes (renderChipTable str properties) = [] := by
  simp [renderChipTable]

theorem holes_renderChipStrip (properties : Properties) :
    holes (renderChipStrip str properties) =
      (entriesOf properties).map fun e => (chipTitle str e.1 e.2).toList := by
  rw [renderChipStrip, holes_element, holes_intercalate holes_dot, List.flatMap_map]
  rw [List.map_eq_flatMap]
  simp

@[simp] theorem holes_verdictLines (view : CardView) : holes (verdictLines str view) = [] := by
  have hidentity : ∀ entry : Option ChipEntry,
      holes ((entry.map (identityLine str)).getD []) = [] := by
    intro entry
    cases entry <;> simp [identityLine]
  simp [verdictLines, verdictLine, hidentity]

@[simp] theorem holes_pairSection (digest : MatchGrade) : holes (pairSection str digest) = [] := by
  have hrow : ∀ field info, holes (digestRow str field info) = [] := by
    intro field info
    simp [digestRow]
  rw [pairSection]
  split_ifs
  · simp [loneHalf]
  · simp [pairTable, hrow]

@[simp] theorem holes_identityBlock (label : String) (chain : Option IdentityChain) :
    holes (identityBlock str label chain) = [] := by
  cases chain <;> simp [identityBlock, identityLabel]

/-- The one value that a card has in an attribute. -/
theorem holes_renderExchangeSubtabHtml (view : CardView) :
    holes (renderExchangeSubtabHtml str view) = [shown str view.capsuleId] := by
  have hheader : holes (cardHeader str view) = [] := by
    simp [cardHeader, sequenceLine]
  have hidentity : holes (identitySection str view) = [] := by simp [identitySection]
  have hassurance : holes (assuranceSection str view) = [] := by simp [assuranceSection]
  simp [renderExchangeSubtabHtml, hheader, hidentity, hassurance]

end CapsuleMesh.Pane
