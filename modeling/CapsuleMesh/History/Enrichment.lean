import CapsuleMesh.History.Identity
import Mathlib.Data.List.Infix

/-!
# Enriched history cards

`with_peer_reconciliation` and `with_references` put counts into a card that do not come from the
chain walk.  The verifier takes these counts from the published value, recomputes all the rest and
compares, so that a changed value is refused as far as Python's `==` sees the change.
-/

namespace CapsuleMesh.History

open Python

/-! ## The counts beside the chain walk -/

structure CardCounts where
  reconciledWith : Json
  forksObserved : Json
  forksState : Json
  referencesAsked : Json
  referencesAnswered : Json
  adjudicationsAboutX : List (String × Json)
  ackRefusalsAboutX : Json

def HistoryCard.withCounts (card : HistoryCard) (counts : CardCounts) : HistoryCard :=
  { card with
    reconciledWith := counts.reconciledWith
    forksObserved := counts.forksObserved
    forksState := counts.forksState
    referencesAsked := counts.referencesAsked
    referencesAnswered := counts.referencesAnswered
    adjudicationsAboutX := counts.adjudicationsAboutX
    ackRefusalsAboutX := counts.ackRefusalsAboutX }

/-- The counts that the verifier reads off a published value. -/
def publishedCounts (value : Json) : Py CardCounts := do
  let prBlock := (← value.get "peer_reconciliation").or (.obj [])
  let refsBlock := (← value.get "references").or (.obj [])
  let forksState ← prBlock.getD "forks_state" (.str FORKS_STATE_ABSENT)
  let forksObserved := (← prBlock.get "forks_observed").or (.int 0)
  let reconciledWith ← prBlock.getD "reconciled_with" (.int 0)
  let asked ← refsBlock.getD "asked" (.int 0)
  let answered ← refsBlock.getD "answered" (.int 0)
  let adjudications ← toDict ((← refsBlock.get "adjudications_about_x").or (.obj []))
  let refusals ← refsBlock.getD "ack_refusals_about_x" (.int 0)
  return ⟨reconciledWith, forksObserved, forksState, asked, answered, adjudications, refusals⟩

theorem withEnrichment_eq_ok {value : Json} {built recomputed : HistoryCard} :
    withEnrichment value built = .ok recomputed ↔
      ∃ counts, publishedCounts value = .ok counts ∧ recomputed = built.withCounts counts := by
  have heq : withEnrichment value built = (do return built.withCounts (← publishedCounts value)) := by
    simp only [withEnrichment, publishedCounts, bind_assoc, pure_bind]
    rfl
  rw [heq, Py.bind_eq_ok]
  simp only [Py.pure_eq_ok, Except.ok.injEq, eq_comm]

/-! ## Enrichment -/

def FORKS_STATE_OK : String := "ok"

/-- `reconciliation_state.json`: not there, not JSON, or what it parses to. -/
inductive StateFile where
  | absent
  | unparsable
  | parsed (state : Json)

/-- `"forks" in state`. -/
def hasForks : Json → Py Bool
  | .obj members => .ok (members.any fun m => decide (m.1 = "forks"))
  | .arr elems => .ok (elems.any (·.pyEq (.str "forks")))
  | .str s => .ok (decide ("forks".toList <:+: s.toList))
  | _ => .error .typeError

/-- `len(x)`. -/
def lengthOf : Json → Py ℕ
  | .arr elems => .ok elems.length
  | .obj members => .ok members.length
  | .str s => .ok s.length
  | _ => .error .typeError

/-- `reconciliation_counts_from_ledger_dir`. -/
def reconciliationCounts : StateFile → Py (ℕ × ℕ × String)
  | .absent => .ok (0, 0, FORKS_STATE_ABSENT)
  | .unparsable => .ok (0, 0, FORKS_STATE_UNREADABLE)
  | .parsed state => do
      if !(← hasForks state) then return (0, 0, FORKS_STATE_UNREADABLE)
      else do
        let reconciledWith ← lengthOf ((← state.get "reconciled_peers").or (.arr []))
        let forksObserved ← lengthOf ((← state.get "forks").or (.arr []))
        return (reconciledWith, forksObserved, FORKS_STATE_OK)

def withPeerReconciliation (card : HistoryCard) (file : StateFile) : Py HistoryCard := do
  let (reconciledWith, forksObserved, forksState) ← reconciliationCounts file
  return { card with
    reconciledWith := .int reconciledWith
    forksObserved := .int forksObserved
    forksState := .str forksState }

/-- A dictionary of counts. -/
def countMembers (counts : Dict String Int) : List (String × Json) :=
  counts.entries.map fun entry => (entry.1, .int entry.2)

def withReferences (card : HistoryCard) (asked answered : Int) (adjudicationsAboutX : Dict String Int)
    (ackRefusalsAboutX : Int) : HistoryCard :=
  { card with
    referencesAsked := .int asked
    referencesAnswered := .int answered
    adjudicationsAboutX := countMembers adjudicationsAboutX
    ackRefusalsAboutX := .int ackRefusalsAboutX }

inductive Enrichment where
  | peerReconciliation (file : StateFile)
  | references (asked answered : Int) (adjudicationsAboutX : Dict String Int)
      (ackRefusalsAboutX : Int)

def HistoryCard.enrich (card : HistoryCard) : Enrichment → Py HistoryCard
  | .peerReconciliation file => withPeerReconciliation card file
  | .references asked answered adjudications refusals =>
      .ok (withReferences card asked answered adjudications refusals)

/-! ## What enrichment can put into a card -/

/-- Counts as the two functions write them. -/
structure HonestCounts where
  reconciledWith : ℕ := 0
  forksObserved : ℕ := 0
  forksState : String := FORKS_STATE_ABSENT
  referencesAsked : Int := 0
  referencesAnswered : Int := 0
  adjudicationsAboutX : Dict String Int := ∅
  ackRefusalsAboutX : Int := 0

def HonestCounts.counts (honest : HonestCounts) : CardCounts where
  reconciledWith := .int honest.reconciledWith
  forksObserved := .int honest.forksObserved
  forksState := .str honest.forksState
  referencesAsked := .int honest.referencesAsked
  referencesAnswered := .int honest.referencesAnswered
  adjudicationsAboutX := countMembers honest.adjudicationsAboutX
  ackRefusalsAboutX := .int honest.ackRefusalsAboutX

theorem HistoryCard.Fresh.withCounts {card : HistoryCard} (h : card.Fresh) :
    card = card.withCounts (HonestCounts.counts {}) := by
  obtain ⟨h1, h2, h3, h4, h5, h6, h7⟩ := h
  obtain ⟨nodeId, logId, sinceSize, start, stop, properties, count, witnesses, witnessed, rw, fo,
    fs, ra, rs, ad, ar⟩ := card
  simp only at h1 h2 h3 h4 h5 h6 h7
  subst h1 h2 h3 h4 h5 h6 h7
  rfl

theorem enrich_eq_ok {built card : HistoryCard} {honest : HonestCounts} {step : Enrichment}
    (h : (built.withCounts honest.counts).enrich step = .ok card) :
    ∃ honest' : HonestCounts, card = built.withCounts honest'.counts := by
  cases step with
  | peerReconciliation file =>
      obtain ⟨⟨reconciledWith, forksObserved, forksState⟩, -, h⟩ := Py.bind_eq_ok.mp h
      refine ⟨{ honest with
        reconciledWith := reconciledWith
        forksObserved := forksObserved
        forksState := forksState }, ?_⟩
      exact (Except.ok.inj h).symm
  | references asked answered adjudications refusals =>
      refine ⟨{ honest with
        referencesAsked := asked
        referencesAnswered := answered
        adjudicationsAboutX := adjudications
        ackRefusalsAboutX := refusals }, ?_⟩
      exact (Except.ok.inj h).symm

/-- However often it is enriched, a card keeps its walk. -/
theorem foldlM_enrich {built card : HistoryCard} {steps : List Enrichment}
    (hbuilt : built.Fresh) (h : steps.foldlM HistoryCard.enrich built = .ok card) :
    ∃ honest : HonestCounts, card = built.withCounts honest.counts := by
  have hrun : ∀ (steps : List Enrichment) (honest : HonestCounts),
      steps.foldlM HistoryCard.enrich (built.withCounts honest.counts) = .ok card →
        ∃ honest' : HonestCounts, card = built.withCounts honest'.counts := by
    intro steps
    induction steps with
    | nil =>
        intro honest h
        exact ⟨honest, (Except.ok.inj h).symm⟩
    | cons step steps ih =>
        intro honest h
        rw [List.foldlM_cons] at h
        obtain ⟨mid, hmid, h⟩ := Py.bind_eq_ok.mp h
        obtain ⟨honest', rfl⟩ := enrich_eq_ok hmid
        exact ih honest' h
  apply hrun steps {}
  rwa [← hbuilt.withCounts]

/-! ## Reading the counts back -/

/-- What the verifier reads: where the state was unreadable it finds `null` for the forks. -/
def HonestCounts.readBack (honest : HonestCounts) : CardCounts :=
  { honest.counts with
    forksObserved :=
      if honest.forksState = FORKS_STATE_UNREADABLE then .int 0 else .int honest.forksObserved }

theorem int_or_zero (n : Int) : (Json.int n).or (.int 0) = .int n := by
  by_cases hn : n = 0
  · rw [hn]
    rfl
  · simp [Json.or, Json.truthy, hn]

theorem publishedCounts_toValue (lib : Library) (built : HistoryCard) (honest : HonestCounts) :
    publishedCounts ((built.withCounts honest.counts).toValue lib) = .ok honest.readBack := by
  have hforks : (if (Json.str honest.forksState).pyEq (.str FORKS_STATE_UNREADABLE) then Json.null
      else .int honest.forksObserved).or (.int 0) = honest.readBack.forksObserved := by
    by_cases hstate : honest.forksState = FORKS_STATE_UNREADABLE
    · simp [Json.pyEq, HonestCounts.readBack, hstate]
      rfl
    · simp [Json.pyEq, HonestCounts.readBack, hstate, int_or_zero]
  have hadjudications : toDict ((Json.obj (countMembers honest.adjudicationsAboutX)).or (.obj [])) =
      .ok (countMembers honest.adjudicationsAboutX) := by
    rw [Json.obj_or_empty]
    rfl
  have hblocks : publishedCounts ((built.withCounts honest.counts).toValue lib) = (do
      let adjudications ←
        toDict ((Json.obj (countMembers honest.adjudicationsAboutX)).or (.obj []))
      return { honest.counts with
        forksObserved := (if (Json.str honest.forksState).pyEq (.str FORKS_STATE_UNREADABLE)
          then Json.null else .int honest.forksObserved).or (.int 0)
        adjudicationsAboutX := adjudications }) := rfl
  rw [hblocks, hadjudications, Py.ok_bind, hforks]
  rfl

/-- What is read back makes the same value. -/
theorem toValue_readBack (lib : Library) (built : HistoryCard) (honest : HonestCounts) :
    (built.withCounts honest.readBack).toValue lib =
      (built.withCounts honest.counts).toValue lib := by
  by_cases hstate : honest.forksState = FORKS_STATE_UNREADABLE
  · have hread : ((Json.str honest.forksState).pyEq (.str FORKS_STATE_UNREADABLE)) = true := by
      simp [Json.pyEq, hstate]
    simp only [HistoryCard.toValue, HistoryCard.withCounts, HonestCounts.readBack,
      HonestCounts.counts, hread, if_true]
  · simp only [HonestCounts.readBack, hstate, if_false]
    rfl

theorem countMembers_regular (counts : Dict String Int) :
    (Json.obj (countMembers counts)).regular = true := by
  have hkeys : (countMembers counts).map Prod.fst = counts.keys := by
    rw [countMembers, List.map_map]
    rfl
  have hmembers : ∀ entries : List (Sigma fun _ : String => Int),
      Json.regularMembers (entries.map fun e => (e.1, Json.int e.2)) = true := by
    intro entries
    induction entries with
    | nil => rfl
    | cons e entries ih => simpa [Json.regularMembers, Json.regular] using ih
  rw [Json.regular, Bool.and_eq_true, decide_eq_true_iff, hkeys]
  exact ⟨counts.keys_nodup, hmembers counts.entries⟩

theorem maskedCount_regular (p : Prop) [Decidable p] (n : Int) :
    (if p then Json.null else Json.int n).regular = true := by
  split <;> rfl

theorem toValue_regular_honest {lib : Library} {built : HistoryCard} (honest : HonestCounts)
    (hnode : built.nodeId.regular = true) (hlog : built.logId.regular = true)
    (hcadence : (Json.obj built.properties.cadence).regular = true) :
    ((built.withCounts honest.counts).toValue lib).regular = true := by
  have hproperties : built.properties.toValue.regular = true := by
    simp [HistoryProperties.toValue, Json.regular, Json.regularMembers] at hcadence ⊢
    exact hcadence
  have hadjudications := countMembers_regular honest.adjudicationsAboutX
  rw [Json.regular] at hadjudications
  -- the notes are not put together: the kernel is slow at it
  simp [-String.reduceAppend, HistoryCard.toValue, HistoryCard.withCounts, HonestCounts.counts,
    Json.regular, Json.regularMembers, hnode, hlog, hproperties, refValue_regular,
    regularElems_strs]
  exact ⟨maskedCount_regular _ _, by simpa using hadjudications⟩

/-! ## Honest cards -/

/-- The identity that a card over the lines has; only over no lines it is free. -/
def identityOf (nodeId logId : String) : List CheckpointLine → Json × Json
  | [] => (.str nodeId, .str logId)
  | first :: _ => chainIdentity first

/-- The card of the lines from some size on, enriched in some way. -/
def HonestCard (lib : Library) (lines : List CheckpointLine) (card : HistoryCard) : Prop :=
  ∃ (nodeId logId : String) (sinceSize : Int) (built : HistoryCard) (steps : List Enrichment),
    buildHistoryCard lib (identityOf nodeId logId lines).1 (identityOf nodeId logId lines).2 lines
      sinceSize = .ok built ∧ steps.foldlM HistoryCard.enrich built = .ok card

/-- The value has the card's boundary and counts, as they are read off it, and over no lines the
card's identity; it may have anything else in every other field. -/
structure SameInputs (lib : Library) (lines : List CheckpointLine) (card : HistoryCard)
    (value : Json) : Prop where
  selection : ∀ since nodeId logId, claimed value = .ok (since, nodeId, logId) →
    since = .int card.sinceSize ∧ (lines = [] → nodeId = card.nodeId ∧ logId = card.logId)
  counts : ∀ counts, publishedCounts value = .ok counts →
    publishedCounts (card.toValue lib) = .ok counts

theorem identityOf_text (nodeId logId : String) (lines : List CheckpointLine) :
    ((∃ s, (identityOf nodeId logId lines).1 = .str s) ∨
        (identityOf nodeId logId lines).1 = .null) ∧
      ∃ s, (identityOf nodeId logId lines).2 = .str s := by
  cases lines with
  | nil => exact ⟨.inl ⟨nodeId, rfl⟩, logId, rfl⟩
  | cons first rest =>
      refine ⟨?_, first.logId, rfl⟩
      simp only [identityOf, chainIdentity]
      split
      · exact .inl ⟨_, rfl⟩
      · exact .inr rfl

/-! ## What an equal value has in common -/

theorem obj_of_pyEq {ms : List (String × Json)} {j : Json} (h : (Json.obj ms).pyEq j = true) :
    ∃ ns, j = .obj ns ∧ ms.length = ns.length ∧ Json.pyEqMembers ms ns = true := by
  rcases Json.pyEq_cases h with ⟨hms, -⟩ | ⟨_, hms, -⟩ | ⟨_, _, hms, -⟩ |
    ⟨ms', ns, hms, rfl, hall⟩ | hnum
  · cases hms
  · cases hms
  · cases hms
  · obtain rfl := Json.obj.inj hms
    exact ⟨ns, rfl, hall⟩
  · exact absurd (Json.isNumber_of_numEq hnum).1 Bool.false_ne_true

theorem item_of_pyEq {a b x : Json} {key : String} (h : a.pyEq b = true)
    (hx : a.item key = .ok x) : ∃ y, b.item key = .ok y ∧ x.pyEq y = true := by
  cases a with
  | obj ms =>
      obtain ⟨ns, rfl, -, hmembers⟩ := obj_of_pyEq h
      cases hlookup : ms.lookup key with
      | none => simp [Json.item, hlookup] at hx
      | some x' =>
        obtain rfl : x' = x := by simpa [Json.item, hlookup] using hx
        obtain ⟨y, hy, hxy⟩ := Json.pyEqMembers_lookup hmembers hlookup
        exact ⟨y, by simp [Json.item, hy], hxy⟩
  | _ => cases hx

theorem get_of_item {j x : Json} {key : String} (h : j.item key = .ok x) : j.get key = .ok x := by
  cases j with
  | obj ms =>
      cases hlookup : ms.lookup key with
      | none => simp [Json.item, hlookup] at h
      | some y => simpa [Json.item, hlookup] using h
  | _ => cases h

theorem claimed_eq_ok {value since nodeId logId : Json} :
    claimed value = .ok (since, nodeId, logId) ↔
      (∃ selection, value.item "selection" = .ok selection ∧
        selection.item "since_size" = .ok since) ∧
        value.item "node_id" = .ok nodeId ∧ value.item "log_id" = .ok logId := by
  rw [claimed, subscript, subscript, subscript]
  cases hselection : value.item "selection" with
  | error e => simp [bind, Except.bind]
  | ok selection =>
      cases hsince : selection.item "since_size" <;> cases hnode : value.item "node_id" <;>
        cases hlog : value.item "log_id" <;>
          simp [bind, Except.bind, pure, Except.pure, subscript, hsince]

theorem publishedCounts_of_pyEq {lib : Library} {card : HistoryCard} {value : Json}
    (h : (card.toValue lib).pyEq value = true) :
    ∃ counts, publishedCounts value = .ok counts := by
  have hblock : (card.toValue lib).item "peer_reconciliation" = .ok _ := rfl
  have hrefsBlock : (card.toValue lib).item "references" = .ok _ := rfl
  obtain ⟨prBlock, hpr, hprEq⟩ := item_of_pyEq h hblock
  obtain ⟨refsBlock, hrefs, hrefsEq⟩ := item_of_pyEq h hrefsBlock
  obtain ⟨pr, rfl, -, -⟩ := obj_of_pyEq hprEq
  have hadjudications : ∀ note, (Json.obj [("asked", card.referencesAsked),
      ("answered", card.referencesAnswered),
      ("adjudications_about_x", .obj card.adjudicationsAboutX),
      ("ack_refusals_about_x", card.ackRefusalsAboutX), ("note", note)]).item
        "adjudications_about_x" = .ok (.obj card.adjudicationsAboutX) := fun _ => rfl
  obtain ⟨found, hfound, hfoundEq⟩ := item_of_pyEq hrefsEq (hadjudications _)
  obtain ⟨refs, rfl, -, -⟩ := obj_of_pyEq hrefsEq
  obtain ⟨adjudications, rfl, -, -⟩ := obj_of_pyEq hfoundEq
  simp only [publishedCounts, get_of_item hpr, get_of_item hrefs, Py.ok_bind, Json.obj_or_empty,
    Json.getD_obj, get_of_item hfound, Json.get_obj, toDict]
  exact ⟨_, rfl⟩

/-! ## What the verifier accepts -/

theorem verify_of_account {lib : Library}
    (haccount : ∀ start stop properties, lib.verifyAccount start stop properties = true)
    (card : HistoryCard) : card.verify lib = true := by
  rw [HistoryCard.verify]
  split
  · exact haccount _ _ _
  · rfl

theorem recomputeAndMatch_iff {lib : Library} {value nodeId logId : Json}
    {lines : List CheckpointLine} {sinceSize : Int} {built : HistoryCard}
    (haccount : ∀ start stop properties, lib.verifyAccount start stop properties = true)
    (hbuilt : buildHistoryCard lib nodeId logId lines sinceSize = .ok built) :
    (∃ errors, recomputeAndMatch lib value nodeId logId lines sinceSize = .ok ⟨true, errors⟩) ↔
      ∃ counts, publishedCounts value = .ok counts ∧
        ((built.withCounts counts).toValue lib).pyEq value = true := by
  have hcompare : ∀ card : HistoryCard, comparisonErrors lib value card = .ok [] ↔
      (card.toValue lib).pyEq value = true := by
    intro card
    simp only [comparisonErrors, verify_of_account haccount, if_true]
    by_cases heq : (card.toValue lib).pyEq value = true
    · rw [if_pos heq]
      exact iff_of_true rfl heq
    · rw [if_neg heq]
      refine iff_of_false (fun h => ?_) heq
      obtain ⟨published, -, h⟩ := Py.bind_eq_ok.mp h
      cases h
  rw [recomputeAndMatch, hbuilt]
  constructor
  · rintro ⟨errors, h⟩
    obtain ⟨recomputed, henriched, h⟩ := Py.bind_eq_ok.mp h
    obtain ⟨found, hfound, h⟩ := Py.bind_eq_ok.mp h
    obtain ⟨hempty, -⟩ := HistoryVerifyResult.mk.inj (Except.ok.inj h)
    obtain rfl := List.isEmpty_iff.mp hempty
    obtain ⟨counts, hcounts, rfl⟩ := withEnrichment_eq_ok.mp henriched
    exact ⟨counts, hcounts, (hcompare _).mp hfound⟩
  · rintro ⟨counts, hcounts, heq⟩
    refine ⟨[], ?_⟩
    change (do
      let recomputed ← withEnrichment value built
      let errors ← comparisonErrors lib value recomputed
      return ⟨errors.isEmpty, errors⟩ : Py HistoryVerifyResult) = _
    rw [withEnrichment_eq_ok.mpr ⟨counts, hcounts, rfl⟩, Py.ok_bind, (hcompare _).mpr heq]
    rfl

/-- A value that claims the identity of the lines is held against what they rebuild into. -/
theorem accepts_iff_of_claimed {lib : Library} {value claimedNodeId claimedLogId : Json}
    {lines : List CheckpointLine} {sinceSize : Int} {nodeId logId : String}
    (hclaimed : claimed value = .ok (.int sinceSize, claimedNodeId, claimedLogId))
    (hempty : lines = [] → (claimedNodeId, claimedLogId) = identityOf nodeId logId lines) :
    Accepts lib value lines ↔
      (claimedNodeId, claimedLogId) = identityOf nodeId logId lines ∧
        ∃ errors, recomputeAndMatch lib value (identityOf nodeId logId lines).1
          (identityOf nodeId logId lines).2 lines sinceSize = .ok ⟨true, errors⟩ := by
  rw [Accepts, verifyHistoryCard, hclaimed]
  cases lines with
  | nil =>
      have hidentity := hempty rfl
      rw [← hidentity]
      simp only [true_and]
      rfl
  | cons first rest =>
      simp only [identityOf]
      constructor
      · rintro ⟨errors, h⟩
        split_ifs at h with hsame
        · obtain ⟨hnode, hlog⟩ := identityErrors_nil hsame
          exact ⟨eq_chainIdentity hnode hlog, errors, h⟩
        · cases h
      · rintro ⟨hidentity, errors, h⟩
        obtain ⟨hnodeReg, hlogReg⟩ := chainIdentity_regular first
        obtain rfl : claimedNodeId = (chainIdentity first).1 := congrArg Prod.fst hidentity
        obtain rfl : claimedLogId = (chainIdentity first).2 := congrArg Prod.snd hidentity
        rw [identityErrors_self hnodeReg hlogReg]
        exact ⟨errors, h⟩

/-- Over the lines that an honest card was built from the verifier accepts its value, and of the
values with the same inputs exactly those that are equal to it. -/
theorem accepts_iff_pyEq {lib : Library}
    (haccount : ∀ start stop properties, lib.verifyAccount start stop properties = true)
    {lines : List CheckpointLine} {card : HistoryCard} (hcard : HonestCard lib lines card)
    {value : Json} (hsame : SameInputs lib lines card value) :
    Accepts lib value lines ↔ (card.toValue lib).pyEq value = true := by
  obtain ⟨nodeId, logId, sinceSize, built, steps, hbuilt, henriched⟩ := hcard
  obtain ⟨hnode, hlog, hsince, hfresh, -⟩ := build_inv hbuilt
  obtain ⟨honest, rfl⟩ := foldlM_enrich hfresh henriched
  have hread : ∀ counts, publishedCounts value = .ok counts →
      (built.withCounts counts).toValue lib = (built.withCounts honest.counts).toValue lib := by
    intro counts hcounts
    have hpublished := hsame.counts counts hcounts
    rw [publishedCounts_toValue] at hpublished
    rw [← Except.ok.inj hpublished, toValue_readBack]
  constructor
  · rintro haccepts
    cases hclaimed : claimed value with
    | error text =>
        obtain ⟨errors, haccepts⟩ := haccepts
        rw [verifyHistoryCard, hclaimed] at haccepts
        cases haccepts
    | ok inputs =>
        obtain ⟨since, claimedNodeId, claimedLogId⟩ := inputs
        obtain ⟨rfl, hempty⟩ := hsame.selection _ _ _ hclaimed
        have hidentity : lines = [] →
            (claimedNodeId, claimedLogId) = identityOf nodeId logId lines := by
          intro hlines
          obtain ⟨rfl, rfl⟩ := hempty hlines
          exact Prod.ext hnode hlog
        obtain ⟨-, hmatches⟩ := (accepts_iff_of_claimed hclaimed hidentity).mp haccepts
        rw [show (built.withCounts honest.counts).sinceSize = sinceSize from hsince] at hmatches
        obtain ⟨counts, hcounts, heq⟩ := (recomputeAndMatch_iff haccount hbuilt).mp hmatches
        rwa [← hread counts hcounts]
  · intro heq
    obtain ⟨hnodeText, logText, hlogText⟩ := identityOf_text nodeId logId lines
    have hselection : ((built.withCounts honest.counts).toValue lib).item "selection" = .ok _ := rfl
    obtain ⟨selection, hfound, hselEq⟩ := item_of_pyEq heq hselection
    have hsize : ∀ start stop note, (Json.obj [("since_size", .int built.sinceSize),
        ("from_checkpoint", start), ("to_checkpoint", stop), ("note", note)]).item "since_size" =
          .ok (.int built.sinceSize) := fun _ _ _ => rfl
    obtain ⟨since, hsinceItem, -⟩ := item_of_pyEq hselEq (hsize _ _ _)
    have hnodeItem : ((built.withCounts honest.counts).toValue lib).item "node_id" =
        .ok built.nodeId := rfl
    have hlogItem : ((built.withCounts honest.counts).toValue lib).item "log_id" =
        .ok built.logId := rfl
    obtain ⟨claimedNodeId, hclaimedNode, hnodeEq⟩ := item_of_pyEq heq hnodeItem
    obtain ⟨claimedLogId, hclaimedLog, hlogEq⟩ := item_of_pyEq heq hlogItem
    have hclaimed : claimed value = .ok (since, claimedNodeId, claimedLogId) :=
      claimed_eq_ok.mpr ⟨⟨selection, hfound, hsinceItem⟩, hclaimedNode, hclaimedLog⟩
    have hidentity : (claimedNodeId, claimedLogId) = identityOf nodeId logId lines := by
      rw [hnode] at hnodeEq
      rw [hlog] at hlogEq
      apply Prod.ext
      · rcases hnodeText with ⟨text, htext⟩ | hnull
        · rw [htext] at hnodeEq ⊢
          exact Json.eq_str_of_str_pyEq hnodeEq
        · rw [hnull] at hnodeEq ⊢
          exact Json.eq_null_of_null_pyEq hnodeEq
      · rw [hlogText] at hlogEq ⊢
        exact Json.eq_str_of_str_pyEq hlogEq
    obtain ⟨hsinceEq, -⟩ := hsame.selection _ _ _ hclaimed
    rw [hsinceEq, show (built.withCounts honest.counts).sinceSize = sinceSize from hsince]
      at hclaimed
    rw [accepts_iff_of_claimed hclaimed fun _ => hidentity]
    obtain ⟨counts, hcounts⟩ := publishedCounts_of_pyEq heq
    refine ⟨hidentity, (recomputeAndMatch_iff haccount hbuilt).mpr ⟨counts, hcounts, ?_⟩⟩
    rwa [hread counts hcounts]

theorem sameInputs_toValue (lib : Library) (lines : List CheckpointLine) (card : HistoryCard) :
    SameInputs lib lines card (card.toValue lib) where
  selection since nodeId logId h := by
    rw [claimed_toValue] at h
    obtain ⟨rfl, rfl, rfl⟩ : .int card.sinceSize = since ∧ card.nodeId = nodeId ∧
        card.logId = logId := by simpa using h
    exact ⟨rfl, fun _ => ⟨rfl, rfl⟩⟩
  counts counts h := h

theorem honestCard_regular {lib : Library} {lines : List CheckpointLine} {card : HistoryCard}
    (h : HonestCard lib lines card) : (card.toValue lib).regular = true := by
  obtain ⟨nodeId, logId, sinceSize, built, steps, hbuilt, henriched⟩ := h
  obtain ⟨hnode, hlog, -, hfresh, hcadence⟩ := build_inv hbuilt
  obtain ⟨honest, rfl⟩ := foldlM_enrich hfresh henriched
  obtain ⟨hnodeText, logText, hlogText⟩ := identityOf_text nodeId logId lines
  apply toValue_regular_honest honest _ _ hcadence
  · rw [hnode]
    rcases hnodeText with ⟨text, htext⟩ | hnull
    · rw [htext]
      rfl
    · rw [hnull]
      rfl
  · rw [hlog, hlogText]
    rfl

/-- An honest card is accepted however it was enriched.  A value that was changed outside the
inputs is refused unless it is equal to the card's own as Python compares. -/
theorem honestCard_accepted_changed_iff {lib : Library}
    (haccount : ∀ start stop properties, lib.verifyAccount start stop properties = true)
    {lines : List CheckpointLine} {card : HistoryCard} (hcard : HonestCard lib lines card) :
    Accepts lib (card.toValue lib) lines ∧
      ∀ value, SameInputs lib lines card value →
        ((value ≠ card.toValue lib → ¬Accepts lib value lines) ↔
          (value ≠ card.toValue lib → (card.toValue lib).pyEq value = false)) := by
  refine ⟨?_, fun value hsame => ?_⟩
  · apply (accepts_iff_pyEq haccount hcard (sameInputs_toValue lib lines card)).mpr
    exact Json.pyEq_self (honestCard_regular hcard)
  · rw [accepts_iff_pyEq haccount hcard hsame, Bool.not_eq_true]

/-! ## A concrete card -/

def enrichedSteps : List Enrichment :=
  [.peerReconciliation (.parsed (.obj [("reconciled_peers", .arr [.str "p"]), ("forks", .arr [])])),
   .references 2 1 (AList.singleton "corroborated" 1) 0, .peerReconciliation .unparsable]

theorem honestCard_enriched : ∃ card,
    HonestCard (plainLibrary ⟨1, "r1", 0, "", "key"⟩) [plainLine 1 0 "r1" none] card ∧
      card.referencesAsked = .int 2 ∧ card.forksState = .str FORKS_STATE_UNREADABLE :=
  ⟨_, ⟨"", "", 0, _, enrichedSteps, rfl, rfl⟩, rfl, rfl⟩

theorem honestCard_accepted_changed_iff_unreadable :
    let lib := plainLibrary ⟨1, "r1", 0, "", "key"⟩
    let lines := [plainLine 1 0 "r1" none]
    ∃ card, HonestCard lib lines card ∧ Accepts lib (card.toValue lib) lines ∧
      ∀ value, SameInputs lib lines card value →
        ((value ≠ card.toValue lib → ¬Accepts lib value lines) ↔
          (value ≠ card.toValue lib → (card.toValue lib).pyEq value = false)) := by
  intro lib lines
  obtain ⟨card, hcard, -⟩ := honestCard_enriched
  exact ⟨card, hcard, honestCard_accepted_changed_iff (fun _ _ _ => rfl) hcard⟩

/-- The value with `0` where the card has `False`. -/
def witnessedZero : Json → Json
  | .obj members => .obj (members.map fun m => (m.1, if m.1 = "coverage" then zeroIn m.2 else m.2))
  | value => value
where
  zeroIn : Json → Json
    | .obj members => .obj (Json.setMember "witnessed" (.int 0) members)
    | value => value

theorem witnessedZero_accepted :
    let lib := plainLibrary ⟨1, "r1", 0, "", "key"⟩
    let lines := [plainLine 1 0 "r1" none]
    ∃ card, HonestCard lib lines card ∧
      SameInputs lib lines card (witnessedZero (card.toValue lib)) ∧
        witnessedZero (card.toValue lib) ≠ card.toValue lib ∧
          Accepts lib (witnessedZero (card.toValue lib)) lines := by
  intro lib lines
  have hequal : ((buildHistoryCard lib (.str "node:key") (.str "log") lines 0).map fun card =>
      (card.toValue lib).pyEq (witnessedZero (card.toValue lib))) = .ok true := by
    decide +kernel
  cases hbuilt : buildHistoryCard lib (.str "node:key") (.str "log") lines 0 with
  | error e =>
      rw [hbuilt] at hequal
      cases hequal
  | ok card =>
      have hcard : HonestCard lib lines card := ⟨"", "", 0, card, [], hbuilt, rfl⟩
      have hsame : SameInputs lib lines card (witnessedZero (card.toValue lib)) :=
        ⟨(sameInputs_toValue lib lines card).selection, (sameInputs_toValue lib lines card).counts⟩
      refine ⟨card, hcard, hsame, ?_, ?_⟩
      · intro heq
        have hwitnessed := congrArg (fun value : Json => do
          (← value.item "coverage").item "witnessed") heq
        cases Except.ok.inj hwitnessed
      · apply (accepts_iff_pyEq (fun _ _ _ => rfl) hcard hsame).mpr
        rw [hbuilt] at hequal
        exact Except.ok.inj hequal

end CapsuleMesh.History
