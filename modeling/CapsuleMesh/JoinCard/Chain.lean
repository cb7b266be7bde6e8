import Mathlib.Data.List.ReduceOption
import Mathlib.Data.List.Chain
import CapsuleMesh.JoinCard.Verdicts
import CapsuleMesh.Python.Equality

/-!
# The chain of cards of a ledger

`card_consistency` grades each card against the one before it only.  Taken together the
grades say what the whole list of cards is: one node's chain, in which no claim is dropped.
-/

namespace CapsuleMesh.JoinCard

open Python

/-- The cards of a ledger, in the order of its lines. -/
def cardsIn (lines : List Json) : Py (List Card) := do
  return (← lines.mapM cardFromLedgerLine).reduceOption.map Prod.fst

/-- The fields that `_card_widened_fields` looks at. -/
inductive CardClaim where
  | models
  | hardwareInventory
  | measurementRung
  | announcementDigest
deriving DecidableEq

def Card.pins (card : Card) : CardClaim → Bool
  | .models => !card.models.isEmpty
  | .hardwareInventory => !card.hardwareInventory.isNull
  | .measurementRung => !card.measurementRung.isNull
  | .announcementDigest => !card.announcementDigest.isNull

/-- One node's cards: each names the one before it, and what is claimed once stays claimed. -/
structure CardChain (T : Tools) (cards : List Card) : Prop where
  first : ∀ card ∈ cards.head?, card.supersedes = .null
  linked : cards.IsChain fun prior card => card.supersedes = .str (prior.digest T)
  oneNode : cards.Pairwise fun earlier later => later.nodeId.pyEq earlier.nodeId = true
  pinned : ∀ claim, cards.Pairwise fun earlier later =>
    earlier.pins claim = true → later.pins claim = true

/-! ## One transition -/

theorem cardWidenedFields_eq_nil {prior card : Card} :
    cardWidenedFields prior card = [] ↔
      ∀ claim, prior.pins claim = true → card.pins claim = true := by
  constructor
  · intro h claim
    simp only [cardWidenedFields, List.append_eq_nil_iff, ite_eq_right_iff, reduceCtorEq,
      imp_false, Bool.and_eq_true, not_and] at h
    obtain ⟨⟨⟨hmodels, hhardware⟩, hrung⟩, hannouncement⟩ := h
    cases claim <;> simp_all [Card.pins]
  · intro h
    have hmodels := h .models
    have hhardware := h .hardwareInventory
    have hrung := h .measurementRung
    have hannouncement := h .announcementDigest
    simp_all [Card.pins, cardWidenedFields]

theorem verifyCardTransition_first {T : Tools} {card : Card} :
    (verifyCardTransition T none card).status = .ok ↔ card.supersedes = .null := by
  cases hsupersedes : card.supersedes <;> simp [verifyCardTransition, hsupersedes, Json.isNull]

theorem verifyCardTransition_next {T : Tools} {prior card : Card} {digest : String} :
    (verifyCardTransition T (some (prior, digest)) card).status = .ok ↔
      card.supersedes = .str digest ∧ card.nodeId.pyEq prior.nodeId = true ∧
        ∀ claim, prior.pins claim = true → card.pins claim = true := by
  rw [← cardWidenedFields_eq_nil]
  have hsupersedes : card.supersedes.pyEq (.str digest) = true ↔ card.supersedes = .str digest :=
    ⟨Json.eq_str_of_pyEq, fun h => by rw [h]; exact Json.pyEq_self rfl⟩
  rw [← hsupersedes]
  simp only [verifyCardTransition]
  split_ifs <;> simp_all

/-! ## The walk over the cards -/

/-- The verdicts on a list of cards, after the given one. -/
def transitionsFrom (T : Tools) : Option (Card × String) → List Card → List CardTransitionVerdict
  | _, [] => []
  | prior, card :: cards =>
      verifyCardTransition T prior card :: transitionsFrom T (some (card, card.digest T)) cards

/-- The card in effect after a list of cards. -/
def lastOf (T : Tools) (cards : List Card) : Option (Card × String) :=
  cards.getLast?.map fun card => (card, card.digest T)

theorem transitionsFrom_concat (T : Tools) (prior : Option (Card × String)) (cards : List Card)
    (card : Card) :
    transitionsFrom T prior (cards ++ [card]) =
      transitionsFrom T prior cards ++ [verifyCardTransition T ((lastOf T cards).or prior) card] := by
  induction cards generalizing prior with
  | nil => rfl
  | cons c cards ih =>
      rw [List.cons_append, transitionsFrom, ih, transitionsFrom, List.cons_append]
      congr 3
      cases cards with
      | nil => rfl
      | cons c' cards => simp [lastOf, List.getLast?_cons]

theorem cardsIn_eq_ok {lines : List Json} {cards : List Card} :
    cardsIn lines = .ok cards ↔
      ∃ found : List (Option (Card × Json)), lines.map cardFromLedgerLine = found.map .ok ∧
        cards = found.reduceOption.map Prod.fst := by
  rw [cardsIn, Py.bind_eq_ok]
  simp only [Py.mapM_eq_ok, Py.pure_eq_ok, Except.ok.injEq, eq_comm (b := cards)]

/-- The walk passes the cards of the ledger and grades each. -/
theorem walkLedger_cards {T : Tools} {lines : List Json} {walk : Walk}
    (h : walkLedger T lines = .ok walk) :
    ∃ cards, cardsIn lines = .ok cards ∧ walk.current = lastOf T cards ∧
      walk.result.cardTransitions = transitionsFrom T none cards := by
  induction lines using List.reverseRecOn generalizing walk with
  | nil =>
      obtain rfl := Except.ok.inj h
      exact ⟨[], rfl, rfl, rfl⟩
  | append_singleton lines line ih =>
      obtain ⟨before, hbefore, hline⟩ := walkLedger_concat_eq_ok.mp h
      obtain ⟨cards, hcards, hcurrent, htransitions⟩ := ih hbefore
      have hconcat : ∀ {hit}, cardFromLedgerLine line = .ok hit →
          cardsIn (lines ++ [line]) = .ok (cards ++ hit.toList.map Prod.fst) := by
        intro hit hhit
        obtain ⟨found, hfound, rfl⟩ := cardsIn_eq_ok.mp hcards
        refine cardsIn_eq_ok.mpr ⟨found ++ [hit], ?_, ?_⟩
        · rw [List.map_append, List.map_append, hfound, List.map_singleton, hhit]
          rfl
        · cases hit <;> simp [List.reduceOption_append, List.reduceOption_singleton]
      rcases walkLine_eq_ok.mp hline with ⟨card, capsuleId, hhit, rfl⟩ | ⟨hhit, -, rfl⟩ |
        ⟨hhit, _, _, _, -, -, -, rfl⟩
      · refine ⟨_, hconcat hhit, ?_, ?_⟩
        · simp [lastOf, Walk.enterCard]
        · have hstep := transitionsFrom_concat T none cards card
          rw [Option.or_none] at hstep
          simp only [Walk.enterCard, htransitions, hcurrent]
          exact hstep.symm
      · exact ⟨_, hconcat hhit, by simpa using hcurrent, by simpa using htransitions⟩
      · exact ⟨_, hconcat hhit, by simpa [Walk.addEntry] using hcurrent,
          by simpa [Walk.addEntry] using htransitions⟩

/-! ## The whole chain -/

/-- What one accepted transition says of the two cards. -/
structure Follows (T : Tools) (prior card : Card) : Prop where
  supersedes : card.supersedes = .str (prior.digest T)
  nodeId : card.nodeId.pyEq prior.nodeId = true
  pins : ∀ claim, prior.pins claim = true → card.pins claim = true

theorem transitionsFrom_some_ok {T : Tools} {prior : Card} {cards : List Card} :
    (∀ t ∈ transitionsFrom T (some (prior, prior.digest T)) cards, t.status = .ok) ↔
      (prior :: cards).IsChain (Follows T) := by
  induction cards generalizing prior with
  | nil => simp [transitionsFrom]
  | cons card cards ih =>
      rw [transitionsFrom, List.forall_mem_cons, verifyCardTransition_next, ih,
        List.isChain_cons_cons]
      refine and_congr_left fun _ => ?_
      exact ⟨fun ⟨h, h', h''⟩ => ⟨h, h', h''⟩, fun h => ⟨h.supersedes, h.nodeId, h.pins⟩⟩

theorem transitionsFrom_none_ok {T : Tools} {cards : List Card} :
    (∀ t ∈ transitionsFrom T none cards, t.status = .ok) ↔
      (∀ card ∈ cards.head?, card.supersedes = .null) ∧ cards.IsChain (Follows T) := by
  cases cards with
  | nil => simp [transitionsFrom]
  | cons card cards =>
      rw [transitionsFrom, List.forall_mem_cons, verifyCardTransition_first,
        transitionsFrom_some_ok]
      simp

instance : IsTrans Card fun earlier later => later.nodeId.pyEq earlier.nodeId = true where
  trans _ _ _ h h' := Json.pyEq_trans h' h

instance (claim : CardClaim) :
    IsTrans Card fun earlier later => earlier.pins claim = true → later.pins claim = true where
  trans _ _ _ h h' hpins := h' (h hpins)

theorem cardChain_iff {T : Tools} {cards : List Card} :
    CardChain T cards ↔
      (∀ card ∈ cards.head?, card.supersedes = .null) ∧ cards.IsChain (Follows T) := by
  constructor
  · intro h
    refine ⟨h.first, ?_⟩
    have hpinned := fun claim => List.isChain_iff_pairwise.mpr (h.pinned claim)
    have honeNode := List.isChain_iff_pairwise.mpr h.oneNode
    rw [List.isChain_iff_getElem]
    intro i hi
    exact ⟨h.linked.getElem i hi, honeNode.getElem i hi, fun claim => (hpinned claim).getElem i hi⟩
  · rintro ⟨hfirst, hchain⟩
    exact
      { first := hfirst
        linked := hchain.imp fun _ _ h => h.supersedes
        oneNode := List.isChain_iff_pairwise.mp (hchain.imp fun _ _ h => h.nodeId)
        pinned := fun claim => List.isChain_iff_pairwise.mp (hchain.imp fun _ _ h => h.pins claim) }

/-- Two cards of a chain name different predecessors, unless two digests collide. -/
theorem CardChain.supersedes_ne {T : Tools} {cards : List Card} (h : CardChain T cards)
    (hdigest : ∀ card ∈ cards, ∀ card' ∈ cards, card.digest T = card'.digest T →
      card.supersedes = card'.supersedes) :
    cards.Pairwise fun earlier later => earlier.supersedes ≠ later.supersedes := by
  -- two equal links would go back step by step to one from the first card, which has none
  have hback : ∀ i j (hij : i < j) (hj : j < cards.length),
      cards[i].supersedes ≠ cards[j].supersedes := by
    intro i
    induction i with
    | zero =>
        intro j hij hj heq
        obtain ⟨j, rfl⟩ := Nat.exists_eq_add_of_lt hij
        have hlink := h.linked.getElem (0 + j) hj
        have hfirst : cards[0].supersedes = .null := h.first _ (by
          rw [List.head?_eq_getElem?]
          exact List.getElem?_eq_getElem _)
        rw [hfirst] at heq
        rw [← heq] at hlink
        cases hlink
    | succ i ih =>
        intro j hij hj heq
        obtain ⟨j, rfl⟩ := Nat.exists_eq_add_of_lt (Nat.zero_lt_of_lt hij)
        have hlink := h.linked.getElem i (by omega)
        have hlink' := h.linked.getElem (0 + j) hj
        rw [hlink, hlink'] at heq
        exact ih (0 + j) (by omega) (by omega) (hdigest _ (List.getElem_mem _) _
          (List.getElem_mem _) (Json.str.inj heq))
  rw [List.pairwise_iff_getElem]
  exact fun i j _ hj hij => hback i j hij hj

/-- The cards of a ledger that can be read. -/
def readableCards (lines : List Json) : List Card :=
  lines.filterMap fun line => (cardFromLedgerLine line).toOption.join.map Prod.fst

theorem readableCards_of_cardsIn {lines : List Json} {cards : List Card}
    (h : cardsIn lines = .ok cards) : readableCards lines = cards := by
  obtain ⟨found, hfound, rfl⟩ := cardsIn_eq_ok.mp h
  have hall := Py.forall₂_of_map_eq hfound
  clear h hfound
  induction hall with
  | nil => rfl
  | @cons line hit lines found hhit _ ih =>
      cases hit with
      | none => simpa [readableCards, hhit, Except.toOption] using ih
      | some hit => simpa [readableCards, hhit, Except.toOption] using ih

/-- Accepted transitions are those of one node's chain, and any other list of cards is reported. -/
structure ChainReported (T : Tools) (lines : List Json) : Prop where
  sound : ∀ result, cardConsistency T lines = .ok result →
    (∀ transition ∈ result.cardTransitions, transition.status = .ok) →
    CardChain T (readableCards lines)
  reported : ¬CardChain T (readableCards lines) → ∃ result, cardConsistency T lines = .ok result ∧
    ∃ transition ∈ result.cardTransitions, transition.status ≠ .ok

/-- Every line can be graded where it stands. -/
def EachGradable (T : Tools) (lines : List Json) : Prop :=
  ∀ before line after, lines = before ++ line :: after → Gradable T before line

theorem cardConsistency_returns_iff {T : Tools} {lines : List Json} :
    (∃ result, cardConsistency T lines = .ok result) ↔ EachGradable T lines := by
  have hwalk := walkLedger_append_returns (rfl : walkLedger T [] = .ok .start) lines
  simp only [List.nil_append] at hwalk
  rw [EachGradable, ← hwalk]
  constructor
  · rintro ⟨result, h⟩
    obtain ⟨walk, hwalk, -⟩ := Py.bind_eq_ok.mp h
    exact ⟨walk, hwalk⟩
  · rintro ⟨walk, h⟩
    exact ⟨walk.result, Py.bind_eq_ok.mpr ⟨walk, h, rfl⟩⟩

theorem transitions_ok_iff_cardChain {T : Tools} {lines : List Json}
    {result : CardConsistencyResult} (h : cardConsistency T lines = .ok result) :
    (∀ transition ∈ result.cardTransitions, transition.status = .ok) ↔
      CardChain T (readableCards lines) := by
  obtain ⟨walk, hwalk, hresult⟩ := Py.bind_eq_ok.mp h
  obtain rfl := Except.ok.inj hresult
  obtain ⟨cards, hcards, -, htransitions⟩ := walkLedger_cards hwalk
  rw [htransitions, readableCards_of_cardsIn hcards, cardChain_iff]
  exact transitionsFrom_none_ok

/-- The report says what the list of cards is exactly where the cards are one node's chain or every
line can be graded.  Where it accepts every transition, no two cards name the same predecessor. -/
theorem chainReported_iff (T : Tools) (lines : List Json) :
    (ChainReported T lines ↔ CardChain T (readableCards lines) ∨ EachGradable T lines) ∧
    ∀ result, cardConsistency T lines = .ok result →
      ((∀ transition ∈ result.cardTransitions, transition.status = .ok) ↔
        CardChain T (readableCards lines)) ∧
      ((∀ transition ∈ result.cardTransitions, transition.status = .ok) →
        (∀ card ∈ readableCards lines, ∀ card' ∈ readableCards lines,
          card.digest T = card'.digest T → card.supersedes = card'.supersedes) →
        (readableCards lines).Pairwise fun earlier later =>
          earlier.supersedes ≠ later.supersedes) := by
  refine ⟨?_, fun result h => ?_⟩
  · constructor
    · intro hreported
      by_cases hchain : CardChain T (readableCards lines)
      · exact .inl hchain
      · obtain ⟨result, hresult, -⟩ := hreported.reported hchain
        exact .inr (cardConsistency_returns_iff.mp ⟨result, hresult⟩)
    · intro h
      refine ⟨fun result hresult => (transitions_ok_iff_cardChain hresult).mp, fun hbroken => ?_⟩
      obtain ⟨result, hresult⟩ := cardConsistency_returns_iff.mpr (h.resolve_left hbroken)
      rw [← transitions_ok_iff_cardChain hresult] at hbroken
      push Not at hbroken
      exact ⟨result, hresult, hbroken⟩
  · have hiff := transitions_ok_iff_cardChain h
    exact ⟨hiff, fun hok => (hiff.mp hok).supersedes_ne⟩

/-- A card that names the first one too, and drops the hardware block of the second. -/
def forkedCard (T : Tools) : Card := { firstCard with supersedes := .str (firstCard.digest T) }

/-- The fork is reported, until a line whose card block is a text stands beside it. -/
theorem fork_unreported_beside_misshapen_line :
    let T : Tools := ⟨hexText, id⟩
    let cards := [cardLine firstCard, cardLine (secondCard T), cardLine (forkedCard T)]
    ¬CardChain T (readableCards cards) ∧ ChainReported T cards ∧
      readableCards (cards ++ [misshapenLine "b"]) = readableCards cards ∧
      cardConsistency T (cards ++ [misshapenLine "b"]) = .error .attributeError ∧
      ¬ChainReported T (cards ++ [misshapenLine "b"]) := by
  intro T cards
  have hread : readableCards cards = [firstCard, secondCard T, forkedCard T] := by
    simp [readableCards, cards, cardFromLedgerLine_cardLine, Except.toOption]
  have hbroken : ¬CardChain T (readableCards cards) := by
    rw [hread]
    intro hchain
    have hpinned := (List.pairwise_cons.mp (hchain.pinned .hardwareInventory)).2
    have hdropped := (List.pairwise_cons.mp hpinned).1 (forkedCard T) List.mem_cons_self rfl
    cases hdropped
  obtain ⟨walk, hwalk⟩ : ∃ walk, walkLedger T cards = .ok walk := by
    simp [walkLedger, cards, walkLine, cardFromLedgerLine_cardLine, List.foldlM_cons]
  have hreturns : cardConsistency T cards = .ok walk.result :=
    Py.bind_eq_ok.mpr ⟨walk, hwalk, rfl⟩
  have hsame : readableCards (cards ++ [misshapenLine "b"]) = readableCards cards := by
    have hmisshapen : cardFromLedgerLine (misshapenLine "b") = .error .attributeError := rfl
    simp [readableCards, hmisshapen, Except.toOption]
  have hraises : cardConsistency T (cards ++ [misshapenLine "b"]) = .error .attributeError := by
    rw [cardConsistency, walkLedger, List.foldlM_append]
    change (walkLedger T cards >>= _) >>= _ = _
    rw [hwalk]
    rfl
  refine ⟨hbroken, ?_, hsame, hraises, fun hreported => ?_⟩
  · refine ⟨fun result h => (transitions_ok_iff_cardChain h).mp, fun h => ?_⟩
    rw [← transitions_ok_iff_cardChain hreturns] at h
    push Not at h
    exact ⟨walk.result, hreturns, h⟩
  · rw [← hsame] at hbroken
    obtain ⟨result, hresult, -⟩ := hreported.reported hbroken
    cases hraises.symm.trans hresult

end CapsuleMesh.JoinCard
