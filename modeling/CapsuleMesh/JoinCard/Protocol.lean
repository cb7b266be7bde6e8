import CapsuleMesh.JoinCard.Card
import CapsuleMesh.Python.Equality
import CapsuleMesh.Sidecar.BuildCapsule

/-!
# An honest node and its cards

At every start the sidecar seals a card that supersedes the last one in its ledger
(`seal_join_card`), and serves from the same manifest until the next start.  The
ledger that it leaves is consistent.
-/

namespace CapsuleMesh.JoinCard

open Python
open Sidecar (NodeConfig BuildArgs Digests emitServing)

/-! ## Sealing a card -/

/-- What a start of the sidecar finds: its configuration, the hardware block or null, and
the `uuid4` for the card. -/
structure Startup where
  cfg : NodeConfig
  hardware : Json
  nostrPubkeyHex : Option String
  uuid : String

namespace Startup

def models (s : Startup) : Py (List ModelRef) := do
  let modelId ← s.cfg.manifest.get "model_id"
  if modelId.truthy then return [⟨modelId, ← s.cfg.manifest.get "weights_digest"⟩]
  else return []

/-- `state.advertisement.digest()`. -/
def announcementDigest (T : Tools) (s : Startup) : Json :=
  if s.cfg.advertisement.isNull then .null else .str (T.sha256Hex (jcs s.cfg.advertisement))

def nostrPubkeyPrincipalRef (pubkeyHex : String) : String := "nostr-pubkey:" ++ pubkeyHex

/-- The card of a start, over the digest of the last one. -/
def card (T : Tools) (s : Startup) (priorCardDigest : Option String) : Py Card := do
  return {
    nodeId := .str s.cfg.nodeId
    hardwareInventory := s.hardware
    models := ← s.models
    measurementRung := .null
    announcementDigest := s.announcementDigest T
    supersedes := .ofStr? priorCardDigest
    principalRef := .ofStr? ((s.nostrPubkeyHex.filter (· ≠ "")).map nostrPubkeyPrincipalRef) }

end Startup

def NOT_A_SCORE : String :=
  "A self-report of what this node currently claims to serve, not a trust rating or routing " ++
    "recommendation."

def cardAttestation (T : Tools) (card : Card) : Json :=
  .obj
    [("epistemic_type", .str EPISTEMIC_TYPE_PRODUCER_CLAIM),
     (CARD_SUBJECT_KEY, .obj
       [("card", card.toValue),
        ("card_digest", .str (card.digest T)),
        ("not_a_score", .str NOT_A_SCORE)])]

/-- `seal_card`; neither model, effect nor disposition is passed on. -/
def sealCard (emit : Emit) (T : Tools) (s : Startup) (card : Card)
    (priorCardCapsuleId : Option String) : Py Json :=
  emit {
    actionId := "mesh-poc/card/" ++ s.cfg.nodeId ++ "/" ++ s.uuid
    actionType := "fyi"
    operator := s.cfg.operator
    developer := s.cfg.developer
    modelId := none
    provider := "mesh-llm"
    computeAttestation := cardAttestation T card
    effect := .null
    disposition := .null
    priorCapsuleId := priorCardCapsuleId
    chainRelation :=
      if priorCardCapsuleId.any (· ≠ "") then some CARD_SUPERSEDES_RELATION else none
    domain := "action"
    provenance := "collector" }

/-- `seal_join_card`, up to the signature. -/
def sealJoinCard (emit : Emit) (T : Tools) (s : Startup) (ledger : List Json) : Py Json := do
  let prior ← latestCard T ledger
  let card ← s.card T (prior.map fun found => found.2.1)
  sealCard emit T s card (prior.bind fun found => found.2.2.str?)

/-! ## Runs -/

/-- A start may fail before or after its card is in the ledger, and an exchange before its
capsule is. -/
inductive Activity where
  | restart (s : Startup) (appended starts : Bool)
  | exchange (args : BuildArgs) (number : Int × Option Int) (prior relationHead : Option String)
      (appended : Bool)

/-- The start whose card an activity seals. -/
def Activity.startup? : Activity → Option Startup
  | .restart s appended _ => if appended then some s else none
  | .exchange .. => none

structure Node where
  ledger : List Json
  running : Option Startup

def Node.append (node : Node) (capsule : Json) : Node :=
  { node with ledger := node.ledger ++ [capsule] }

def step (emit : Emit) (digests : Digests) (T : Tools) (node : Node) : Activity → Node
  | .restart s appended starts =>
      match sealJoinCard emit T s node.ledger with
      | .ok capsule =>
        if appended then ⟨node.ledger ++ [capsule], if starts then some s else none⟩
        else { node with running := none }
      | .error _ => { node with running := none }
  | .exchange args number prior relationHead appended =>
      match node.running with
      | none => node
      | some s =>
        match emitServing emit digests s.cfg args number prior relationHead with
        | .ok capsule => if appended then node.append capsule else node
        | .error _ => node

/-- The configuration names a model. -/
def Startup.servesModel (s : Startup) : Bool :=
  match s.cfg.manifest.get "model_id" with
  | .ok modelId => modelId.truthy
  | .error _ => false

/-- The next start keeps the node id and drops no claim. -/
structure Keeps (prev next : Startup) : Prop where
  nodeId : next.cfg.nodeId = prev.cfg.nodeId
  models : prev.servesModel = true → next.servesModel = true
  hardware : prev.hardware.isNull = false → next.hardware.isNull = false
  announcement : prev.cfg.advertisement.isNull = false → next.cfg.advertisement.isNull = false

instance : IsTrans Startup Keeps where
  trans _ _ _ h h' :=
    ⟨h'.nodeId.trans h.nodeId, fun m => h'.models (h.models m), fun m => h'.hardware (h.hardware m),
      fun m => h'.announcement (h.announcement m)⟩

/-! ## The lines of a ledger -/

/-- `emit` canonicalises the attestation: no key twice, no `nan`. -/
structure CardContract (emit : Emit) : Prop extends EmitContract emit where
  regular : ∀ {args capsule}, emit args = .ok capsule → args.computeAttestation.regular = true

theorem computeAttestationOf_sealed {emit : Emit} (hemit : EmitContract emit) {args : EmitArgs}
    {capsule : Json} (h : emit args = .ok capsule)
    (htruthy : args.computeAttestation.truthy = true) :
    computeAttestationOf capsule = .ok args.computeAttestation := by
  obtain ⟨members, rfl, attestation, hattestation, hcompute⟩ := hemit.compute h
  simp [computeAttestationOf, hattestation, hcompute, Json.or_of_truthy htruthy]

/-- A sealed card is read back from its line. -/
theorem cardFromLedgerLine_sealed {emit : Emit} (hemit : EmitContract emit) {T : Tools}
    {s : Startup} {card : Card} {prior : Option String} {capsule : Json}
    (h : sealCard emit T s card prior = .ok capsule) :
    ∃ capsuleId, cardFromLedgerLine capsule = .ok (some (card, capsuleId)) := by
  have hcompute := computeAttestationOf_sealed hemit h rfl
  obtain ⟨members, rfl, -⟩ := hemit.compute h
  refine ⟨(members.lookup "capsule_id").getD (.str ""), ?_⟩
  have hsubject : (cardAttestation T card).get CARD_SUBJECT_KEY = .ok (.obj
      [("card", card.toValue), ("card_digest", .str (card.digest T)),
        ("not_a_score", .str NOT_A_SCORE)]) := rfl
  have hvalue : card.toValue.or (.obj []) = card.toValue := rfl
  simp only [cardFromLedgerLine, hcompute, Py.ok_bind, hsubject]
  simp [hvalue, Card.fromValue_toValue]

/-- What an exchange of this node says about it. -/
def ownClaims (cfg : NodeConfig) (modelId : Json) : ExchangeClaims :=
  ⟨clean modelId, .null, .null, .null, .null, .null, clean (.str (Sidecar.servedByNodeId cfg))⟩

/-- What `card_consistency` reads in the capsule of an exchange. -/
theorem exchange_line {emit : Emit} (hemit : CardContract emit) {digests : Digests}
    {cfg : NodeConfig} {args : BuildArgs} {number : Int × Option Int}
    {prior relationHead : Option String} {capsule : Json}
    (h : emitServing emit digests cfg args number prior relationHead = .ok capsule) :
    ∃ modelId, cfg.manifest.get "model_id" = .ok modelId ∧ modelId.regular = true ∧
      cardFromLedgerLine capsule = .ok none ∧
      exchangeClaims capsule = .ok (some (ownClaims cfg modelId)) := by
  obtain ⟨ea, hcapsule, -, -, -, hatt⟩ := Sidecar.emitServing_ok h
  obtain ⟨members, parameters, modelId, reconciliation, owner, hobj, hpoc, -, -, hcard, hmodelId⟩ :=
    Sidecar.computeAttestation_ok hatt
  have htruthy : ea.computeAttestation.truthy = true := by
    rw [hobj]
    cases members with
    | nil => cases hpoc
    | cons m ms => rfl
  have hcompute := computeAttestationOf_sealed hemit.toEmitContract hcapsule htruthy
  have hregular := hemit.regular hcapsule
  rw [hobj] at hcompute hregular
  have hpocget : (Json.obj members).get "x-mesh-poc-v1" = .ok (Sidecar.pocFields cfg args
      parameters (Sidecar.servingProvenance cfg args number modelId) reconciliation owner) := by
    simp [hpoc]
  have hprovenance : (Sidecar.pocFields cfg args parameters
      (Sidecar.servingProvenance cfg args number modelId) reconciliation owner).get
      "serving_provenance" = .ok (Sidecar.servingProvenance cfg args number modelId) := rfl
  have hname : (Sidecar.servingProvenance cfg args number modelId).get "model_canonical_ref" =
      .ok modelId := rfl
  refine ⟨modelId, hmodelId, ?_, ?_, ?_⟩
  · have hpocregular := Json.regular_of_get hregular hpocget
    exact Json.regular_of_get (Json.regular_of_get hpocregular hprovenance) hname
  · simp [cardFromLedgerLine, hcompute, CARD_SUBJECT_KEY, hcard]
  · -- `simp` through the whole body would leave its unfolding to the kernel
    apply Py.bind_eq_ok.mpr ⟨_, hcompute, ?_⟩
    apply Py.bind_eq_ok.mpr ⟨_, hpocget, ?_⟩
    apply Py.bind_eq_ok.mpr ⟨_, hprovenance, ?_⟩
    rfl

/-! ## A card and the exchanges after it -/

theorem clean_eq (v : Json) : clean v = .null ∨ clean v = v := by
  cases v with
  | str s => by_cases h : isUnknown s = true <;> simp [clean, h]
  | _ => exact .inr rfl

theorem valuesEqual_self {T : Tools} {v : Json} (h : v.regular = true) :
    valuesEqual T v v = true := by
  cases v with
  | str s => simp [valuesEqual]
  | _ => exact Json.pyEq_self h

@[simp] theorem field_null (T : Tools) (name : String) (card : Json) :
    field T name .null card = .none := rfl

/-- A value that is cleaned agrees with the value itself. -/
theorem field_clean {T : Tools} {v : Json} (h : v.regular = true) (name : String) :
    (field T name (clean v) v).mismatches = [] := by
  rcases clean_eq v with hclean | hclean
  · rw [hclean]
    rfl
  · rw [hclean, field, valuesEqual_self h]
    cases v.isNull <;> rfl

theorem Startup.models_eq_ok {s : Startup} {models : List ModelRef} (h : s.models = .ok models) :
    ∃ modelId, s.cfg.manifest.get "model_id" = .ok modelId ∧
      ((modelId.truthy = true ∧ ∃ weightsDigest, models = [⟨modelId, weightsDigest⟩]) ∨
        (modelId.truthy = false ∧ models = [])) := by
  obtain ⟨modelId, hmodelId, h⟩ := Py.bind_eq_ok.mp h
  refine ⟨modelId, hmodelId, ?_⟩
  cases htruthy : modelId.truthy with
  | true =>
      rw [htruthy, if_pos rfl] at h
      obtain ⟨weightsDigest, -, h⟩ := Py.bind_eq_ok.mp h
      exact .inl ⟨rfl, weightsDigest, (Except.ok.inj h).symm⟩
  | false =>
      rw [htruthy, if_neg Bool.false_ne_true] at h
      exact .inr ⟨rfl, (Except.ok.inj h).symm⟩

/-- The card that a start seals. -/
structure OwnCard (T : Tools) (s : Startup) (prior : Option String) (card : Card) : Prop where
  nodeId : card.nodeId = .str s.cfg.nodeId
  hardware : card.hardwareInventory = s.hardware
  models : s.models = .ok card.models
  rung : card.measurementRung = .null
  announcement : card.announcementDigest = s.announcementDigest T
  supersedes : card.supersedes = .ofStr? prior

theorem Startup.card_eq_ok {T : Tools} {s : Startup} {prior : Option String} {card : Card}
    (h : s.card T prior = .ok card) : OwnCard T s prior card := by
  obtain ⟨models, hmodels, h⟩ := Py.bind_eq_ok.mp h
  obtain rfl := Except.ok.inj h
  exact ⟨rfl, rfl, hmodels, rfl, rfl, rfl⟩

theorem compareModel_own {T : Tools} {s : Startup} {card : Card} {modelId : Json}
    (hmodels : s.models = .ok card.models)
    (hmodelId : s.cfg.manifest.get "model_id" = .ok modelId) (hregular : modelId.regular = true) :
    (compareModel T card (ownClaims s.cfg modelId)).mismatches = [] := by
  obtain ⟨modelId', hmodelId', hcases⟩ := Startup.models_eq_ok hmodels
  obtain rfl : modelId = modelId' := Except.ok.inj (hmodelId.symm.trans hmodelId')
  rcases hcases with ⟨-, weightsDigest, hmodels⟩ | ⟨-, hmodels⟩
  · rcases clean_eq modelId with hclean | hclean
    · simp [compareModel, ownClaims, hclean, Json.isNull, Comparison.none]
    · cases hnull : modelId.isNull <;>
        simp [compareModel, ownClaims, findModel, hclean, hmodels, hnull,
          valuesEqual_self hregular, Comparison.none, Comparison.add]
  · simp [compareModel, hmodels, Comparison.none]

theorem compareHardware_own {T : Tools} {card : Card} {cfg : NodeConfig} {modelId : Json} :
    compareHardware T card (ownClaims cfg modelId) = .ok .none := by
  cases hnull : card.hardwareInventory.isNull <;> simp [compareHardware, ownClaims, hnull]

theorem field_servedBy {T : Tools} (cfg : NodeConfig) :
    (field T "served_by_node_id" (clean (.str (Sidecar.servedByNodeId cfg)))
      (.str cfg.nodeId)).mismatches = [] := by
  cases hrole : cfg.role with
  | provider =>
      rw [Sidecar.servedByNodeId, hrole]
      exact field_clean rfl _
  | requester =>
      have hunknown : clean (.str "unknown") = .null := rfl
      rw [Sidecar.servedByNodeId, hrole]
      simp only [hunknown, field_null, Comparison.none]

/-- An exchange of a node and the card that the node started with. -/
theorem compareExchange_own {T : Tools} {s : Startup} {prior : Option String} {card : Card}
    {modelId : Json} (hcard : OwnCard T s prior card)
    (hmodelId : s.cfg.manifest.get "model_id" = .ok modelId) (hregular : modelId.regular = true) :
    ∃ comparison, compareExchange T card (ownClaims s.cfg modelId) = .ok comparison ∧
      comparison.mismatches = [] := by
  have hmodel := @compareModel_own T s card modelId hcard.models hmodelId hregular
  have hnode := @field_servedBy T s.cfg
  rw [← hcard.nodeId] at hnode
  simp only [compareExchange, compareHardware_own, Py.ok_bind]
  refine ⟨_, rfl, ?_⟩
  simp only [Comparison.add, hmodel]
  simpa [ownClaims, Comparison.none] using hnode

/-! ## A card and the card before it -/

theorem OwnCard.models_isEmpty {T : Tools} {s : Startup} {prior : Option String} {card : Card}
    (h : OwnCard T s prior card) : card.models.isEmpty = !s.servesModel := by
  obtain ⟨modelId, hmodelId, hcases⟩ := Startup.models_eq_ok h.models
  rcases hcases with ⟨htruthy, weightsDigest, hmodels⟩ | ⟨htruthy, hmodels⟩ <;>
    simp [Startup.servesModel, hmodelId, htruthy, hmodels]

theorem OwnCard.announcement_isNull {T : Tools} {s : Startup} {prior : Option String} {card : Card}
    (h : OwnCard T s prior card) :
    card.announcementDigest.isNull = s.cfg.advertisement.isNull := by
  rw [h.announcement, Startup.announcementDigest]
  cases s.cfg.advertisement.isNull <;> rfl

/-- A start that drops no claim seals a card that widens nothing. -/
theorem cardWidenedFields_keeps {T : Tools} {prev next : Startup} {prior prior' : Option String}
    {card card' : Card} (hkeeps : Keeps prev next) (h : OwnCard T prev prior card)
    (h' : OwnCard T next prior' card') : cardWidenedFields card card' = [] := by
  have hmodels : (!card.models.isEmpty && card'.models.isEmpty) = false := by
    rw [h.models_isEmpty, h'.models_isEmpty]
    cases hprev : prev.servesModel with
    | false => rfl
    | true => rw [hkeeps.models hprev]; rfl
  have hhardware : (!card.hardwareInventory.isNull && card'.hardwareInventory.isNull) = false := by
    rw [h.hardware, h'.hardware]
    cases hprev : prev.hardware.isNull with
    | true => rfl
    | false => rw [hkeeps.hardware hprev]; rfl
  have hannouncement :
      (!card.announcementDigest.isNull && card'.announcementDigest.isNull) = false := by
    rw [h.announcement_isNull, h'.announcement_isNull]
    cases hprev : prev.cfg.advertisement.isNull with
    | true => rfl
    | false => rw [hkeeps.announcement hprev]; rfl
  have hrung : card.measurementRung.isNull = true := by
    rw [h.rung]
    rfl
  simp [cardWidenedFields, hmodels, hhardware, hannouncement, hrung]

/-- The card in effect is the one of the last start that sealed one. -/
def InEffect (T : Tools) (current : Option (Card × String)) (sealed : Option Startup) : Prop :=
  match current, sealed with
  | none, none => True
  | some (card, digest), some s => digest = card.digest T ∧ ∃ prior, OwnCard T s prior card
  | _, _ => False

theorem verifyCardTransition_keeps {T : Tools} {current : Option (Card × String)}
    {sealed : Option Startup} {s : Startup} {card : Card} (heffect : InEffect T current sealed)
    (hkeeps : ∀ prev ∈ sealed, Keeps prev s)
    (hcard : OwnCard T s (current.map Prod.snd) card) :
    (verifyCardTransition T current card).status = .ok := by
  cases current with
  | none => simp [verifyCardTransition, hcard.supersedes, Json.ofStr?, Json.isNull]
  | some found =>
      obtain ⟨priorCard, priorDigest⟩ := found
      cases sealed with
      | none => exact heffect.elim
      | some prev =>
        obtain ⟨-, prior, hprior⟩ := heffect
        have hsupersedes : card.supersedes.pyEq (.str priorDigest) = true := by
          rw [hcard.supersedes]
          exact Json.pyEq_self rfl
        have hnodeId : card.nodeId.pyEq priorCard.nodeId = true := by
          rw [hcard.nodeId, hprior.nodeId, (hkeeps prev rfl).nodeId]
          exact Json.pyEq_self rfl
        have hwidened := cardWidenedFields_keeps (hkeeps prev rfl) hprior hcard
        simp [verifyCardTransition, hsupersedes, hnodeId, hwidened]

/-! ## The invariant -/

/-- What the walk has found so far is without fault. -/
structure Walk.Faultless (walk : Walk) : Prop where
  transitions : ∀ t ∈ walk.result.cardTransitions, t.status = .ok
  entries : ∀ e ∈ walk.result.entries,
    (e.status = .ok ∨ e.status = .nothingCompared) ∧ e.mismatches = []

/-- The ledger of an honest node, and the last start that sealed a card in it. -/
structure Honest (T : Tools) (node : Node) (sealed : Option Startup) : Prop where
  walked : ∃ walk, walkLedger T node.ledger = .ok walk ∧ walk.Faultless ∧
    InEffect T walk.current sealed
  readable : ∀ line ∈ node.ledger, cardFromLedgerLine line = .ok none →
    ∃ claims, exchangeClaims line = .ok (some claims)
  running : ∀ s ∈ node.running, sealed = some s

theorem honest_start (T : Tools) : Honest T ⟨[], none⟩ none where
  walked := ⟨.start, rfl, ⟨by simp [Walk.start], by simp [Walk.start]⟩, trivial⟩
  readable := by simp
  running := by simp

theorem Comparison.status_of_agrees {c : Comparison} (h : c.mismatches = []) :
    c.status = .ok ∨ c.status = .nothingCompared := by
  by_cases hcompared : c.fieldsCompared = 0 <;> simp [Comparison.status, h, hcompared]

section

variable {emit : Emit} {digests : Digests} {T : Tools} {node : Node} {sealed : Option Startup}
  {s : Startup} {capsule : Json}

theorem sealJoinCard_eq_ok (hemit : CardContract emit) {walk : Walk}
    (hwalk : walkLedger T node.ledger = .ok walk)
    (h : sealJoinCard emit T s node.ledger = .ok capsule) :
    ∃ card capsuleId, OwnCard T s (walk.current.map Prod.snd) card ∧
      cardFromLedgerLine capsule = .ok (some (card, capsuleId)) := by
  obtain ⟨prior, hprior, h⟩ := Py.bind_eq_ok.mp h
  obtain ⟨card, hcard, h⟩ := Py.bind_eq_ok.mp h
  obtain ⟨found, hfound, hcurrent⟩ := latestCard_of_walk hwalk
  obtain rfl : prior = found := Except.ok.inj (hprior.symm.trans hfound)
  obtain ⟨capsuleId, hline⟩ := cardFromLedgerLine_sealed hemit.toEmitContract h
  refine ⟨card, capsuleId, ?_, hline⟩
  rw [← hcurrent, Option.map_map]
  exact Startup.card_eq_ok hcard

theorem Honest.seal (hemit : CardContract emit) (h : Honest T node sealed)
    (hkeeps : ∀ prev ∈ sealed, Keeps prev s)
    (hcapsule : sealJoinCard emit T s node.ledger = .ok capsule) :
    Honest T ⟨node.ledger ++ [capsule], some s⟩ (some s) := by
  obtain ⟨walk, hwalk, hfaultless, heffect⟩ := h.walked
  obtain ⟨card, capsuleId, hcard, hline⟩ := sealJoinCard_eq_ok hemit hwalk hcapsule
  have hstep : walkLine T walk capsule = .ok (walk.enterCard T card) :=
    Py.bind_eq_ok.mpr ⟨_, hline, rfl⟩
  have heffect' : InEffect T (some (card, card.digest T)) (some s) := ⟨rfl, _, hcard⟩
  constructor
  · refine ⟨_, walkLedger_concat_eq_ok.mpr ⟨walk, hwalk, hstep⟩, ?_, heffect'⟩
    constructor
    · intro t ht
      rcases List.mem_append.mp ht with ht | ht
      · exact hfaultless.transitions t ht
      · obtain rfl := List.mem_singleton.mp ht
        exact verifyCardTransition_keeps heffect hkeeps hcard
    · exact hfaultless.entries
  · intro line hmem hnone
    rcases List.mem_append.mp hmem with hmem | hmem
    · exact h.readable line hmem hnone
    · obtain rfl := List.mem_singleton.mp hmem
      rw [hline] at hnone
      cases hnone
  · intro s' hs'
    exact hs'

theorem Honest.exchange (hemit : CardContract emit) (h : Honest T node sealed)
    (hrunning : node.running = some s) {args : BuildArgs} {number : Int × Option Int}
    {prior relationHead : Option String}
    (hcapsule : emitServing emit digests s.cfg args number prior relationHead = .ok capsule) :
    Honest T (node.append capsule) sealed := by
  obtain ⟨walk, hwalk, hfaultless, heffect⟩ := h.walked
  obtain ⟨modelId, hmodelId, hregular, hnocard, hclaims⟩ := exchange_line hemit hcapsule
  obtain ⟨ea, hemitted, -⟩ := Sidecar.emitServing_ok hcapsule
  obtain ⟨members, rfl, -⟩ := hemit.compute hemitted
  obtain rfl := h.running s hrunning
  match hcurrent : walk.current, heffect with
  | some (card, digest), ⟨_, _, hcard⟩ =>
      obtain ⟨comparison, hcomparison, hagrees⟩ := compareExchange_own hcard hmodelId hregular
      have hverdict : ∀ id, exchangeVerdict T walk.current (ownClaims s.cfg modelId) id =
          .ok ⟨id, some digest, comparison.status, comparison.mismatches⟩ := by
        intro id
        rw [hcurrent]
        exact Py.bind_eq_ok.mpr ⟨_, hcomparison, rfl⟩
      have hstep : walkLine T walk (.obj members) = .ok (walk.addEntry
          ⟨(members.lookup "capsule_id").getD .null, some digest, comparison.status,
            comparison.mismatches⟩) := by
        apply Py.bind_eq_ok.mpr ⟨_, hnocard, ?_⟩
        apply Py.bind_eq_ok.mpr ⟨_, hclaims, ?_⟩
        apply Py.bind_eq_ok.mpr ⟨_, Json.get_obj members "capsule_id", ?_⟩
        exact Py.bind_eq_ok.mpr ⟨_, hverdict _, rfl⟩
      constructor
      · refine ⟨_, walkLedger_concat_eq_ok.mpr ⟨walk, hwalk, hstep⟩, ?_, ?_⟩
        · constructor
          · exact hfaultless.transitions
          · intro e he
            rcases List.mem_append.mp he with he | he
            · exact hfaultless.entries e he
            · obtain rfl := List.mem_singleton.mp he
              exact ⟨Comparison.status_of_agrees hagrees, hagrees⟩
        · exact heffect
      · intro line hmem hnone
        rcases List.mem_append.mp hmem with hmem | hmem
        · exact h.readable line hmem hnone
        · obtain rfl := List.mem_singleton.mp hmem
          exact ⟨_, hclaims⟩
      · exact h.running

theorem Honest.stop (h : Honest T node sealed) : Honest T { node with running := none } sealed where
  walked := h.walked
  readable := h.readable
  running := by simp

/-! ## Runs -/

variable {activity : Activity} {rest : List Startup} (digests)

/-- The starts to come go on from the one whose card is in effect. -/
theorem step_honest (hemit : CardContract emit) (h : Honest T node sealed)
    (hchain : (sealed.toList ++ (activity.startup?.toList ++ rest)).IsChain Keeps) :
    ∃ sealed', Honest T (step emit digests T node activity) sealed' ∧
      (sealed'.toList ++ rest).IsChain Keeps := by
  have hrest : (sealed.toList ++ rest).IsChain Keeps :=
    hchain.sublist ((List.sublist_append_right _ _).append_left _)
  cases activity with
  | restart s appended starts =>
      simp only [step]
      cases hcapsule : sealJoinCard emit T s node.ledger with
      | error e => exact ⟨sealed, h.stop, hrest⟩
      | ok capsule =>
        cases appended with
        | false => exact ⟨sealed, h.stop, hrest⟩
        | true =>
          have hkeeps : ∀ prev ∈ sealed, Keeps prev s := by
            rintro prev rfl
            exact (List.isChain_cons_cons.mp hchain).1
          have hsealed := h.seal hemit hkeeps hcapsule
          refine ⟨some s, ?_, hchain.sublist (List.sublist_append_right _ _)⟩
          cases starts with
          | true => exact hsealed
          | false => exact hsealed.stop
  | exchange args number prior relationHead appended =>
      simp only [step]
      cases hrunning : node.running with
      | none => exact ⟨sealed, h, hrest⟩
      | some s =>
        dsimp only
        cases hcapsule : emitServing emit digests s.cfg args number prior relationHead with
        | error e => exact ⟨sealed, h, hrest⟩
        | ok capsule =>
          cases appended with
          | false => exact ⟨sealed, h, hrest⟩
          | true => exact ⟨sealed, h.exchange hemit hrunning hcapsule, hrest⟩

theorem run_honest (hemit : CardContract emit) (events : List Activity)
    (h : Honest T node sealed)
    (hchain : (sealed.toList ++ events.filterMap Activity.startup?).IsChain Keeps) :
    ∃ sealed', Honest T (events.foldl (step emit digests T) node) sealed' := by
  induction events generalizing node sealed with
  | nil => exact ⟨sealed, h⟩
  | cons activity events ih =>
      have hsplit : (activity :: events).filterMap Activity.startup? =
          activity.startup?.toList ++ events.filterMap Activity.startup? := by
        cases hstartup : activity.startup? <;> simp [hstartup]
      rw [hsplit] at hchain
      obtain ⟨sealed', h', hchain'⟩ := step_honest digests hemit h hchain
      exact ih h' hchain'

/-- The ledger of a node that keeps its claims from start to start is consistent. -/
theorem cardConsistency_honest (hemit : CardContract emit) (events : List Activity)
    (hkeeps : (events.filterMap Activity.startup?).IsChain Keeps) :
    ∃ result, cardConsistency T (events.foldl (step emit digests T) ⟨[], none⟩).ledger =
        .ok result ∧ result.ok = true ∧
      (∀ transition ∈ result.cardTransitions, transition.status = .ok) ∧
      ∀ before line, before ++ [line] <+: (events.foldl (step emit digests T) ⟨[], none⟩).ledger →
        cardFromLedgerLine line = .ok none →
        ∃ claims, exchangeClaims line = .ok (some claims) ∧ AgreesWithLatest T before claims := by
  obtain ⟨sealed, h⟩ := run_honest digests hemit events (honest_start T) hkeeps
  obtain ⟨walk, hwalk, hfaultless, -⟩ := h.walked
  refine ⟨walk.result, Py.bind_eq_ok.mpr ⟨walk, hwalk, rfl⟩, ?_, hfaultless.transitions, ?_⟩
  · rw [CardConsistencyResult.ok, Bool.and_eq_true, List.all_eq_true, List.all_eq_true]
    constructor
    · intro e he
      rcases (hfaultless.entries e he).1 with hstatus | hstatus <;> simp [hstatus]
    · intro t ht
      simp [hfaultless.transitions t ht]
  · intro before line hpre hnone
    have hmem : line ∈ (events.foldl (step emit digests T) ⟨[], none⟩).ledger :=
      hpre.subset (by simp)
    obtain ⟨claims, hclaims⟩ := h.readable line hmem hnone
    have hentries : ∀ e ∈ walk.result.entries, e.status ≠ .noCardSealed ∧ e.mismatches = [] := by
      intro e he
      obtain ⟨hstatus, hagrees⟩ := hfaultless.entries e he
      refine ⟨?_, hagrees⟩
      rcases hstatus with hstatus | hstatus <;> simp [hstatus]
    exact ⟨claims, hclaims, agreesWithLatest_of_entries hwalk hentries hpre hnone hclaims⟩

end

/-- A builder with the shape of the real one, that refuses what it cannot canonicalise. -/
def checkedEmit : Emit := fun args =>
  if args.computeAttestation.regular then plainEmit args else .error (.valueError "not canonical")

theorem checkedEmit_contract : CardContract checkedEmit := by
  have hplain : ∀ {args capsule}, checkedEmit args = .ok capsule →
      args.computeAttestation.regular = true ∧ plainEmit args = .ok capsule := by
    intro args capsule h
    unfold checkedEmit at h
    split_ifs at h with hregular
    exact ⟨hregular, h⟩
  exact {
    compute := fun h => plainEmit_contract.compute (hplain h).2
    effect := fun h => plainEmit_contract.effect (hplain h).2
    parent := fun h => plainEmit_contract.parent (hplain h).2
    capsuleId := fun h => plainEmit_contract.capsuleId (hplain h).2
    actionId := fun h h' => plainEmit_contract.actionId (hplain h).2 (hplain h').2
    regular := fun h => (hplain h).1 }

def plainTools : Tools := ⟨fun _ => "sha256", id⟩

def plainStartup (hardware : Json) (uuid : String) : Startup :=
  ⟨Sidecar.plainConfig "node" .provider, hardware, none, uuid⟩

/-- Two starts, the second with a hardware block, and an exchange after each. -/
def twoStarts : List Activity :=
  [.restart (plainStartup .null "u1") true true,
    .exchange (Sidecar.plainArgs "u2") (1, none) none none true,
    .restart (plainStartup (.obj [("chip", .str "M2")]) "u3") true true,
    .exchange (Sidecar.plainArgs "u4") (2, some 1) none none true]

def twoStartsLedger : List Json :=
  (twoStarts.foldl (step checkedEmit Sidecar.plainDigests plainTools) ⟨[], none⟩).ledger

theorem cardConsistency_honest_twoStarts :
    twoStartsLedger.length = 4 ∧
      ∃ result, cardConsistency plainTools twoStartsLedger = .ok result ∧ result.ok = true ∧
        (∀ transition ∈ result.cardTransitions, transition.status = .ok) ∧
        ∀ before line, before ++ [line] <+: twoStartsLedger →
          cardFromLedgerLine line = .ok none →
          ∃ claims, exchangeClaims line = .ok (some claims) ∧
            AgreesWithLatest plainTools before claims := by
  refine ⟨by decide +kernel, ?_⟩
  apply cardConsistency_honest Sidecar.plainDigests checkedEmit_contract twoStarts
  have hkeeps : Keeps (plainStartup .null "u1")
      (plainStartup (.obj [("chip", .str "M2")]) "u3") :=
    ⟨rfl, fun h => h, fun _ => rfl, fun h => h⟩
  exact List.IsChain.cons_cons hkeeps (.singleton _)

end CapsuleMesh.JoinCard
