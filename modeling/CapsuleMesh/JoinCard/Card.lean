import Mathlib.Data.List.Induction
import CapsuleMesh.Python.Canonical

/-!
# Join cards

`join_card.py`.  A card is what a node claims about itself, sealed into its ledger and
chained to the card before it by a digest.  `card_consistency` walks a ledger: it grades
each card against the one it replaces and each exchange against the card in effect.
-/

namespace CapsuleMesh.JoinCard

open Python

def CARD_SCHEMA : String := "mesh-join-card/1"

def CARD_SUBJECT_KEY : String := "x-mesh-join-card-v1"

def CARD_SUPERSEDES_RELATION : String := "supersedes"

def EPISTEMIC_TYPE_PRODUCER_CLAIM : String := "producer_claim"

/-- SHA-256, and `s.strip().casefold()` with its Unicode tables. -/
structure Tools where
  sha256Hex : Bytes → String
  stripCasefold : String → String

/-! ## Cards -/

/-- The fields hold what `from_value` finds in a record, of whatever type. -/
structure ModelRef where
  name : Json
  weightsDigest : Json

structure Card where
  nodeId : Json
  hardwareInventory : Json
  models : List ModelRef
  measurementRung : Json
  announcementDigest : Json
  supersedes : Json
  principalRef : Json

def ModelRef.toValue (m : ModelRef) : Json :=
  .obj [("name", m.name), ("weights_digest", m.weightsDigest)]

def ModelRef.fromValue (value : Json) : Py ModelRef := do
  return ⟨← value.getD "name" (.str ""), ← value.get "weights_digest"⟩

namespace Card

def toValue (card : Card) : Json :=
  .obj
    [("schema", .str CARD_SCHEMA),
     ("node_id", card.nodeId),
     ("hardware_inventory", card.hardwareInventory),
     ("models", .arr (card.models.map ModelRef.toValue)),
     ("measurement_rung", card.measurementRung),
     ("announcement_digest", card.announcementDigest),
     ("supersedes", card.supersedes),
     ("principal_ref", card.principalRef)]

def fromValue (value : Json) : Py Card := do
  return {
    nodeId := ← value.getD "node_id" (.str "")
    hardwareInventory := ← value.get "hardware_inventory"
    models := ← (← ((← value.get "models").or (.arr [])).iter).mapM ModelRef.fromValue
    measurementRung := ← value.get "measurement_rung"
    announcementDigest := ← value.get "announcement_digest"
    supersedes := ← value.get "supersedes"
    principalRef := ← value.get "principal_ref" }

def digest (T : Tools) (card : Card) : String := T.sha256Hex (jcs card.toValue)

end Card

/-! ## Reading a ledger -/

/-- `_compute_attestation`. -/
def computeAttestationOf (line : Json) : Py Json := do
  return (← ((← line.get "model_attestation").or (.obj [])).get "compute_attestation").or (.obj [])

def cardFromLedgerLine (line : Json) : Py (Option (Card × Json)) := do
  let subject ← (← computeAttestationOf line).get CARD_SUBJECT_KEY
  if subject.truthy then
    let card ← Card.fromValue ((← subject.get "card").or (.obj []))
    return some (card, ← line.getD "capsule_id" (.str ""))
  else return none

/-- The loop of `latest_card`, which keeps the last card it finds. -/
def keepLatest (found : Option (Card × Json)) (line : Json) : Py (Option (Card × Json)) := do
  return (← cardFromLedgerLine line).or found

/-- The last card, its digest and its capsule id. -/
def latestCard (T : Tools) (lines : List Json) : Py (Option (Card × String × Json)) := do
  return (← lines.foldlM keepLatest none).map fun found => (found.1, found.1.digest T, found.2)

/-- What an exchange says about its node; `None` is the null value. -/
structure ExchangeClaims where
  modelName : Json
  weightsDigest : Json
  hardwareGpu : Json
  hardwareVramBytes : Json
  hardwareIsSoc : Json
  measurementRung : Json
  servedByNodeId : Json

/-- `c.lower()`, for the characters that become one of the letters `a` to `z`. -/
def lowerLetter (c : Char) : Char :=
  if 'A' ≤ c ∧ c ≤ 'Z' then Char.ofNat (c.toNat + 32)
  else if c.toNat = 0x212A then 'k'
  else c

/-- `s.strip().lower() == "unknown"`. -/
def isUnknown (s : String) : Bool :=
  let stripped := ((s.toList.dropWhile isSpace).reverse.dropWhile isSpace).reverse
  decide (stripped.map lowerLetter = "unknown".toList)

def clean (v : Json) : Json :=
  match v with
  | .str s => if isUnknown s then .null else v
  | v => v

/-- `a if a is not None else b`. -/
def ifPresent (a b : Json) : Json := if a.isNull then b else a

def exchangeClaims (line : Json) : Py (Option ExchangeClaims) := do
  let poc := (← (← computeAttestationOf line).get "x-mesh-poc-v1").or (.obj [])
  let sp ← poc.get "serving_provenance"
  if sp.isNull then return none
  else
    let model := (← sp.get "model").or (.obj [])
    let hardware := (← sp.get "hardware").or (.obj [])
    let refs := (← poc.get "evidence_refs").or (.obj [])
    let binaryAttestation := (← refs.get "binary_attestation").or (.obj [])
    return some {
      modelName := clean ((← model.get "canonical_ref").or (← sp.get "model_canonical_ref"))
      weightsDigest := clean (← model.get "weights_digest")
      hardwareGpu := clean ((← hardware.get "gpu").or (← sp.get "hardware_gpu"))
      hardwareVramBytes := clean
        (ifPresent (← hardware.get "vram_bytes") (← sp.get "hardware_vram_bytes"))
      hardwareIsSoc := clean (ifPresent (← hardware.get "is_soc") (← sp.get "hardware_is_soc"))
      measurementRung := clean (← binaryAttestation.get "measurement_class")
      servedByNodeId := clean (← sp.get "served_by_node_id") }

/-! ## Comparing an exchange with a card -/

def valuesEqual (T : Tools) (a b : Json) : Bool :=
  match a, b with
  | .str s, .str t => decide (T.stripCasefold s = T.stripCasefold t)
  | a, b => a.pyEq b

def findModel (T : Tools) (card : Card) (name : Json) : Option ModelRef :=
  if name.isNull then none else card.models.find? fun m => valuesEqual T m.name name

structure Mismatch where
  field : String
  exchange : Json
  card : Json

/-- Mismatches, and how many fields were compared. -/
structure Comparison where
  mismatches : List Mismatch
  fieldsCompared : ℕ

def Comparison.none : Comparison := ⟨[], 0⟩

def Comparison.add (a b : Comparison) : Comparison :=
  ⟨a.mismatches ++ b.mismatches, a.fieldsCompared + b.fieldsCompared⟩

/-- `_field`: nothing is compared unless both sides are present. -/
def field (T : Tools) (name : String) (exchange card : Json) : Comparison :=
  if exchange.isNull || card.isNull then .none
  else if valuesEqual T exchange card then ⟨[], 1⟩
  else ⟨[⟨name, exchange, card⟩], 1⟩

def compareModel (T : Tools) (card : Card) (claims : ExchangeClaims) : Comparison :=
  if !claims.modelName.isNull && !card.models.isEmpty then
    match findModel T card claims.modelName with
    | .none => ⟨[⟨"model", claims.modelName, .arr (card.models.map ModelRef.name)⟩], 1⟩
    | some m => .add ⟨[], 1⟩ (field T "weights_digest" claims.weightsDigest m.weightsDigest)
  else .none

/-- The two hardware fields, which are compared on a system on a chip only. -/
def compareHardware (T : Tools) (card : Card) (claims : ExchangeClaims) : Py Comparison :=
  match card.hardwareInventory.isNull, claims.hardwareIsSoc with
  | false, .bool true => do
      let chip ← card.hardwareInventory.get "chip"
      let memory ← card.hardwareInventory.get "memory_bytes"
      return (field T "hardware_chip_vs_gpu" claims.hardwareGpu chip).add
        (field T "hardware_memory_vs_vram" claims.hardwareVramBytes memory)
  | _, _ => .ok .none

/-- The body of the loop of `card_consistency` for an exchange. -/
def compareExchange (T : Tools) (card : Card) (claims : ExchangeClaims) : Py Comparison := do
  let model := compareModel T card claims
  let rung := field T "measurement_rung" claims.measurementRung card.measurementRung
  let hardware ← compareHardware T card claims
  let node := field T "served_by_node_id" claims.servedByNodeId card.nodeId
  return ((model.add rung).add hardware).add node

/-! ## Verdicts -/

inductive ExchangeStatus where
  | ok
  | broken
  | noCardSealed
  | nothingCompared
deriving DecidableEq

structure ExchangeCardVerdict where
  exchangeDigest : Json
  cardDigest : Option String
  status : ExchangeStatus
  mismatches : List Mismatch

inductive TransitionStatus where
  | ok
  | lineageBroken
  | nodeIdMismatch
  | widened
deriving DecidableEq

structure CardTransitionVerdict where
  cardDigest : String
  priorCardDigest : Option String
  status : TransitionStatus
  widenedFields : List String

def Comparison.status (c : Comparison) : ExchangeStatus :=
  if !c.mismatches.isEmpty then .broken
  else if c.fieldsCompared = 0 then .nothingCompared
  else .ok

def cardWidenedFields (prior new : Card) : List String :=
  (if !prior.models.isEmpty && new.models.isEmpty then ["models"] else []) ++
  (if !prior.hardwareInventory.isNull && new.hardwareInventory.isNull then
    ["hardware_inventory"] else []) ++
  (if !prior.measurementRung.isNull && new.measurementRung.isNull then
    ["measurement_rung"] else []) ++
  (if !prior.announcementDigest.isNull && new.announcementDigest.isNull then
    ["announcement_digest"] else [])

def verifyCardTransition (T : Tools) (prior : Option (Card × String)) (new : Card) :
    CardTransitionVerdict :=
  match prior with
  | none => ⟨new.digest T, none, if new.supersedes.isNull then .ok else .lineageBroken, []⟩
  | some (priorCard, priorDigest) =>
      if !new.supersedes.pyEq (.str priorDigest) then
        ⟨new.digest T, some priorDigest, .lineageBroken, []⟩
      else if !new.nodeId.pyEq priorCard.nodeId then
        ⟨new.digest T, some priorDigest, .nodeIdMismatch, []⟩
      else if !(cardWidenedFields priorCard new).isEmpty then
        ⟨new.digest T, some priorDigest, .widened, cardWidenedFields priorCard new⟩
      else ⟨new.digest T, some priorDigest, .ok, []⟩

structure CardConsistencyResult where
  entries : List ExchangeCardVerdict
  cardTransitions : List CardTransitionVerdict

def CardConsistencyResult.ok (result : CardConsistencyResult) : Bool :=
  (result.entries.all fun e => e.status ≠ .broken) &&
    result.cardTransitions.all fun t => t.status = .ok

/-! ## The walk -/

/-- What `card_consistency` holds between two lines. -/
structure Walk where
  result : CardConsistencyResult
  current : Option (Card × String)

def Walk.start : Walk := ⟨⟨[], []⟩, none⟩

def Walk.addEntry (walk : Walk) (entry : ExchangeCardVerdict) : Walk :=
  { walk with result := { walk.result with entries := walk.result.entries ++ [entry] } }

def Walk.enterCard (T : Tools) (walk : Walk) (card : Card) : Walk :=
  ⟨{ walk.result with
      cardTransitions :=
        walk.result.cardTransitions ++ [verifyCardTransition T walk.current card] },
    some (card, card.digest T)⟩

/-- The verdict on an exchange, with the card in effect. -/
def exchangeVerdict (T : Tools) (current : Option (Card × String)) (claims : ExchangeClaims)
    (exchangeDigest : Json) : Py ExchangeCardVerdict :=
  match current with
  | none => .ok ⟨exchangeDigest, none, .noCardSealed, []⟩
  | some (card, cardDigest) => do
      let comparison ← compareExchange T card claims
      return ⟨exchangeDigest, some cardDigest, comparison.status, comparison.mismatches⟩

def walkLine (T : Tools) (walk : Walk) (line : Json) : Py Walk := do
  match ← cardFromLedgerLine line with
  | some (card, _) => return walk.enterCard T card
  | none =>
      match ← exchangeClaims line with
      | none => return walk
      | some claims =>
        return walk.addEntry
          (← exchangeVerdict T walk.current claims (← line.get "capsule_id"))

def walkLedger (T : Tools) (lines : List Json) : Py Walk := lines.foldlM (walkLine T) .start

def cardConsistency (T : Tools) (lines : List Json) : Py CardConsistencyResult := do
  return (← walkLedger T lines).result

/-! ## Round trip of a card -/

theorem Card.fromValue_toValue (card : Card) : Card.fromValue card.toValue = .ok card := by
  have hmodels : (card.models.map ModelRef.toValue).mapM ModelRef.fromValue = .ok card.models := by
    rw [Py.mapM_eq_ok, List.map_map]
    rfl
  have hiter : ((Json.arr (card.models.map ModelRef.toValue)).or (.arr [])).iter =
      .ok (card.models.map ModelRef.toValue) := by
    cases card.models <;> rfl
  have hget : card.toValue.get "models" = .ok (.arr (card.models.map ModelRef.toValue)) := rfl
  simp only [Card.fromValue, hget, Py.ok_bind, hiter, hmodels]
  rfl

/-! ## The walk and the last card -/

theorem walkLedger_concat_eq_ok {T : Tools} {lines : List Json} {line : Json} {walk' : Walk} :
    walkLedger T (lines ++ [line]) = .ok walk' ↔
      ∃ walk, walkLedger T lines = .ok walk ∧ walkLine T walk line = .ok walk' := by
  rw [walkLedger, List.foldlM_append, Py.bind_eq_ok]
  simp only [List.foldlM_cons, List.foldlM_nil, bind_pure]
  rfl

/-- What the walk does at a line: a card, neither, or an exchange. -/
theorem walkLine_eq_ok {T : Tools} {walk walk' : Walk} {line : Json} :
    walkLine T walk line = .ok walk' ↔
      (∃ card capsuleId, cardFromLedgerLine line = .ok (some (card, capsuleId)) ∧
        walk' = walk.enterCard T card) ∨
      (cardFromLedgerLine line = .ok none ∧ exchangeClaims line = .ok none ∧ walk' = walk) ∨
      (cardFromLedgerLine line = .ok none ∧ ∃ claims capsuleId entry,
        exchangeClaims line = .ok (some claims) ∧ line.get "capsule_id" = .ok capsuleId ∧
        exchangeVerdict T walk.current claims capsuleId = .ok entry ∧
        walk' = walk.addEntry entry) := by
  constructor
  · intro h
    obtain ⟨found, hfound, h⟩ := Py.bind_eq_ok.mp h
    cases found with
    | some hit => exact .inl ⟨hit.1, hit.2, hfound, (Except.ok.inj h).symm⟩
    | none =>
        obtain ⟨claims, hclaims, h⟩ := Py.bind_eq_ok.mp h
        cases claims with
        | none => exact .inr (.inl ⟨hfound, hclaims, (Except.ok.inj h).symm⟩)
        | some claims =>
          obtain ⟨capsuleId, hid, h⟩ := Py.bind_eq_ok.mp h
          obtain ⟨entry, hentry, h⟩ := Py.bind_eq_ok.mp h
          exact .inr (.inr ⟨hfound, claims, capsuleId, entry, hclaims, hid, hentry,
            (Except.ok.inj h).symm⟩)
  · rintro (⟨card, capsuleId, hfound, rfl⟩ | ⟨hfound, hclaims, rfl⟩ |
      ⟨hfound, claims, capsuleId, entry, hclaims, hid, hentry, rfl⟩)
    · exact Py.bind_eq_ok.mpr ⟨_, hfound, rfl⟩
    · exact Py.bind_eq_ok.mpr ⟨_, hfound, Py.bind_eq_ok.mpr ⟨_, hclaims, rfl⟩⟩
    · apply Py.bind_eq_ok.mpr ⟨_, hfound, ?_⟩
      apply Py.bind_eq_ok.mpr ⟨_, hclaims, ?_⟩
      apply Py.bind_eq_ok.mpr ⟨_, hid, ?_⟩
      exact Py.bind_eq_ok.mpr ⟨_, hentry, rfl⟩

/-- The card that the walk holds is the one that `latest_card` finds. -/
theorem latestCard_of_walk {T : Tools} {lines : List Json} {walk : Walk}
    (h : walkLedger T lines = .ok walk) :
    ∃ found, latestCard T lines = .ok found ∧ found.map (fun f => (f.1, f.2.1)) = walk.current := by
  suffices hkeep : ∃ found, lines.foldlM keepLatest none = .ok found ∧
      found.map (fun f => (f.1, f.1.digest T)) = walk.current by
    obtain ⟨found, hfound, hcurrent⟩ := hkeep
    refine ⟨found.map fun f => (f.1, f.1.digest T, f.2), ?_, ?_⟩
    · rw [latestCard, hfound]
      rfl
    · rw [Option.map_map]
      exact hcurrent
  induction lines using List.reverseRecOn generalizing walk with
  | nil =>
      obtain rfl := Except.ok.inj h
      exact ⟨none, rfl, rfl⟩
  | append_singleton lines line ih =>
      obtain ⟨before, hbefore, hline⟩ := walkLedger_concat_eq_ok.mp h
      obtain ⟨found, hfound, hcurrent⟩ := ih hbefore
      have hconcat : ∀ {hit}, cardFromLedgerLine line = .ok hit →
          (lines ++ [line]).foldlM keepLatest none = .ok (hit.or found) := by
        intro hit hhit
        rw [List.foldlM_append, hfound, Py.ok_bind]
        simp only [List.foldlM_cons, List.foldlM_nil, bind_pure, keepLatest, hhit, Py.ok_bind]
        rfl
      rcases walkLine_eq_ok.mp hline with ⟨card, capsuleId, hhit, rfl⟩ | ⟨hhit, -, rfl⟩ |
        ⟨hhit, _, _, _, -, -, -, rfl⟩
      · exact ⟨_, hconcat hhit, rfl⟩
      · exact ⟨_, hconcat hhit, hcurrent⟩
      · exact ⟨_, hconcat hhit, hcurrent⟩

/-- An exchange with these claims finds no fault with the last card of the lines before it. -/
def AgreesWithLatest (T : Tools) (before : List Json) (claims : ExchangeClaims) : Prop :=
  ∃ found comparison, latestCard T before = .ok (some found) ∧
    compareExchange T found.1 claims = .ok comparison ∧ comparison.mismatches = []

/-- Verdicts are only added. -/
theorem walkLine_prefixes {T : Tools} {walk walk' : Walk} {line : Json}
    (h : walkLine T walk line = .ok walk') :
    walk.result.entries <+: walk'.result.entries ∧
      walk.result.cardTransitions <+: walk'.result.cardTransitions := by
  rcases walkLine_eq_ok.mp h with ⟨_, _, -, rfl⟩ | ⟨-, -, rfl⟩ | ⟨-, _, _, _, -, -, -, rfl⟩
  · exact ⟨List.prefix_rfl, List.prefix_append _ _⟩
  · exact ⟨List.prefix_rfl, List.prefix_rfl⟩
  · exact ⟨List.prefix_append _ _, List.prefix_rfl⟩

/-- The walk over the first lines of a ledger is where the whole walk passes. -/
theorem walkLedger_of_prefix {T : Tools} {first lines : List Json} {walk' : Walk}
    (hpre : first <+: lines) (h : walkLedger T lines = .ok walk') :
    ∃ walk, walkLedger T first = .ok walk ∧ walk.result.entries <+: walk'.result.entries ∧
      walk.result.cardTransitions <+: walk'.result.cardTransitions := by
  obtain ⟨rest, rfl⟩ := hpre
  induction rest using List.reverseRecOn generalizing walk' with
  | nil =>
      rw [List.append_nil] at h
      exact ⟨walk', h, List.prefix_rfl, List.prefix_rfl⟩
  | append_singleton rest line ih =>
      rw [← List.append_assoc] at h
      obtain ⟨before, hbefore, hline⟩ := walkLedger_concat_eq_ok.mp h
      obtain ⟨walk, hwalk, hentries, htransitions⟩ := ih hbefore
      obtain ⟨hentry, htransition⟩ := walkLine_prefixes hline
      exact ⟨walk, hwalk, hentries.trans hentry, htransitions.trans htransition⟩

/-- The entry of an exchange is about the card that `latest_card` finds in the lines before. -/
theorem agreesWithLatest_of_entries {T : Tools} {lines : List Json} {walk : Walk}
    (h : walkLedger T lines = .ok walk)
    (hentries : ∀ e ∈ walk.result.entries, e.status ≠ .noCardSealed ∧ e.mismatches = [])
    {before : List Json} {line : Json} {claims : ExchangeClaims}
    (hpre : before ++ [line] <+: lines) (hcard : cardFromLedgerLine line = .ok none)
    (hclaims : exchangeClaims line = .ok (some claims)) : AgreesWithLatest T before claims := by
  obtain ⟨after, hafter, hentry, -⟩ := walkLedger_of_prefix hpre h
  obtain ⟨earlier, hearlier, hline⟩ := walkLedger_concat_eq_ok.mp hafter
  obtain ⟨found, hfound, hcurrent⟩ := latestCard_of_walk hearlier
  simp only [walkLine, hcard, hclaims, Py.ok_bind] at hline
  obtain ⟨capsuleId, -, hline⟩ := Py.bind_eq_ok.mp hline
  obtain ⟨entry, hverdict, hline⟩ := Py.bind_eq_ok.mp hline
  obtain rfl := Except.ok.inj hline
  have hgood := hentries entry (hentry.subset (by simp [Walk.addEntry]))
  rw [← hcurrent] at hverdict
  cases found with
  | none =>
      obtain rfl := Except.ok.inj hverdict
      exact absurd rfl hgood.1
  | some found =>
      obtain ⟨comparison, hcomparison, hverdict⟩ := Py.bind_eq_ok.mp hverdict
      obtain rfl := Except.ok.inj hverdict
      exact ⟨found, comparison, hfound, hcomparison, hgood.2⟩

end CapsuleMesh.JoinCard
