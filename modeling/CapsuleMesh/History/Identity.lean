import CapsuleMesh.History.Forks
import CapsuleMesh.Python.Equality

/-!
# Whose history an accepted card tells

The verifier reads the identity off the JSON of the first line.  The statements it
checks are those of the links; neither the key that a statement verifies under nor
the statement of the first covered line enters the comparison.  So the card that
the lines themselves rebuild into is always accepted.
-/

namespace CapsuleMesh.History

open Python

/-- The lines a card with this boundary covers. -/
def covered (lines : List CheckpointLine) (sinceSize : Int) : List CheckpointLine :=
  (boundaryOf lines sinceSize).toList ++ inRange lines sinceSize

/-- The line carries a statement that verifies under a key of this node id. -/
def SignedAs (lib : Library) (nodeId : Json) (line : CheckpointLine) : Prop :=
  ∃ hex coseBytes decoded, line.checkpointCose = some hex ∧ bytesFromHex hex = .ok coseBytes ∧
    lib.verifyCheckpointCoseOffline coseBytes = .ok decoded ∧
    nodeId = .str (nodeIdFromKeyId decoded.keyId)

/-- The line's JSON names this identity. -/
def NamedAs (identity : Json × Json) (line : CheckpointLine) : Prop :=
  chainIdentity line = identity

def Accepts (lib : Library) (card : Json) (lines : List CheckpointLine) : Prop :=
  ∃ errors, verifyHistoryCard lib card lines = .ok ⟨true, errors⟩

/-- Every card accepted over these lines with this boundary has the node id of the
key that signs each covered line, and no covered line names another identity. -/
def BindsIdentity (lib : Library) (lines : List CheckpointLine) (sinceSize : Int) : Prop :=
  ∀ card since nodeId logId, Accepts lib card lines → claimed card = .ok (since, nodeId, logId) →
    sinceSizeOf since = .ok sinceSize →
    ∀ line ∈ covered lines sinceSize, SignedAs lib nodeId line ∧ NamedAs (nodeId, logId) line

/-- The lines rebuild into a card that passes its own account check. -/
def Rebuilds (lib : Library) (identity : Json × Json) (lines : List CheckpointLine)
    (sinceSize : Int) : Prop :=
  ∃ card, buildHistoryCard lib identity.1 identity.2 lines sinceSize = .ok card ∧
    card.verify lib = true

/-! ## What acceptance means -/

theorem withEnrichment_verify {lib : Library} {card : Json} {built recomputed : HistoryCard}
    (h : withEnrichment card built = .ok recomputed) :
    recomputed.verify lib = built.verify lib := by
  simp only [withEnrichment, Py.bind_eq_ok] at h
  obtain ⟨_, -, _, -, _, -, _, -, _, -, _, -, _, -, _, -, _, -, _, -, h⟩ := h
  obtain rfl := Except.ok.inj h
  rfl

theorem comparisonErrors_nil {lib : Library} {card : Json} {recomputed : HistoryCard}
    (h : comparisonErrors lib card recomputed = .ok []) : recomputed.verify lib = true := by
  simp only [comparisonErrors] at h
  split at h
  · by_contra hverify
    simp [hverify] at h
  · obtain ⟨published, -, h⟩ := Py.bind_eq_ok.mp h
    simp at h

theorem recomputeAndMatch_true {lib : Library} {card nodeId logId : Json}
    {lines : List CheckpointLine} {sinceSize : Int} {errors : List String}
    (h : recomputeAndMatch lib card nodeId logId lines sinceSize = .ok ⟨true, errors⟩) :
    Rebuilds lib (nodeId, logId) lines sinceSize := by
  unfold recomputeAndMatch at h
  split at h
  · simp at h
  · cases h
  · next built hbuilt =>
      obtain ⟨recomputed, henrich, h⟩ := Py.bind_eq_ok.mp h
      obtain ⟨found, hfound, h⟩ := Py.bind_eq_ok.mp h
      obtain ⟨hnil, -⟩ := HistoryVerifyResult.mk.inj (Except.ok.inj h)
      obtain rfl : found = [] := by simpa using hnil
      refine ⟨built, hbuilt, ?_⟩
      rw [← withEnrichment_verify henrich]
      exact comparisonErrors_nil hfound

theorem identityErrors_nil {claimedNodeId claimedLogId chainNodeId chainLogId : Json}
    (h : (identityErrors claimedNodeId claimedLogId chainNodeId chainLogId).isEmpty = true) :
    claimedNodeId.pyEq chainNodeId = true ∧ claimedLogId.pyEq chainLogId = true := by
  unfold identityErrors at h
  split_ifs at h with hlog hnode
  · exact ⟨hnode, hlog⟩
  all_goals simp at h

theorem eq_chainIdentity {line : CheckpointLine} {nodeId logId : Json}
    (hnode : nodeId.pyEq (chainIdentity line).1 = true)
    (hlog : logId.pyEq (chainIdentity line).2 = true) : (nodeId, logId) = chainIdentity line := by
  have hlog := Json.eq_str_of_pyEq hlog
  have hnode : nodeId = (chainIdentity line).1 := by
    simp only [chainIdentity] at hnode ⊢
    split at hnode
    · exact Json.eq_str_of_pyEq hnode
    · exact Json.eq_null_of_pyEq hnode
  rw [hnode, hlog]
  rfl

/-- An accepted card claims the first line's identity, and the lines rebuild. -/
theorem accepts_cons {lib : Library} {card since nodeId logId : Json} {first : CheckpointLine}
    {rest : List CheckpointLine} {sinceSize : Int} (h : Accepts lib card (first :: rest))
    (hclaimed : claimed card = .ok (since, nodeId, logId))
    (hsince : sinceSizeOf since = .ok sinceSize) :
    (nodeId, logId) = chainIdentity first ∧
      Rebuilds lib (chainIdentity first) (first :: rest) sinceSize := by
  obtain ⟨errors, h⟩ := h
  simp only [verifyHistoryCard, hclaimed] at h
  split at h
  · next hempty =>
      obtain ⟨hnode, hlog⟩ := identityErrors_nil hempty
      rw [hsince, Py.ok_bind] at h
      exact ⟨eq_chainIdentity hnode hlog, recomputeAndMatch_true h⟩
  · simp at h

/-! ## The rebuilt card is accepted -/

/-- The fields outside the walk that a freshly built card has. -/
def HistoryCard.Fresh (card : HistoryCard) : Prop :=
  card.reconciledWith = .int 0 ∧ card.forksObserved = .int 0 ∧
    card.forksState = .str FORKS_STATE_ABSENT ∧ card.referencesAsked = .int 0 ∧
    card.referencesAnswered = .int 0 ∧ card.adjudicationsAboutX = [] ∧
    card.ackRefusalsAboutX = .int 0

theorem cadence_regular {lib : Library} {checkpoints : List CheckpointLine}
    {stats : List (String × Json)} (h : cadence lib checkpoints = .ok stats) :
    (Json.obj stats).regular = true := by
  unfold cadence at h
  split at h
  · obtain rfl := Except.ok.inj h
    simp [Json.regular, Json.regularMembers]
  · obtain ⟨found, -, h⟩ := Py.bind_eq_ok.mp h
    obtain rfl := Except.ok.inj h
    simp [Json.regular, Json.regularMembers]

/-- What a card is built with. -/
theorem build_inv {lib : Library} {nodeId logId : Json} {lines : List CheckpointLine}
    {sinceSize : Int} {card : HistoryCard}
    (h : buildHistoryCard lib nodeId logId lines sinceSize = .ok card) :
    card.nodeId = nodeId ∧ card.logId = logId ∧ card.sinceSize = sinceSize ∧ card.Fresh ∧
      (Json.obj card.properties.cadence).regular = true := by
  unfold buildHistoryCard at h
  dsimp only at h
  split_ifs at h
  · obtain rfl := Except.ok.inj h
    exact ⟨rfl, rfl, rfl, ⟨rfl, rfl, rfl, rfl, rfl, rfl, rfl⟩, rfl⟩
  · obtain ⟨stats, hstats, h⟩ := Py.bind_eq_ok.mp h
    obtain rfl := Except.ok.inj h
    exact ⟨rfl, rfl, rfl, ⟨rfl, rfl, rfl, rfl, rfl, rfl, rfl⟩, cadence_regular hstats⟩

theorem withEnrichment_fresh {lib : Library} {card : HistoryCard} (h : card.Fresh) :
    withEnrichment (card.toValue lib) card = .ok card := by
  obtain ⟨h1, h2, h3, h4, h5, h6, h7⟩ := h
  obtain ⟨nodeId, logId, sinceSize, start, stop, properties, count, witnesses, witnessed, rw, fo,
    fs, ra, rs, ad, ar⟩ := card
  simp only at h1 h2 h3 h4 h5 h6 h7
  subst h1 h2 h3 h4 h5 h6 h7
  rfl

theorem regularElems_strs (texts : List String) :
    Json.regularElems (texts.map Json.str) = true := by
  induction texts with
  | nil => rfl
  | cons text texts ih => simpa [Json.regularElems, Json.regular] using ih

theorem refValue_regular (ref : Option CheckpointRef) : (refValue ref).regular = true := by
  cases ref <;> simp [refValue, CheckpointRef.toValue, Json.regular, Json.regularMembers]

/-- The value of a card is regular when its identity and its cadence are. -/
theorem toValue_regular {lib : Library} {card : HistoryCard} (hfresh : card.Fresh)
    (hnode : card.nodeId.regular = true) (hlog : card.logId.regular = true)
    (hcadence : (Json.obj card.properties.cadence).regular = true) :
    (card.toValue lib).regular = true := by
  obtain ⟨h1, h2, h3, h4, h5, h6, h7⟩ := hfresh
  have hproperties : card.properties.toValue.regular = true := by
    simp [HistoryProperties.toValue, Json.regular, Json.regularMembers] at hcadence ⊢
    exact hcadence
  -- the notes are not put together: the kernel is slow at it
  simp [-String.reduceAppend, HistoryCard.toValue, Json.regular, Json.regularMembers, h1, h2, h3,
    h4, h5, h6, h7, hnode, hlog, hproperties, refValue_regular, regularElems_strs]
  split <;> rfl

theorem chainIdentity_regular (line : CheckpointLine) :
    (chainIdentity line).1.regular = true ∧ (chainIdentity line).2.regular = true := by
  refine ⟨?_, rfl⟩
  simp only [chainIdentity]
  split <;> rfl

theorem identityErrors_self {nodeId logId : Json} (hnode : nodeId.regular = true)
    (hlog : logId.regular = true) : identityErrors nodeId logId nodeId logId = [] := by
  simp [identityErrors, Json.pyEq_self hnode, Json.pyEq_self hlog]

theorem claimed_toValue (lib : Library) (card : HistoryCard) :
    claimed (card.toValue lib) = .ok (.int card.sinceSize, card.nodeId, card.logId) := rfl

theorem accepts_rebuilt {lib : Library} {first : CheckpointLine} {rest : List CheckpointLine}
    {sinceSize : Int} {card : HistoryCard}
    (hcard : buildHistoryCard lib (chainIdentity first).1 (chainIdentity first).2 (first :: rest)
      sinceSize = .ok card) (hverify : card.verify lib = true) :
    Accepts lib (card.toValue lib) (first :: rest) := by
  obtain ⟨hnode, hlog, hsince, hfresh, hcadence⟩ := build_inv hcard
  obtain ⟨hnodeReg, hlogReg⟩ := chainIdentity_regular first
  have hvalue : (card.toValue lib).regular = true :=
    toValue_regular hfresh (by rw [hnode]; exact hnodeReg) (by rw [hlog]; exact hlogReg) hcadence
  have hcompare : comparisonErrors lib (card.toValue lib) card = .ok [] := by
    simp [comparisonErrors, hverify, Json.pyEq_self hvalue]
  refine ⟨[], ?_⟩
  simp only [verifyHistoryCard, claimed_toValue, hnode, hlog, hsince,
    identityErrors_self hnodeReg hlogReg, List.isEmpty_nil, if_true, sinceSizeOf, Json.asInt,
    Py.ok_bind, recomputeAndMatch, hcard, withEnrichment_fresh hfresh, hcompare]
  rfl

/-- The verifier binds the identity over given lines exactly when the lines, if they
rebuild at all, are all signed and named as the first line says. -/
theorem bindsIdentity_iff_signedAsNamed (lib : Library) (lines : List CheckpointLine)
    (sinceSize : Int) :
    BindsIdentity lib lines sinceSize ↔
      ∀ first rest, lines = first :: rest → Rebuilds lib (chainIdentity first) lines sinceSize →
        ∀ line ∈ covered lines sinceSize,
          SignedAs lib (chainIdentity first).1 line ∧ NamedAs (chainIdentity first) line := by
  constructor
  · rintro h first rest rfl ⟨card, hcard, hverify⟩ line hline
    obtain ⟨hnode, hlog, hsince, -, -⟩ := build_inv hcard
    have hline := h (card.toValue lib) _ _ _ (accepts_rebuilt hcard hverify)
      (claimed_toValue lib card) (by rw [hsince]; rfl) line hline
    rwa [hnode, hlog] at hline
  · intro h card since nodeId logId haccepts hclaimed hsince line hline
    cases lines with
    | nil => simp [covered, boundaryOf, atBoundary, inRange] at hline
    | cons first rest =>
        obtain ⟨hidentity, hrebuilds⟩ := accepts_cons haccepts hclaimed hsince
        have hline := h first rest rfl hrebuilds line hline
        rw [← hidentity] at hline
        exact hline

/-- One genesis line under a foreign key id, without any statement: the card it
rebuilds into is accepted. -/
theorem unsigned_genesis_accepted :
    ∃ card, Accepts (plainLibrary ⟨1, "r1", 0, "", "key"⟩) card [plainLine 1 0 "r1" none] ∧
      claimed card = .ok (.int 0, .str "node:key", .str "log") ∧
      ¬ BindsIdentity (plainLibrary ⟨1, "r1", 0, "", "key"⟩) [plainLine 1 0 "r1" none] 0 := by
  obtain ⟨card, hcard, hverify⟩ : Rebuilds (plainLibrary ⟨1, "r1", 0, "", "key"⟩)
      (chainIdentity (plainLine 1 0 "r1" none)) [plainLine 1 0 "r1" none] 0 := ⟨_, rfl, rfl⟩
  obtain ⟨hnode, hlog, hsince, -, -⟩ := build_inv hcard
  have hclaimed := claimed_toValue (plainLibrary ⟨1, "r1", 0, "", "key"⟩) card
  rw [hnode, hlog, hsince] at hclaimed
  refine ⟨card.toValue _, accepts_rebuilt hcard hverify, hclaimed, ?_⟩
  intro h
  obtain ⟨⟨hex, _, _, hhex, -⟩, -⟩ := h _ _ _ _ (accepts_rebuilt hcard hverify) hclaimed rfl
    (plainLine 1 0 "r1" none) (by decide)
  cases hhex

end CapsuleMesh.History
