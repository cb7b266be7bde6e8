import CapsuleMesh.Evidence.NeverRaises

/-!
# The checkpoints of an answer

`answer_checkpoints` of `ask_history.py`: the statements that a `checkpoints` artifact lists, read one
by one, and what has to hold of the list before it is a chain.
-/

namespace CapsuleMesh.AskHistory

open Python Evidence

def NO_CHECKPOINTS_CARRIED : String := "the artifact carries no checkpoints"

/-- A later checkpoint that extends the one before it. -/
def ExtendsListed (prev next : CarriedCheckpoint) : Prop :=
  next.record.prevSize = prev.record.mmrSize ∧ next.record.prevRoot = prev.record.root ∧
    next.record.logId = prev.record.logId ∧ prev.record.mmrSize < next.record.mmrSize

instance : DecidableRel ExtendsListed := fun _ _ => inferInstanceAs (Decidable (_ ∧ _ ∧ _ ∧ _))

/-- The octets that an item of a list states, under a member of it if there is one to look in. -/
def statementOf (item : Json) (member : Option String) : Py Bytes := do
  let text ← (match member with
    | none => .ok item
    | some member => item.item member : Py Json)
  match text with
  | .str hex => bytesFromHex hex
  | _ => .error .typeError

/-- The artifact names this checkpoint as its anchor, and its log as the stream. -/
def namesAnchor (body : List (String × Json)) (anchor : CarriedCheckpoint) : Bool :=
  ((body.lookup "anchor").getD .null).pyEq (.str anchor.digest) &&
    ((body.lookup "evidence_stream").getD .null).pyEq (.str anchor.record.logId)

section

variable (T : EvidenceTools)

/-- `_listed`, from the item at `i` on. -/
def listedFrom (envelope : Envelope) (member : Option String) (i : ℕ) :
    List Json → Py (Found (List CarriedCheckpoint))
  | [] => .ok (.ok [])
  | item :: items =>
      match statementOf item member with
      | .error _ => .ok (.error ("checkpoint " ++ toString i ++ " is malformed"))
      | .ok statement => do
        match ← stated T statement envelope with
        | none => return .error ("checkpoint " ++ toString i ++
            " is not the responder's, or does not verify")
        | some cp =>
          match ← listedFrom envelope member (i + 1) items with
          | .error problem => return .error problem
          | .ok listed => return .ok (cp :: listed)

/-- `_check_chain`. -/
def checkChain (reply : Reply) (envelope : Envelope) (listed : List CarriedCheckpoint)
    (body : List (String × Json)) : Py (List String) :=
  match listed.head?, listed.getLast? with
  | some first, some last =>
      .ok <|
        if first.record.prevSize ≠ 0 ∨ first.record.prevRoot ≠ "" then
          ["the checkpoint list does not start the stream"]
        else if ¬listed.IsChain ExtendsListed then
          ["a checkpoint does not extend the one listed before it"]
        else if !namesAnchor body last then
          ["the artifact names another anchor or stream than its last checkpoint's"]
        else if envelope.anchorDigest ≠ last.digest then
          ["the last checkpoint is not the envelope's anchor"]
        else
          let coverage := checkCoverage T reply.request envelope last []
          if coverage.isEmpty then checkReceipts T reply listed else coverage
  | _, _ => .error .indexError

/-- `answer_checkpoints`; the receipts are attached once they have been checked. -/
def answerCheckpoints (reply : Reply) : Py (List CarriedCheckpoint × List String) :=
  let body := bodyMembers reply
  match reply.envelope, body.lookup "checkpoints" with
  | some envelope, some (.arr statements) =>
      if statements.isEmpty ∨ MAX_ITEMS < statements.length then
        .ok ([], [NO_CHECKPOINTS_CARRIED])
      else if !((body.lookup "subject").getD .null).pyEq envelope.subject.toWire ||
          (body.lookup "derivation").isSome then
        .ok ([], ["the artifact is for another subject"])
      else do
        match ← listedFrom T envelope none 0 statements with
        | .error problem => return ([], [problem])
        | .ok listed =>
          let problems ← checkChain T reply envelope listed body
          return (if problems.isEmpty then listed.map (CarriedCheckpoint.attach reply) else listed,
            problems)
  | _, _ => .ok ([], [NO_CHECKPOINTS_CARRIED])

end

/-! ## What a chain without problems is -/

section

variable {T : EvidenceTools}

/-- The statement verifies under the key of the responder, and says this. -/
def StatedBy (T : EvidenceTools) (envelope : Envelope) (item : Json) (cp : CarriedCheckpoint) : Prop :=
  ∃ statement decoded, statementOf item none = .ok statement ∧
    T.verifyCheckpoint statement = some decoded ∧ decoded.keyId = envelope.responder ∧
      cp.record = decoded.record ∧ cp.digest = T.sha256Hex statement ∧ cp.statement = statement

theorem servedCheckpoint_eq_ok {statement : Bytes} {cp : CarriedCheckpoint} {keyId : String}
    (h : servedCheckpoint T statement = .ok (some (cp, keyId))) :
    ∃ decoded, T.verifyCheckpoint statement = some decoded ∧ keyId = decoded.keyId ∧
      cp.record = decoded.record ∧ cp.digest = T.sha256Hex statement ∧ cp.statement = statement := by
  unfold servedCheckpoint at h
  split at h
  next => cases h
  next decoded hverified =>
      split at h
      next =>
          obtain ⟨peaks, -, h⟩ := Py.bind_eq_ok.mp h
          obtain ⟨prevPeaks, -, h⟩ := Py.bind_eq_ok.mp h
          obtain ⟨rfl, rfl⟩ := Prod.mk.inj (Option.some.inj (Except.ok.inj h))
          exact ⟨decoded, hverified, rfl, rfl, rfl, rfl⟩
      next => cases h

theorem statedBy_of_stated {envelope : Envelope} {item : Json} {statement : Bytes}
    {cp : CarriedCheckpoint} (hitem : statementOf item none = .ok statement)
    (h : stated T statement envelope = .ok (some cp)) : StatedBy T envelope item cp := by
  obtain ⟨found, hfound, h⟩ := Py.bind_eq_ok.mp h
  obtain ⟨⟨served, keyId⟩, rfl, hserved⟩ := Option.bind_eq_some_iff.mp (Except.ok.inj h)
  split at hserved
  next hkey =>
      obtain rfl := Option.some.inj hserved
      obtain ⟨decoded, hverified, rfl, hrecord, hdigest, hstatement⟩ := servedCheckpoint_eq_ok hfound
      exact ⟨statement, decoded, hitem, hverified, hkey, hrecord, hdigest, hstatement⟩
  next => cases hserved

theorem listedFrom_eq_ok {envelope : Envelope} {i : ℕ} {items : List Json}
    {listed : List CarriedCheckpoint} (h : listedFrom T envelope none i items = .ok (.ok listed)) :
    List.Forall₂ (StatedBy T envelope) items listed := by
  induction items generalizing i listed with
  | nil =>
      obtain rfl := Except.ok.inj (Except.ok.inj h)
      exact .nil
  | cons item items ih =>
      rw [listedFrom] at h
      cases hitem : statementOf item none with
      | error e =>
        rw [hitem] at h
        cases h
      | ok statement =>
        rw [hitem] at h
        obtain ⟨found, hstated, h⟩ := Py.bind_eq_ok.mp h
        cases found with
        | none => cases h
        | some cp =>
          obtain ⟨rest, hrest, h⟩ := Py.bind_eq_ok.mp h
          cases rest with
          | error problem => cases h
          | ok rest =>
            obtain rfl := Except.ok.inj (Except.ok.inj h)
            exact .cons (statedBy_of_stated hitem hstated) (ih hrest)

/-- The list starts the stream, is linked, and ends at the anchor of the envelope. -/
structure AnchoredChain (envelope : Envelope) (listed : List CarriedCheckpoint) : Prop where
  starts : ∃ first ∈ listed.head?, first.record.prevSize = 0 ∧ first.record.prevRoot = ""
  linked : listed.IsChain ExtendsListed
  anchored : ∃ last ∈ listed.getLast?, last.digest = envelope.anchorDigest

theorem checkChain_eq_nil {reply : Reply} {envelope : Envelope} {listed : List CarriedCheckpoint}
    {body : List (String × Json)} (h : checkChain T reply envelope listed body = .ok []) :
    AnchoredChain envelope listed := by
  unfold checkChain at h
  split at h
  next first last hfirst hlast =>
      have hnone := Except.ok.inj h
      split at hnone
      next => cases hnone
      next hstarts =>
          split at hnone
          next => cases hnone
          next hlinked =>
              split at hnone
              next => cases hnone
              next =>
                  split at hnone
                  next => cases hnone
                  next hanchored =>
                      rw [not_or, not_not, not_not] at hstarts
                      refine ⟨⟨first, hfirst, hstarts⟩, not_not.mp hlinked, last, hlast, ?_⟩
                      exact (not_not.mp hanchored).symm
  next => cases h

/-- Attaching the receipts leaves a chain what it was. -/
theorem AnchoredChain.attach {envelope : Envelope} {listed : List CarriedCheckpoint}
    (h : AnchoredChain envelope listed) (reply : Reply) :
    AnchoredChain envelope (listed.map (CarriedCheckpoint.attach reply)) where
  starts := by
    obtain ⟨first, hfirst, hstarts⟩ := h.starts
    refine ⟨first.attach reply, ?_, hstarts⟩
    rw [List.head?_map]
    exact Option.mem_map_of_mem _ hfirst
  linked := by
    rw [List.isChain_map]
    exact h.linked
  anchored := by
    obtain ⟨last, hlast, hanchored⟩ := h.anchored
    refine ⟨last.attach reply, ?_, hanchored⟩
    rw [List.getLast?_map]
    exact Option.mem_map_of_mem _ hlast

/-- The checkpoints of an answer without problems: each is stated by its item, and they are a chain. -/
structure ListedChain (T : EvidenceTools) (reply : Reply) (envelope : Envelope)
    (lines : List CarriedCheckpoint) : Prop where
  stated : ∃ statements, (bodyMembers reply).lookup "checkpoints" = some (.arr statements) ∧
    List.Forall₂ (StatedBy T envelope) statements lines
  chain : AnchoredChain envelope lines

theorem answerCheckpoints_eq_ok {reply : Reply} {lines : List CarriedCheckpoint}
    (h : answerCheckpoints T reply = .ok (lines, [])) :
    ∃ envelope, reply.envelope = some envelope ∧ ListedChain T reply envelope lines := by
  unfold answerCheckpoints at h
  simp only at h
  split at h
  next envelope statements henvelope hstatements =>
      split at h
      next => cases h
      next =>
          split at h
          next => cases h
          next =>
              obtain ⟨found, hfound, h⟩ := Py.bind_eq_ok.mp h
              cases found with
              | error problem => cases h
              | ok listed =>
                obtain ⟨problems, hproblems, h⟩ := Py.bind_eq_ok.mp h
                obtain ⟨rfl, rfl⟩ := Prod.mk.inj (Except.ok.inj h)
                refine ⟨envelope, henvelope, ⟨statements, hstatements, ?_⟩,
                  (checkChain_eq_nil hproblems).attach reply⟩
                change List.Forall₂ _ _ (listed.map _)
                rw [List.forall₂_map_right_iff]
                exact listedFrom_eq_ok hfound
  next => cases h

/-! ## It always returns -/

theorem listedFrom_returns (hT : T.Sized) (envelope : Envelope) (member : Option String) (i : ℕ)
    (items : List Json) :
    ∃ found, listedFrom T envelope member i items = .ok found ∧
      ∀ listed, found = .ok listed → listed.length = items.length := by
  induction items generalizing i with
  | nil =>
      refine ⟨.ok [], rfl, ?_⟩
      rintro _ ⟨⟩
      rfl
  | cons item items ih =>
      rw [listedFrom]
      cases statementOf item member with
      | error e => exact ⟨_, rfl, by simp⟩
      | ok statement =>
        obtain ⟨found, hfound, -⟩ := stated_returns hT statement envelope
        simp only
        rw [hfound, Py.ok_bind]
        cases found with
        | none => exact ⟨_, rfl, by simp⟩
        | some cp =>
          obtain ⟨rest, hrest, hlength⟩ := ih (i + 1)
          simp only
          rw [hrest, Py.ok_bind]
          cases rest with
          | error problem => exact ⟨_, rfl, by simp⟩
          | ok listed =>
            refine ⟨_, rfl, ?_⟩
            rintro _ ⟨⟩
            rw [List.length_cons, List.length_cons, hlength listed rfl]

theorem checkChain_returns {reply : Reply} {envelope : Envelope} {listed : List CarriedCheckpoint}
    {body : List (String × Json)} (hne : listed ≠ []) :
    ∃ problems, checkChain T reply envelope listed body = .ok problems := by
  rw [checkChain, List.head?_eq_some_head hne, List.getLast?_eq_some_getLast hne]
  exact ⟨_, rfl⟩

theorem answerCheckpoints_returns (hT : T.Sized) (reply : Reply) :
    ∃ answer, answerCheckpoints T reply = .ok answer := by
  unfold answerCheckpoints
  simp only
  split
  next envelope statements _ _ =>
      split
      next => exact ⟨_, rfl⟩
      next hsome =>
          split
          next => exact ⟨_, rfl⟩
          next =>
              obtain ⟨found, hfound, hlength⟩ := listedFrom_returns hT envelope none 0 statements
              rw [hfound, Py.ok_bind]
              cases found with
              | error problem => exact ⟨_, rfl⟩
              | ok listed =>
                have hne : listed ≠ [] := by
                  rintro rfl
                  apply hsome
                  have hnone := hlength [] rfl
                  left
                  rw [List.isEmpty_iff, List.eq_nil_iff_length_eq_zero, ← hnone, List.length_nil]
                obtain ⟨problems, hproblems⟩ :=
                  @checkChain_returns T reply envelope _ (bodyMembers reply) hne
                simp only
                rw [hproblems, Py.ok_bind]
                exact ⟨_, rfl⟩
  next => exact ⟨_, rfl⟩

end

end CapsuleMesh.AskHistory
