import CapsuleMesh.Account.AccountCapsule
import CapsuleMesh.Python.Equality

/-!
# Recomputing a served summary

The verifier rebuilds the summary from the records and the last checkpoint, under the node id
that the published value claims.  So nothing that it compares depends on whose chain it was given:
a summary that is accepted at all is accepted under every other id.
-/

namespace CapsuleMesh.Account

open Python Pane

/-! ## The verifier -/

/-- What the module takes from the account library. -/
structure AccountLibrary where
  definitionDigest : String
  verifyAccount : String → ℕ × ℕ → Json → Bool

/-- `ServedSummary.verify`: the account is checked against the claims it was made from. -/
def ServedSummary.verify (D : Doubles) (lib : AccountLibrary) (summary : ServedSummary D.F) :
    Py Bool :=
  if summary.coverageRoot = "" then .ok true
  else do
    let asserted ← byModelValue D summary.byModel
    return lib.verifyAccount summary.coverageRoot
      (summary.selectionFromEntry, summary.selectionToEntry) (.obj [("by_model", asserted)])

structure RecomputeVerifyResult where
  ok : Bool
  errors : List String

def verifyServedSummaryRecompute (D : Doubles) (leafCount : Int → Py ℕ) (lib : AccountLibrary)
    (summaryValue : Json) (capsuleRecords : List Json)
    (checkpointLines : List History.CheckpointLine) (sourceLog : SourceLog) :
    Py RecomputeVerifyResult :=
  match History.subscript summaryValue "node_id" with
  | .error text => .ok ⟨false, ["malformed summary: missing " ++ text]⟩
  | .ok nodeId => do
      let recomputed ← buildServedSummary D leafCount nodeId capsuleRecords
        checkpointLines.getLast? sourceLog
      let recomputedValue ← recomputed.toValue D lib.definitionDigest
      let mismatch := if recomputedValue.pyEq summaryValue then []
        else ["recomputed summary does not match the published summary"]
      let account := if ← recomputed.verify D lib then []
        else ["recomputed summary fails its own core-account recompute+match"]
      return ⟨(mismatch ++ account).isEmpty, mismatch ++ account⟩

/-! ## What acceptance means -/

variable {D : Doubles} {leafCount : Int → Py ℕ} {lib : AccountLibrary} {records : List Json}
  {lines : List History.CheckpointLine} {sourceLog : SourceLog}

def AcceptsSummary (D : Doubles) (leafCount : Int → Py ℕ) (lib : AccountLibrary)
    (records : List Json) (lines : List History.CheckpointLine) (sourceLog : SourceLog)
    (value : Json) : Prop :=
  ∃ result, verifyServedSummaryRecompute D leafCount lib value records lines sourceLog =
    .ok result ∧ result.ok = true

/-- The records make a summary under the id, the value equals its own, and its account holds. -/
def MatchesUnder (D : Doubles) (leafCount : Int → Py ℕ) (lib : AccountLibrary)
    (records : List Json) (lines : List History.CheckpointLine) (sourceLog : SourceLog)
    (nodeId value : Json) : Prop :=
  ∃ summary own, buildServedSummary D leafCount nodeId records lines.getLast? sourceLog =
      .ok summary ∧ summary.toValue D lib.definitionDigest = .ok own ∧ own.pyEq value = true ∧
    summary.verify D lib = .ok true

theorem acceptsSummary_iff {value : Json} :
    AcceptsSummary D leafCount lib records lines sourceLog value ↔
      ∃ nodeId, value.item "node_id" = .ok nodeId ∧
        MatchesUnder D leafCount lib records lines sourceLog nodeId value := by
  rw [AcceptsSummary, verifyServedSummaryRecompute, History.subscript]
  cases hitem : value.item "node_id" with
  | error e => simp
  | ok nodeId =>
      simp only [Py.bind_eq_ok, Py.pure_eq_ok, Except.ok.injEq, exists_eq_left']
      constructor
      · rintro ⟨result, ⟨summary, hsummary, own, hown, holds, hverify, rfl⟩, hok⟩
        simp only [List.isEmpty_iff, List.append_eq_nil_iff, ite_eq_left_iff] at hok
        refine ⟨summary, own, hsummary, hown, by simpa using hok.1, ?_⟩
        rw [hverify]
        simpa using hok.2
      · rintro ⟨summary, own, hsummary, hown, heq, hverify⟩
        exact ⟨_, ⟨summary, hsummary, own, hown, true, hverify, rfl⟩, by simp [heq]⟩

/-! ## The claimed id binds nothing -/

def ServedSummary.under {F : Type} (summary : ServedSummary F) (nodeId : Json) : ServedSummary F :=
  { summary with nodeId := nodeId }

theorem buildServedSummary_under {nodeId : Json} {cp : Option History.CheckpointLine}
    {summary : ServedSummary D.F}
    (h : buildServedSummary D leafCount nodeId records cp sourceLog = .ok summary) (other : Json) :
    buildServedSummary D leafCount other records cp sourceLog = .ok (summary.under other) ∧
      summary.nodeId = nodeId := by
  cases cp with
  | none =>
      obtain rfl := Except.ok.inj h
      exact ⟨rfl, rfl⟩
  | some cp =>
      obtain ⟨leaves, hleaves, h⟩ := Py.bind_eq_ok.mp h
      obtain ⟨own, hown, h⟩ := Py.bind_eq_ok.mp h
      obtain ⟨byModel, hfold, h⟩ := Py.bind_eq_ok.mp h
      obtain ⟨received, hreceived, h⟩ := Py.bind_eq_ok.mp h
      obtain rfl := Except.ok.inj h
      refine ⟨?_, rfl⟩
      simp only [buildServedSummary, hleaves, Py.ok_bind, hown, hfold, hreceived]
      rfl

/-- The id stands in the value as it was claimed, and nowhere else. -/
theorem toValue_under {summary : ServedSummary D.F} {digest : String} {value : Json}
    (h : summary.toValue D digest = .ok value) :
    ∃ rest, "node_id" ∉ rest.map Prod.fst ∧
      ∀ nodeId, (summary.under nodeId).toValue D digest =
        .ok (.obj (("schema", .str "mesh-served-summary/1") :: ("node_id", nodeId) :: rest)) := by
  obtain ⟨byModel, hbyModel, h⟩ := Py.bind_eq_ok.mp h
  have hvalue := Except.ok.inj h
  cases value with
  | obj members =>
      have hmembers := Json.obj.inj hvalue
      refine ⟨members.drop 2, ?_, fun nodeId => ?_⟩
      · rw [← hmembers]
        change "node_id" ∉ ["selection", "derivation", "coverage", "adjudications_received",
          "no_requester_identifiers", "not_a_score"]
        decide
      · rw [← hmembers]
        simp only [ServedSummary.toValue, ServedSummary.under, hbyModel, Py.ok_bind]
        rfl
  | _ => cases hvalue

theorem pyEqMembers_setMember {ms ns : List (String × Json)} (h : Json.pyEqMembers ms ns = true)
    {key : String} (hkey : key ∉ ms.map Prod.fst) (value : Json) :
    Json.pyEqMembers ms (Json.setMember key value ns) = true := by
  induction ms with
  | nil => rfl
  | cons m ms ih =>
      obtain ⟨k, a⟩ := m
      obtain ⟨hne, hnotin⟩ : key ≠ k ∧ key ∉ ms.map Prod.fst := by
        rwa [List.map_cons, List.mem_cons, not_or] at hkey
      rw [Json.pyEqMembers, Bool.and_eq_true] at h ⊢
      rw [Json.lookup_setMember_ne (Ne.symm hne)]
      exact ⟨h.1, ih h.2 hnotin⟩

theorem length_setMember {ns : List (String × Json)} {key : String} {found : Json}
    (h : ns.lookup key = some found) (value : Json) :
    (Json.setMember key value ns).length = ns.length := by
  induction ns with
  | nil => cases h
  | cons n ns ih =>
      obtain ⟨k, v⟩ := n
      rw [Json.setMember]
      split_ifs with hk
      · rfl
      · rw [List.lookup_cons, beq_false_of_ne (Ne.symm hk)] at h
        rw [List.length_cons, List.length_cons, ih h]

def renamed (nodeId : Json) : Json → Json
  | .obj members => .obj (Json.setMember "node_id" nodeId members)
  | value => value

/-- A value that the records match is matched under any other id that is put into it. -/
theorem MatchesUnder.renamed {nodeId value : Json}
    (h : MatchesUnder D leafCount lib records lines sourceLog nodeId value) (name : String) :
    MatchesUnder D leafCount lib records lines sourceLog (.str name) (renamed (.str name) value) ∧
      (Account.renamed (.str name) value).item "node_id" = .ok (.str name) := by
  obtain ⟨summary, own, hbuilt, hown, heq, hverify⟩ := h
  obtain ⟨hbuilt', rfl⟩ := buildServedSummary_under hbuilt (.str name)
  obtain ⟨rest, hrest, hvalue⟩ := toValue_under hown
  obtain rfl := Except.ok.inj (hown.symm.trans (hvalue summary.nodeId))
  rcases Json.pyEq_cases heq with ⟨h, -⟩ | ⟨_, h, -⟩ | ⟨_, _, h, -⟩ |
    ⟨ms, ns, h, rfl, hlength, hmembers⟩ | hnum
  · cases h
  · cases h
  · cases h
  · obtain rfl := Json.obj.inj h
    simp only [Json.pyEqMembers, Bool.and_eq_true] at hmembers
    obtain ⟨hschema, hnode, htail⟩ := hmembers
    obtain ⟨found, hfound⟩ : ∃ found, ns.lookup "node_id" = some found := by
      cases hlookup : ns.lookup "node_id" with
      | none => simp [hlookup] at hnode
      | some found => exact ⟨found, rfl⟩
    refine ⟨⟨summary.under (.str name), _, hbuilt', hvalue (.str name), ?_, hverify⟩, ?_⟩
    · rw [Account.renamed, Json.pyEq, length_setMember hfound, Bool.and_eq_true, decide_eq_true_iff]
      refine ⟨hlength, ?_⟩
      rw [Json.pyEqMembers, Json.pyEqMembers, Json.lookup_setMember_self,
        Json.lookup_setMember_ne (by decide), pyEqMembers_setMember htail hrest, hschema]
      simp [Json.pyEq]
    · rw [Account.renamed, Json.item]
      simp only [Json.lookup_setMember_self]
  · exact absurd (Json.isNumber_of_numEq hnum).1 Bool.false_ne_true

/-! ## When the id is pinned -/

/-- Every summary accepted over a chain that ends in this line has the node id that the line's
key derives. -/
def PinsNodeId (D : Doubles) (leafCount : Int → Py ℕ) (lib : AccountLibrary) (records : List Json)
    (before : List History.CheckpointLine) (last : History.CheckpointLine)
    (sourceLog : SourceLog) : Prop :=
  ∀ value, AcceptsSummary D leafCount lib records (before ++ [last]) sourceLog value →
    ∃ keyId, last.keyId = some keyId ∧
      value.item "node_id" = .ok (.str (History.nodeIdFromKeyId keyId))

/-- Some summary can be made of the records, equals some value and passes its account check. -/
def Recomputable (D : Doubles) (leafCount : Int → Py ℕ) (lib : AccountLibrary)
    (records : List Json) (lines : List History.CheckpointLine) (sourceLog : SourceLog) : Prop :=
  ∃ nodeId value, MatchesUnder D leafCount lib records lines sourceLog nodeId value

/-- The verifier pins the node id only where there is nothing for it to accept. -/
theorem pinsNodeId_iff (before : List History.CheckpointLine) (last : History.CheckpointLine) :
    PinsNodeId D leafCount lib records before last sourceLog ↔
      ¬Recomputable D leafCount lib records (before ++ [last]) sourceLog := by
  constructor
  · rintro hpins ⟨nodeId, value, hmatches⟩
    -- of two ids at most one is the derived one
    have hclaims : ∀ name : String, ∃ keyId, last.keyId = some keyId ∧
        name = History.nodeIdFromKeyId keyId := by
      intro name
      obtain ⟨hrenamed, hitem⟩ := hmatches.renamed name
      obtain ⟨keyId, hkeyId, hderived⟩ := hpins _ (acceptsSummary_iff.mpr ⟨_, hitem, hrenamed⟩)
      rw [hitem] at hderived
      exact ⟨keyId, hkeyId, Json.str.inj (Except.ok.inj hderived)⟩
    obtain ⟨keyId, hkeyId, hname⟩ := hclaims ""
    obtain ⟨keyId', hkeyId', hname'⟩ := hclaims "node:other"
    obtain rfl := Option.some.inj (hkeyId.symm.trans hkeyId')
    exact absurd (hname.trans hname'.symm) (by decide)
  · intro hnot value haccepts
    obtain ⟨nodeId, -, hmatches⟩ := acceptsSummary_iff.mp haccepts
    exact absurd ⟨nodeId, value, hmatches⟩ hnot

def trustingAccounts : AccountLibrary := ⟨"d", fun _ _ _ => true⟩

def signedLeaves : History.CheckpointLine := { twoLeaves with keyId := some "00112233445566778899" }

/-- The summary of a node's own records is accepted under the id of another node. -/
theorem other_node_accepted :
    let ledger := [servedRecord "aa" "m" "12.5", servedRecord "bb" "m" "7.25"]
    let stolen : Py Json := do
      (← buildServedSummary exactDoubles leafCountOfSize (.str "node:other") ledger
        (some signedLeaves) .sidecar).toValue exactDoubles "d"
    (do let value ← stolen
        let result ← verifyServedSummaryRecompute exactDoubles leafCountOfSize trustingAccounts
          value ledger [signedLeaves] .sidecar
        return (result.ok, result.errors)) = .ok (true, []) ∧
      (do return (← (← stolen).item "node_id").str?) = (.ok (some "node:other") : Py _) ∧
        History.nodeIdFromKeyId "00112233445566778899" ≠ "node:other" ∧
          ¬PinsNodeId exactDoubles leafCountOfSize trustingAccounts ledger [] signedLeaves
            .sidecar := by
  intro ledger stolen
  have haccepted : (do
      let value ← stolen
      let result ← verifyServedSummaryRecompute exactDoubles leafCountOfSize trustingAccounts
        value ledger [signedLeaves] .sidecar
      return (result.ok, result.errors)) = .ok (true, []) := by
    decide +kernel
  have hclaims : (do return (← (← stolen).item "node_id").str?) =
      (.ok (some "node:other") : Py _) := by
    decide +kernel
  have hother : History.nodeIdFromKeyId "00112233445566778899" ≠ "node:other" := by decide
  refine ⟨haccepted, hclaims, hother, fun hpins => ?_⟩
  obtain ⟨value, hvalue, haccepts⟩ := Py.bind_eq_ok.mp haccepted
  obtain ⟨result, hresult, hok⟩ := Py.bind_eq_ok.mp haccepts
  obtain ⟨keyId, hkeyId, hitem⟩ :=
    hpins value ⟨result, hresult, (Prod.mk.inj (Except.ok.inj hok)).1⟩
  obtain rfl := Option.some.inj hkeyId
  rw [hvalue, Py.ok_bind, hitem] at hclaims
  exact hother (Option.some.inj (Except.ok.inj hclaims))

end CapsuleMesh.Account
