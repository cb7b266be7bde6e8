import CapsuleMesh.Pane.Sides
import CapsuleMesh.Python.Equality

/-!
# What a failed verification shows

One verification reaches the reader as nine chips, as the flag of the Issues filter and
as the header of a row.  The chips read five findings, the flag reads the chips and the
digests of one pair, and the header reads the digests of that pair only.
-/

namespace CapsuleMesh.Pane

open Python Library Sidecar

/-! ## What is compared -/

/-- A digest that both records hold and that is not the same. -/
def DigestsDiffer (a b : Json) : Prop :=
  ∃ field ∈ DIGEST_FIELDS, ∃ effectA effectB valueA valueB,
    effectBlock a = .ok effectA ∧ effectBlock b = .ok effectB ∧
      effectA.get field = .ok valueA ∧ effectB.get field = .ok valueB ∧
      valueA ≠ .null ∧ valueB ≠ .null ∧ valueA.pyEq valueB = false

/-- The two halves whose digests a view compares: the record, and the first one of the
other role in its exchange that is under another id. -/
def comparedHalves (record : Json) (pool : List Json) (source : SourceLog) :
    Py (Option Json × Option Json) := do
  let id ← capsuleId record
  let group ← withRecord (← recordsForExchange pool (← exchangeIdFor record)) record
  let (requested, served) ← halfByRole source group
  let role ← labelRole record source
  let counterpart ← firstOther id (if role = .requested then served else requested)
  return if role = .requested then (some record, counterpart) else (counterpart, some record)

def ComparedDiffer (record : Json) (pool : List Json) (source : SourceLog) : Prop :=
  ∃ a b, comparedHalves record pool source = .ok (some a, some b) ∧ DigestsDiffer a b

theorem isNull_iff {value : Json} : value.isNull = true ↔ value = .null := by
  cases value <;> simp [Json.isNull]

theorem fieldMatch_failed_iff {a b : Json} :
    (fieldMatch a b).state = .failed ↔ a ≠ .null ∧ b ≠ .null ∧ a.pyEq b = false := by
  unfold fieldMatch
  split_ifs with hnull heq
  · refine iff_of_false (by simp) ?_
    rintro ⟨ha, hb, -⟩
    rcases hnull with hnull | hnull
    · exact ha (isNull_iff.mp hnull)
    · exact hb (isNull_iff.mp hnull)
  · refine iff_of_false (by simp) ?_
    rintro ⟨-, -, hne⟩
    rw [heq] at hne
    cases hne
  · rw [not_or] at hnull
    refine iff_of_true rfl ⟨?_, ?_, by simpa using heq⟩
    · exact fun h => hnull.1 (isNull_iff.mpr h)
    · exact fun h => hnull.2 (isNull_iff.mpr h)

theorem overallState_failed_iff {fields : List FieldMatch} :
    overallState fields = .failed ↔ ∃ field ∈ fields, field.state = .failed := by
  unfold overallState
  split_ifs with hfailed habsent
  · refine iff_of_true rfl ?_
    obtain ⟨field, hfield, hstate⟩ := List.any_eq_true.mp hfailed
    exact ⟨field, hfield, of_decide_eq_true hstate⟩
  all_goals
    refine iff_of_false (by simp) ?_
    rintro ⟨field, hfield, hstate⟩
    exact hfailed (List.any_eq_true.mpr ⟨field, hfield, decide_eq_true hstate⟩)

/-- Some compared field fails exactly when both records hold it and differ. -/
theorem compareDigests_failed_iff {a b : Json} {names : List String}
    {fields : List (String × FieldMatch)} (h : compareDigests a b names = .ok fields) :
    (∃ field ∈ fields.map Prod.snd, field.state = .failed) ↔
      ∃ name ∈ names, ∃ effectA effectB valueA valueB,
        effectBlock a = .ok effectA ∧ effectBlock b = .ok effectB ∧
          effectA.get name = .ok valueA ∧ effectB.get name = .ok valueB ∧
          valueA ≠ .null ∧ valueB ≠ .null ∧ valueA.pyEq valueB = false := by
  induction names generalizing fields with
  | nil =>
      obtain rfl := Except.ok.inj h
      simp
  | cons name names ih =>
      simp only [compareDigests, Py.bind_eq_ok] at h
      obtain ⟨effectA, hA, valueA, hvalueA, effectB, hB, valueB, hvalueB, rest, hrest, h⟩ := h
      obtain rfl := Except.ok.inj h
      rw [List.map_cons, List.exists_mem_cons_iff, List.exists_mem_cons_iff, ih hrest,
        fieldMatch_failed_iff]
      refine or_congr_left ⟨?_, ?_⟩
      · rintro ⟨hnullA, hnullB, hne⟩
        exact ⟨effectA, effectB, valueA, valueB, hA, hB, hvalueA, hvalueB, hnullA, hnullB, hne⟩
      · rintro ⟨effectA', effectB', valueA', valueB', hA', hB', hvalueA', hvalueB', hne⟩
        obtain rfl := Except.ok.inj (hA.symm.trans hA')
        obtain rfl := Except.ok.inj (hB.symm.trans hB')
        obtain rfl := Except.ok.inj (hvalueA.symm.trans hvalueA')
        obtain rfl := Except.ok.inj (hvalueB.symm.trans hvalueB')
        exact hne

theorem digestMatchGrade_failed_iff {halfA halfB : Option Json} {grade : MatchGrade}
    (h : digestMatchGrade halfA halfB = .ok grade) :
    grade.state = .failed ↔ ∃ a b, halfA = some a ∧ halfB = some b ∧ DigestsDiffer a b := by
  cases halfA with
  | none =>
      cases halfB <;>
      · obtain rfl := Except.ok.inj h
        simp
  | some a =>
      cases halfB with
      | none =>
        obtain rfl := Except.ok.inj h
        simp
      | some b =>
        simp only [digestMatchGrade, Py.bind_eq_ok] at h
        obtain ⟨fields, hfields, h⟩ := h
        obtain rfl := Except.ok.inj h
        rw [overallState_failed_iff, compareDigests_failed_iff hfields]
        constructor
        · intro hdiffer
          exact ⟨a, b, rfl, rfl, hdiffer⟩
        · rintro ⟨a', b', ha, hb, hdiffer⟩
          obtain rfl := Option.some.inj ha
          obtain rfl := Option.some.inj hb
          exact hdiffer

/-! ## What the folds read -/

/-- The findings that some property reads. -/
def READ_CODES : List FindingCode :=
  [.capsuleIdMismatch, .capsuleIdUncomputable, .producerSignatureInvalid, .chainParentMalformed,
    .chainParentMissing]

/-- The verification has a finding that some property reads. -/
def ReadFinding (result : Option VerificationResult) : Prop :=
  ∃ verified, result = some verified ∧ ∃ code ∈ verified.codes, code ∈ READ_CODES

def OwnerInvalid (record : Json) : Prop :=
  ∃ chain, identityChainFor record = .ok chain ∧ chain.ownerStatus = .str "invalid"

theorem verifiedChip_fail_iff {codes : List FindingCode} {pass fail : String}
    {result : Option VerificationResult} :
    (verifiedChip codes pass fail result).state = .fail ↔
      ∃ verified, result = some verified ∧ ∃ code ∈ verified.codes, code ∈ codes := by
  cases result with
  | none => simp [verifiedChip]
  | some verified =>
      unfold verifiedChip
      simp only
      split_ifs with hany
      · refine iff_of_true rfl ⟨verified, rfl, ?_⟩
        obtain ⟨code, hcode, hmem⟩ := List.any_eq_true.mp hany
        exact ⟨code, hcode, of_decide_eq_true hmem⟩
      · refine iff_of_false (by simp) ?_
        rintro ⟨verified', hverified, code, hcode, hmem⟩
        obtain rfl := Option.some.inj hverified
        exact hany (List.any_eq_true.mpr ⟨code, hcode, decide_eq_true hmem⟩)

theorem identityAuthorityChip_fail_iff {status : Json} {chip : Chip}
    (h : identityAuthorityChip status = .ok chip) :
    chip.state = .fail ↔ status = .str "invalid" := by
  simp only [identityAuthorityChip, Py.bind_eq_ok] at h
  obtain ⟨key, -, h⟩ := h
  split at h
  · obtain rfl := Except.ok.inj h
    simp
  · obtain rfl := Except.ok.inj h
    simp
  · next hinvalid =>
      obtain rfl := Except.ok.inj h
      exact iff_of_false (by simp) hinvalid

/-- Some property fails. -/
def AssuranceMap.Fails (m : AssuranceMap) : Prop := ∃ chip ∈ m.chips, chip.state = .fail

theorem readFinding_iff {result : Option VerificationResult} :
    ReadFinding result ↔ (contentBindingChip result).state = .fail ∨
      (producerSignatureChip result).state = .fail ∨ (continuityChip result).state = .fail := by
  rw [contentBindingChip, producerSignatureChip, continuityChip, verifiedChip_fail_iff,
    verifiedChip_fail_iff, verifiedChip_fail_iff]
  cases result with
  | none => simp [ReadFinding]
  | some verified =>
      simp only [ReadFinding, READ_CODES, Option.some.injEq, exists_eq_left', List.mem_cons,
        List.not_mem_nil, or_false]
      constructor
      · rintro ⟨code, hcode, rfl | rfl | rfl | rfl | rfl⟩
        · exact .inl ⟨_, hcode, .inl rfl⟩
        · exact .inl ⟨_, hcode, .inr rfl⟩
        · exact .inr (.inl ⟨_, hcode, rfl⟩)
        · exact .inr (.inr ⟨_, hcode, .inl rfl⟩)
        · exact .inr (.inr ⟨_, hcode, .inr rfl⟩)
      · rintro (⟨code, hcode, rfl | rfl⟩ | ⟨code, hcode, rfl⟩ | ⟨code, hcode, rfl | rfl⟩)
        all_goals exact ⟨_, hcode, by simp⟩

/-- A property fails over a finding that one of them reads, or over the owner. -/
theorem buildAssuranceMap_fails_iff {record : Json} {result : Option VerificationResult}
    {witness : Bool} {m : AssuranceMap} (h : buildAssuranceMap record result witness = .ok m) :
    m.Fails ↔ ReadFinding result ∨ OwnerInvalid record := by
  simp only [buildAssuranceMap, Py.bind_eq_ok] at h
  obtain ⟨chain, hchain, identity, hidentity, effect, -, requestDigest, -, responseDigest, -, h⟩ := h
  obtain rfl := Except.ok.inj h
  have howner : OwnerInvalid record ↔ identity.state = .fail := by
    rw [identityAuthorityChip_fail_iff hidentity]
    constructor
    · rintro ⟨chain', hchain', hstatus⟩
      obtain rfl := Except.ok.inj (hchain.symm.trans hchain')
      exact hstatus
    · intro hstatus
      exact ⟨chain, hchain, hstatus⟩
  rw [readFinding_iff, howner]
  simp only [AssuranceMap.Fails, AssuranceMap.chips, List.mem_cons, List.not_mem_nil, or_false,
    exists_eq_or_imp, exists_eq_left]
  cases witness <;> cases requestDigest.truthy && responseDigest.truthy <;> simp <;> tauto

/-! ## Views and rows -/

section View

variable {verifier : Verifier} {source : SourceLog} {verifyMap : VerifyMap} {pool : List Json}
  {record : Json} {witness : Bool} {view : ExchangeView}

/-- A view holds the comparison of its halves, the properties of its record, and the
marks of a verdict without a bad line. -/
theorem buildExchangeView_eq_ok
    (h : buildExchangeView record pool source verifyMap witness = .ok view) :
    (∃ halves, comparedHalves record pool source = .ok halves ∧
      digestMatchGrade halves.1 halves.2 = .ok view.digestMatch) ∧
    buildAssuranceMap record ((capsuleIdOf record).bind verifyMap.get) witness =
      .ok view.properties ∧
    (∃ provenance verifyOk named, view.verdict = verdictMarks provenance verifyOk named) ∧
    view.hasIssue = hasIssue
      (view.properties.chips.map Chip.state ++ [chipStateOfMatch view.digestMatch.state]) := by
  simp only [buildExchangeView, Py.bind_eq_ok] at h
  obtain ⟨id, hid, exchangeId, hexchange, found, hfound, group, hgroup, ⟨requested, served⟩,
    hhalves, role, hrole, counterpart, hcounterpart, provenance, -, named, -, digest, hdigest,
    properties, hproperties, position, -, requesterHalf, -, providerHalf, -, thisHalf, -,
    theirHalf, -, hview⟩ := h
  obtain rfl := Except.ok.inj hview
  refine ⟨⟨_, ?_, hdigest⟩, ?_, ⟨provenance, _, named, rfl⟩, rfl⟩
  · simp only at hcounterpart
    simp only [comparedHalves, hid, hexchange, hfound, hgroup, hhalves, hrole, hcounterpart,
      Py.ok_bind]
    rfl
  · rw [← capsuleId_eq_ok hid]
    exact hproperties

theorem differ_iff_of_halves {halves : Option Json × Option Json}
    (hhalves : comparedHalves record pool source = .ok halves) {grade : MatchGrade}
    (hgrade : digestMatchGrade halves.1 halves.2 = .ok grade) :
    grade.state = .failed ↔ ComparedDiffer record pool source := by
  rw [digestMatchGrade_failed_iff hgrade]
  constructor
  · rintro ⟨a, b, ha, hb, hdiffer⟩
    refine ⟨a, b, ?_, hdiffer⟩
    rw [hhalves, ← ha, ← hb]
  · rintro ⟨a, b, hab, hdiffer⟩
    obtain rfl := Except.ok.inj (hhalves.symm.trans hab)
    exact ⟨a, b, rfl, rfl, hdiffer⟩

theorem view_digest_failed_iff
    (h : buildExchangeView record pool source verifyMap witness = .ok view) :
    view.digestMatch.state = .failed ↔ ComparedDiffer record pool source := by
  obtain ⟨⟨halves, hhalves, hgrade⟩, -⟩ := buildExchangeView_eq_ok h
  exact differ_iff_of_halves hhalves hgrade

theorem view_fails_iff (h : buildExchangeView record pool source verifyMap witness = .ok view) :
    view.properties.Fails ↔
      ReadFinding ((capsuleIdOf record).bind verifyMap.get) ∨ OwnerInvalid record :=
  buildAssuranceMap_fails_iff (buildExchangeView_eq_ok h).2.1

theorem view_hasIssue_iff
    (h : buildExchangeView record pool source verifyMap witness = .ok view) :
    view.hasIssue = true ↔ view.properties.Fails ∨ view.digestMatch.state = .failed := by
  obtain ⟨-, -, -, hissue⟩ := buildExchangeView_eq_ok h
  rw [hissue, hasIssue, List.any_append, Bool.or_eq_true, List.any_map, List.any_eq_true]
  refine or_congr ?_ ?_
  · simp only [AssuranceMap.Fails, Function.comp_apply, decide_eq_true_eq]
  · cases view.digestMatch.state <;> simp [chipStateOfMatch]

theorem foldl_max_lt {ranks : List ℕ} {start bound : ℕ} (hstart : start < bound)
    (hranks : ∀ rank ∈ ranks, rank < bound) : ranks.foldl max start < bound := by
  induction ranks generalizing start with
  | nil => exact hstart
  | cons rank ranks ih =>
      refine ih (max_lt hstart (hranks rank (by simp))) fun rank' hrank' => ?_
      exact hranks rank' (by simp [hrank'])

theorem le_foldl_max (ranks : List ℕ) (start : ℕ) : start ≤ ranks.foldl max start := by
  induction ranks generalizing start with
  | nil => exact le_refl _
  | cons rank ranks ih => exact (le_max_left _ _).trans (ih _)

/-- No line of a verdict is worse than a warning. -/
theorem rank_verdictMarks {provenance : Provenance} {verifyOk : Option Bool} {named : Bool}
    {rank : ℕ} (h : rank ∈ (countedMarks (verdictMarks provenance verifyOk named)).map rankOfMark) :
    rank < 3 := by
  obtain ⟨mark, hmark, rfl⟩ := List.mem_map.mp h
  have hcounted : mark = .good ∨ mark = .warn := by
    simp only [verdictMarks, countedMarks, reduceCtorEq, if_false, List.mem_cons,
      List.not_mem_nil, or_false] at hmark
    rcases hmark with rfl | rfl
    all_goals
      split_ifs
      · exact .inl rfl
      · exact .inr rfl
  rcases hcounted with rfl | rfl <;> decide

/-- The header says failed over the digests of the pair only. -/
theorem worstState_failed_iff
    (h : buildExchangeView record pool source verifyMap witness = .ok view) :
    worstState view = .failed ↔ view.digestMatch.state = .failed := by
  obtain ⟨-, -, ⟨provenance, verifyOk, named, hverdict⟩, -⟩ := buildExchangeView_eq_ok h
  unfold worstState
  simp only [hverdict]
  by_cases hdigest : view.digestMatch.state = .failed
  · have hrank : 3 ≤ ((countedMarks (verdictMarks provenance verifyOk named)).map
        rankOfMark).foldl max (rankOfMatch view.digestMatch.state) := by
      rw [hdigest]
      exact le_foldl_max _ 3
    rw [if_pos hrank]
    exact iff_of_true rfl hdigest
  · have hstart : rankOfMatch view.digestMatch.state < 3 := by
      cases hstate : view.digestMatch.state with
      | failed => exact absurd hstate hdigest
      | _ => decide
    have hrank : ((countedMarks (verdictMarks provenance verifyOk named)).map
        rankOfMark).foldl max (rankOfMatch view.digestMatch.state) < 3 :=
      foldl_max_lt hstart fun _ => rank_verdictMarks
    rw [if_neg hrank.not_ge]
    refine iff_of_false ?_ hdigest
    split_ifs <;> decide

end View

/-! ### What a failed verification should show -/

variable {verifier verifier' : Verifier} {source : SourceLog} {mine theirs : List Json}

/-- The offline verification of the record itself, in the list that it is from. -/
def VerificationFails (verifier verifier' : Verifier) (mine theirs : List Json) (record : Json) : Prop :=
  (record ∈ mine ∧ (verifyOne verifier mine record).ok = false) ∨
    record ∈ theirs ∧ (verifyOne verifier' theirs record).ok = false

/-- A failed property, the flag and the header at once. -/
def ExchangeView.ShowsFailure (view : ExchangeView) : Prop :=
  view.properties.Fails ∧ view.hasIssue = true ∧ worstState view = .failed

/-- Two records of opposite roles in one exchange, with different digests. -/
def HoldsDisagreement (source : SourceLog) (group : List Json) : Prop :=
  ∃ asked ∈ group, ∃ answered ∈ group, labelRole asked source = .ok .requested ∧
    labelRole answered source = .ok .served ∧ DigestsDiffer asked answered

/-- The last verification under the record's id: of the counterparty's records, or else
of the own ones. -/
def lastVerified (verifier verifier' : Verifier) (mine theirs : List Json) (record : Json) :
    Option VerificationResult :=
  match capsuleIdOf record with
  | none => none
  | some id =>
      if id = "" then none
      else
        (((theirs.filter fun r => capsuleIdOf r = some id).getLast?).map
          (verifyOne verifier' theirs)).or
        (((mine.filter fun r => capsuleIdOf r = some id).getLast?).map (verifyOne verifier mine))

theorem lastVerified_eq (verifier verifier' : Verifier) (mine theirs : List Json) (record : Json) :
    (capsuleIdOf record).bind (mergedMap verifier verifier' mine theirs).get =
      lastVerified verifier verifier' mine theirs record := by
  unfold lastVerified
  cases capsuleIdOf record with
  | none => rfl
  | some id =>
      rw [Option.bind_some, get_mergedMap, get_buildVerifyMap, get_buildVerifyMap]
      simp only
      split_ifs <;> rfl

/-- The record at the head of a row: the first under an own id, or else the first. -/
def headOf (mine theirs : List Json) (key : String) : Option Json :=
  ((groupFor mine theirs key).filter (claimsOwnId mine)).head?.or
    ((groupFor mine theirs key).filter (!claimsOwnId mine ·)).head?

/-- What makes an issue of the exchange that this record stands at the head of. -/
def SaysIssue (verifier verifier' : Verifier) (source : SourceLog) (mine theirs : List Json)
    (pool : List Json) (record : Json) : Prop :=
  ReadFinding (lastVerified verifier verifier' mine theirs record) ∨ OwnerInvalid record ∨
    ComparedDiffer record pool source

theorem showsFailure_iff {pool : List Json} {record : Json} {witness : Bool} {view : ExchangeView}
    (h : buildExchangeView record pool source (mergedMap verifier verifier' mine theirs) witness =
      .ok view) :
    view.ShowsFailure ↔ ComparedDiffer record pool source ∧
      (ReadFinding (lastVerified verifier verifier' mine theirs record) ∨ OwnerInvalid record) := by
  rw [ExchangeView.ShowsFailure, view_hasIssue_iff h, worstState_failed_iff h,
    view_digest_failed_iff h, view_fails_iff h, lastVerified_eq]
  tauto

/-- A row is an issue over what the record at its head says. -/
theorem row_hasIssue_iff {rows : List ExchangeRow}
    (h : groupExchanges verifier verifier' mine theirs source = .ok rows) {row : ExchangeRow}
    (hrow : row ∈ rows) :
    row.hasIssue = true ↔ ∃ record, headOf mine theirs row.exchangeKey = some record ∧
      SaysIssue verifier verifier' source mine theirs (groupFor mine theirs row.exchangeKey) record := by
  have hshared := (sharedRow_of_mem h hrow).1
  generalize hkey : row.exchangeKey = key at hshared
  simp only [sharedRow, buildExchangeRow, Py.bind_eq_ok] at hshared
  obtain ⟨view, hview, tag, -, side, -, side', -, mineTime, -, theirsTime, -, hrow'⟩ := hshared
  obtain rfl := Except.ok.inj hrow'
  rw [headOf]
  generalize ((groupFor mine theirs key).filter (claimsOwnId mine)).head?.or
    ((groupFor mine theirs key).filter (!claimsOwnId mine ·)).head? = anchor at hview
  cases anchor with
  | none =>
      obtain rfl := Except.ok.inj hview
      simp
  | some record =>
      simp only [viewOf, Py.bind_eq_ok] at hview
      obtain ⟨view', hview', hview⟩ := hview
      obtain rfl := Except.ok.inj hview
      simp only [Option.map_some, Option.getD_some, Option.some.injEq, exists_eq_left']
      rw [view_hasIssue_iff hview', view_fails_iff hview', view_digest_failed_iff hview',
        lastVerified_eq, SaysIssue, or_assoc]

/-- A failed verification is shown by all three folds, and a disagreement in a row by its
flag, exactly when the record that is looked at says so itself. -/
theorem failures_shown_iff {pool : List Json} {record : Json} {witness : Bool}
    {view : ExchangeView} {rows : List ExchangeRow} {row : ExchangeRow}
    (hview : buildExchangeView record pool source (mergedMap verifier verifier' mine theirs) witness =
      .ok view)
    (hrows : groupExchanges verifier verifier' mine theirs source = .ok rows) (hrow : row ∈ rows) :
    ((VerificationFails verifier verifier' mine theirs record → view.ShowsFailure) ∧
      (HoldsDisagreement source (groupFor mine theirs row.exchangeKey) → row.hasIssue = true)) ↔
    ((VerificationFails verifier verifier' mine theirs record → ComparedDiffer record pool source ∧
      (ReadFinding (lastVerified verifier verifier' mine theirs record) ∨ OwnerInvalid record)) ∧
      (HoldsDisagreement source (groupFor mine theirs row.exchangeKey) →
        ∃ first, headOf mine theirs row.exchangeKey = some first ∧
          SaysIssue verifier verifier' source mine theirs (groupFor mine theirs row.exchangeKey) first)) := by
  rw [showsFailure_iff hview, row_hasIssue_iff hrows hrow]

theorem not_digestsDiffer_half {id id' exchangeId exchangeId' role role' : String}
    {parent parent' : Option String} :
    ¬ DigestsDiffer (half id exchangeId role parent) (half id' exchangeId' role' parent') := by
  rintro ⟨field, -, effectA, effectB, valueA, valueB, hA, hB, hvalueA, hvalueB, -, -, hne⟩
  have heffect : effectBlock (half id exchangeId role parent) =
      effectBlock (half id' exchangeId' role' parent') := rfl
  obtain rfl := Except.ok.inj (hA.symm.trans (heffect.trans hB))
  obtain rfl := Except.ok.inj (hvalueA.symm.trans hvalueB)
  have hregular : effectA.regular = true := by
    obtain rfl := Except.ok.inj hA
    rfl
  rw [Json.pyEq_self (Json.regular_of_get hregular hvalueA)] at hne
  cases hne

/-- A pair whose digests agree and verify. -/
theorem failures_shown_iff_pair :
    ∃ view rows row, buildExchangeView (half "a" "x" "served" none)
        [half "a" "x" "served" none, half "b" "x" "requested" none] .sidecar
        (mergedMap chainVerifier chainVerifier [half "a" "x" "served" none, half "b" "x" "requested" none] [])
        false = .ok view ∧
      groupExchanges chainVerifier chainVerifier [half "a" "x" "served" none, half "b" "x" "requested" none] []
        .sidecar = .ok rows ∧ row ∈ rows ∧
      (VerificationFails chainVerifier chainVerifier [half "a" "x" "served" none, half "b" "x" "requested" none]
        [] (half "a" "x" "served" none) → view.ShowsFailure) := by
  obtain ⟨view, hview⟩ : ∃ view, buildExchangeView (half "a" "x" "served" none)
      [half "a" "x" "served" none, half "b" "x" "requested" none] .sidecar
      (mergedMap chainVerifier chainVerifier [half "a" "x" "served" none, half "b" "x" "requested" none] [])
      false = .ok view := ⟨_, rfl⟩
  obtain ⟨row, hrows⟩ : ∃ row, groupExchanges chainVerifier chainVerifier
      [half "a" "x" "served" none, half "b" "x" "requested" none] [] .sidecar = .ok [row] :=
    ⟨_, rfl⟩
  have hrow : row ∈ [row] := List.mem_singleton_self _
  have hkey : row.exchangeKey = "x" := by
    obtain rfl := (List.cons.inj (Except.ok.inj hrows)).1
    rfl
  have hshown := (failures_shown_iff hview hrows hrow).mpr ⟨?_, ?_⟩
  · exact ⟨view, [row], row, hview, hrows, hrow, hshown.1⟩
  · rintro (⟨hmem, hfails⟩ | ⟨hmem, -⟩)
    · exact absurd hfails (by decide)
    · cases hmem
  · rw [hkey]
    rintro ⟨asked, hasked, answered, hanswered, -, -, hdiffer⟩
    have hhalf : ∀ r ∈ groupFor [half "a" "x" "served" none, half "b" "x" "requested" none] [] "x",
        ∃ id role, r = half id "x" role none := by
      intro r hr
      rcases List.mem_cons.mp (mem_groupFor.mp hr).1 with rfl | hr
      · exact ⟨_, _, rfl⟩
      · obtain rfl := List.mem_singleton.mp hr
        exact ⟨_, _, rfl⟩
    obtain ⟨id, role, rfl⟩ := hhalf asked hasked
    obtain ⟨id', role', rfl⟩ := hhalf answered hanswered
    exact absurd hdiffer not_digestsDiffer_half

/-- A verifier with a finding that no property reads. -/
def strictVerifier : Verifier where
  verifyRecord _ present :=
    ⟨false, if present then [.other "schema"] else [.other "schema", .chainParentMissing]⟩
  verifyCapsuleSignature _ := true
  detachedStatementVerified _ := some true
  missing _ present := by cases present <;> simp
  malformed _ present := by cases present <;> simp

/-- A half without an exchange id. -/
def digestHalf (id role response : String) : Json :=
  .obj
    [("capsule_id", .str id),
     ("effect", .obj [("request_digest", .str "request"), ("response_digest", .str response)]),
     ("model_attestation", .obj
       [("compute_attestation", .obj [("x-mesh-poc-v1", .obj [("role", .str role)])])])]

/-- A missing parent is an issue under a header that does not say failed; a finding that
no property reads is none at all; and two halves that disagree, found by their request
digest, are no issue. -/
theorem failures_not_shown :
    (∃ view, buildExchangeView (half "a" "x" "served" (some "p"))
        [half "a" "x" "served" (some "p")] .sidecar
        (mergedMap chainVerifier chainVerifier [half "a" "x" "served" (some "p")] []) false = .ok view ∧
      VerificationFails chainVerifier chainVerifier [half "a" "x" "served" (some "p")] []
        (half "a" "x" "served" (some "p")) ∧
      view.hasIssue = true ∧ worstState view = .presentUnverified ∧ ¬ view.ShowsFailure) ∧
    (∃ view, buildExchangeView (half "a" "x" "served" none) [half "a" "x" "served" none] .sidecar
        (mergedMap strictVerifier strictVerifier [half "a" "x" "served" none] []) false = .ok view ∧
      VerificationFails strictVerifier strictVerifier [half "a" "x" "served" none] []
        (half "a" "x" "served" none) ∧ view.hasIssue = false ∧ ¬ view.ShowsFailure) ∧
    ∃ row, groupExchanges chainVerifier chainVerifier [digestHalf "a" "served" "one"]
        [digestHalf "b" "requested" "two"] .sidecar = .ok [row] ∧
      HoldsDisagreement .sidecar (groupFor [digestHalf "a" "served" "one"]
        [digestHalf "b" "requested" "two"] row.exchangeKey) ∧ row.hasIssue = false := by
  refine ⟨⟨_, rfl, .inl ⟨by simp, rfl⟩, rfl, rfl, ?_⟩, ⟨_, rfl, .inl ⟨by simp, rfl⟩, rfl, ?_⟩,
    ⟨_, rfl, ?_, rfl⟩⟩
  · intro hshown
    exact absurd hshown.2.2 (by decide)
  · intro hshown
    exact absurd hshown.2.1 (by decide)
  · refine ⟨digestHalf "b" "requested" "two", ?_, digestHalf "a" "served" "one", ?_, rfl, rfl,
      "response_digest", by simp [DIGEST_FIELDS], _, _, .str "two", .str "one", rfl, rfl, rfl, rfl,
      by simp, by simp, by decide⟩
    · exact mem_groupFor.mpr ⟨by simp, rfl⟩
    · exact mem_groupFor.mpr ⟨by simp, rfl⟩

end CapsuleMesh.Pane
