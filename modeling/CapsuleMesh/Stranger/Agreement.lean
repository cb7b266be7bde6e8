import Mathlib
import CapsuleMesh.Stranger.Bundle

/-!
# Two verifiers of one ledger

`capsule_mesh_view.verify_results_for` beside `stranger_verify_bundle.verify_bundle`.  Both
run `verify_store` and then look for the detached statement of a capsule.  One reads
`signature_verified` off a text and searches the bundle for a key; the other reads `ok` and
does not.  A statement that authenticates no id at all passes both.
-/

namespace CapsuleMesh.Stranger

open Python

namespace View

/-- `_issuer_key_for` of the viewer. -/
def issuerKeyFor (dir : BundleDir) (issuerKey : Option String) : Option String :=
  match issuerKey with
  | some key => some key
  | none => if dir.pathExists dir.siblingKey then some dir.siblingKey else none

def detachedStatementVerified (T : Tools) (dir : BundleDir) (capsuleId : Json)
    (issuerKey : Option String) : Option Bool :=
  match issuerKey with
  | none => none
  | some key =>
      if !dir.pathExists (dir.statementPath capsuleId) then none
      else
        match T.verifyTransparent (dir.statementPath capsuleId) key with
        | .error _ => some false
        | .ok report =>
          if !report.ok then some false
          else if (otherId report capsuleId).isSome then some false
          else some true

end View

/-- `"signature" in record and "key_id" in record`. -/
def hasInlineSignature (members : List (String × Json)) : Bool :=
  (members.lookup "signature").isSome && (members.lookup "key_id").isSome

def producerSignatureInvalid (result : VerificationResult) (detail : String) :
    VerificationResult where
  ok := false
  findings := result.findings ++ [
    { code := "producer_signature_invalid", detail := detail, severity := "error" }]

/-- One turn of the loop of `verify_results_for`. -/
def viewResult (T : Tools) (ledgerDir : Option BundleDir) (resolvedKey : Option String)
    (record : Json) (result : VerificationResult) : VerificationResult :=
  match record with
  | .obj members =>
      let capsuleId := (members.lookup "capsule_id").getD (.str "<none>")
      let about := "capsule_id=" ++ pyStr capsuleId ++ ": "
      if hasInlineSignature members then
        if T.verifyCapsuleSignature record then result
        else producerSignatureInvalid result
          (about ++ "self-attested Ed25519 signature does not verify against key_id")
      else
        match ledgerDir.bind fun dir =>
            View.detachedStatementVerified T dir capsuleId resolvedKey with
        | some true => result
        | some false => producerSignatureInvalid result
            (about ++ "detached signed-statements/<capsule_id>.cose did not verify")
        | none => producerSignatureInvalid result
            (about ++ "no inline producer signature and no verifiable detached signed statement")
  | _ => { result with ok := false }

def verifyResultsFor (T : Tools) (records : List Json) (ledgerDir : Option BundleDir)
    (issuerKey : Option String) : Option (List VerificationResult) :=
  if records.isEmpty then none
  else
    let resolvedKey := match ledgerDir with
      | some dir => View.issuerKeyFor dir issuerKey
      | none => issuerKey
    some ((records.zip (T.verifyStore records)).map fun pair =>
      viewResult T ledgerDir resolvedKey pair.1 pair.2)

/-! ## What decides -/

section

variable (T : Tools) (dir : BundleDir) (acks : List (String × ClientAck))
  (issuerKey : Option String)

/-- What is reported on the statement of an id under a key, where there are both. -/
def reportOn (capsuleId : Json) (key : Option String) : Option Report := do
  let key ← key
  if dir.pathExists (dir.statementPath capsuleId) then
    (T.verifyTransparent (dir.statementPath capsuleId) key).toOption
  else none

/-- What `verify_bundle` sees of a record's statement. -/
def bundleSees (members : List (String × Json)) : Option Report :=
  reportOn T dir ((members.lookup "capsule_id").getD (.str "<missing>")) (issuerKeyFor dir issuerKey)

/-- What `verify_results_for` sees of it. -/
def viewSees (members : List (String × Json)) : Option Report :=
  reportOn T dir ((members.lookup "capsule_id").getD (.str "<none>")) (View.issuerKeyFor dir issuerKey)

/-- The report is ok and authenticates the record's own id. -/
def Authenticates (members : List (String × Json)) (report : Report) : Prop :=
  report.ok = true ∧ ∃ id, members.lookup "capsule_id" = some (.str id) ∧
    authenticatedCapsuleId report = some id

/-- A false signature, or a true one over another id. -/
def BundleRefuses (capsuleId : Json) (report : Report) : Prop :=
  report.signatureVerified = some false ∨
    (report.signatureVerified = some true ∧ (otherId report capsuleId).isSome = true)

/-- Not ok, or over another id. -/
def ViewRefuses (capsuleId : Json) (report : Report) : Prop :=
  report.ok = false ∨ (otherId report capsuleId).isSome = true

end

/-- `verify_bundle` can read what it prints beside the verdict. -/
def Readable (T : Tools) (acks : List (String × ClientAck)) (record : Json) : Prop :=
  ∃ capsuleId rung provenance advertised,
    record.getD "capsule_id" (.str "<missing>") = .ok capsuleId ∧
      rungOf T acks record capsuleId = .ok rung ∧ provenanceLines record = .ok provenance ∧
      advertisedLine T record = .ok advertised

variable {T : Tools} {dir : BundleDir} {acks : List (String × ClientAck)}

/-! ## Reading a verdict off a text -/

theorem startsWith_append {text start : String} (h : startsWith text start = true)
    (rest : String) : startsWith (text ++ rest) start = true := by
  simp only [startsWith, decide_eq_true_eq, String.toList_append] at h ⊢
  exact h.trans (List.prefix_append _ _)

theorem isIn_append {needle text : String} (h : isIn needle text = true) (rest : String) :
    isIn needle (text ++ rest) = true := by
  simp only [isIn, decide_eq_true_eq, String.toList_append] at h ⊢
  exact h.trans (List.infix_append' [] _ _)

theorem isFailureLine_noSignature (capsuleId : Json) :
    isFailureLine (noSignatureText capsuleId) = true := by
  have hstart : startsWith (noSignatureText capsuleId) "NO SIGNATURE:" = true := by
    unfold noSignatureText
    apply startsWith_append
    decide +kernel
  rw [isFailureLine, hstart, Bool.true_or, Bool.true_or, Bool.true_or]

theorem isFailureLine_subjectMismatch (capsuleId : Json) (id : String) :
    isFailureLine (subjectMismatchText capsuleId id) = true := by
  have hstart : startsWith (subjectMismatchText capsuleId id) "SUBJECT MISMATCH:" = true := by
    unfold subjectMismatchText
    apply startsWith_append
    decide +kernel
  rw [isFailureLine, hstart, Bool.or_true, Bool.true_or, Bool.true_or]

theorem isFailureLine_error (exc : String) :
    isFailureLine ("transparent verify error: " ++ exc) = true := by
  have hin : isIn "error" ("transparent verify error: " ++ exc) = true := by
    apply isIn_append
    decide +kernel
  rw [isFailureLine, hin, Bool.or_true]

/-- The text of a report fails exactly when it shows a false signature. -/
theorem reportText_lines (report : Report) :
    isUnverifiedLine (reportText report) = false ∧
      isFailureLine (reportText report) = decide (report.signatureVerified = some false) := by
  have hshown : ∀ (signatureVerified : Option Bool) (ok : Bool),
      isUnverifiedLine (reportText ⟨signatureVerified, ok, none, none⟩) = false ∧
        isFailureLine (reportText ⟨signatureVerified, ok, none, none⟩) =
          decide (signatureVerified = some false) := by decide +kernel
  exact hshown report.signatureVerified report.ok

/-- A statement passes where there is a report on it that `verify_bundle` does not refuse. -/
theorem transparentCheck_passes (T : Tools) (dir : BundleDir) (capsuleId : Json)
    (key : Option String) :
    (isUnverifiedLine (transparentCheck T dir capsuleId key) = false ∧
      isFailureLine (transparentCheck T dir capsuleId key) = false) ↔
      ∃ report, reportOn T dir capsuleId key = some report ∧ ¬BundleRefuses capsuleId report := by
  unfold transparentCheck reportOn
  cases hexists : dir.pathExists (dir.statementPath capsuleId) with
  | false => cases key <;> simp [isFailureLine_noSignature]
  | true =>
      cases key with
      | none =>
        have hunverified : isUnverifiedLine unverifiedText = true := by
          unfold unverifiedText
          apply startsWith_append
          decide +kernel
        simp [hunverified]
      | some key =>
        cases hreport : T.verifyTransparent (dir.statementPath capsuleId) key with
        | error exc => simp [hreport, isFailureLine_error, Except.toOption]
        | ok report =>
          obtain ⟨hunverified, hfailure⟩ := reportText_lines report
          cases hother : otherId report capsuleId with
          | none =>
            simp [hreport, hother, hunverified, hfailure, BundleRefuses, Except.toOption]
          | some id =>
            by_cases htrue : report.signatureVerified = some true
            · simp [hreport, hother, htrue, isFailureLine_subjectMismatch, BundleRefuses,
                Except.toOption]
            · simp [hreport, hother, htrue, hunverified, hfailure, BundleRefuses,
                Except.toOption]

/-! ## What each verifier counts -/

section

variable (T : Tools) (dir : BundleDir) (acks : List (String × ClientAck))
  (issuerKey : Option String)

/-- The content hash and the chain of a capsule verify. -/
def ContentVerifies (i : ℕ) : Prop :=
  ∃ result, (T.verifyStore dir.records)[i]? = some result ∧ result.ok = true

def BundleCounts (i : ℕ) : Prop :=
  ∃ report entry, verifyBundle T dir acks issuerKey = .ok report ∧
    report.entries[i]? = some entry ∧ entry.ok = true

def ViewMarks (i : ℕ) : Prop :=
  ∃ results result, verifyResultsFor T dir.records (some dir) issuerKey = some results ∧
    results[i]? = some result ∧ result.ok = true

/-- `verify_bundle` can read every record. -/
def AllReadable : Prop :=
  ∀ pair ∈ dir.records.zip (T.verifyStore dir.records), Readable T acks pair.1

end

theorem bundleEntry_returns (key : Option String) (record : Json) (result : VerificationResult) :
    (∃ entry, bundleEntry T dir acks key record result = .ok entry) ↔ Readable T acks record := by
  unfold bundleEntry Readable
  simp only [Py.bind_eq_ok]
  constructor
  · rintro ⟨entry, capsuleId, hid, rung, hrung, provenance, hprovenance, advertised, hadvertised, -⟩
    exact ⟨capsuleId, rung, provenance, advertised, hid, hrung, hprovenance, hadvertised⟩
  · rintro ⟨capsuleId, rung, provenance, advertised, hid, hrung, hprovenance, hadvertised⟩
    exact ⟨_, capsuleId, hid, rung, hrung, provenance, hprovenance, advertised, hadvertised, rfl⟩

theorem bundleEntry_ok {issuerKey : Option String} {members : List (String × Json)}
    {result : VerificationResult} {entry : BundleEntry}
    (h : bundleEntry T dir acks (issuerKeyFor dir issuerKey) (.obj members) result = .ok entry) :
    entry.ok = true ↔ result.ok = true ∧ ∃ report, bundleSees T dir issuerKey members = some report ∧
      ¬BundleRefuses ((members.lookup "capsule_id").getD (.str "<missing>")) report := by
  unfold bundleEntry at h
  obtain ⟨capsuleId, hid, h⟩ := Py.bind_eq_ok.mp h
  obtain rfl := Except.ok.inj hid
  obtain ⟨rung, -, h⟩ := Py.bind_eq_ok.mp h
  obtain ⟨provenance, -, h⟩ := Py.bind_eq_ok.mp h
  obtain ⟨advertised, -, h⟩ := Py.bind_eq_ok.mp h
  obtain rfl := Except.ok.inj h
  rw [bundleSees, ← transparentCheck_passes]
  simp only [Bool.and_eq_true, Bool.not_eq_true', and_assoc]

theorem viewResult_ok {key : Option String} {members : List (String × Json)}
    {result : VerificationResult} (hinline : hasInlineSignature members = false) :
    (viewResult T (some dir) key (.obj members) result).ok = true ↔ result.ok = true ∧
      ∃ report, reportOn T dir ((members.lookup "capsule_id").getD (.str "<none>")) key =
        some report ∧ ¬ViewRefuses ((members.lookup "capsule_id").getD (.str "<none>")) report := by
  generalize hid : (members.lookup "capsule_id").getD (.str "<none>") = capsuleId
  have hdetached : View.detachedStatementVerified T dir capsuleId key = some true ↔
      ∃ report, reportOn T dir capsuleId key = some report ∧ ¬ViewRefuses capsuleId report := by
    unfold View.detachedStatementVerified reportOn
    cases key with
    | none => simp
    | some key =>
        cases hexists : dir.pathExists (dir.statementPath capsuleId) with
        | false => simp
        | true =>
          cases hreport : T.verifyTransparent (dir.statementPath capsuleId) key with
          | error exc => simp [hreport, Except.toOption]
          | ok report =>
            cases hok : report.ok <;> cases hother : otherId report capsuleId <;>
              simp [hreport, ViewRefuses, hok, hother, Except.toOption]
  rw [← hdetached]
  simp only [viewResult, hinline, hid, Option.bind_some, Bool.false_eq_true, if_false]
  split
  · rename_i h
    simp [h]
  · rename_i h
    simp [h, producerSignatureInvalid]
  · rename_i h
    simp [h, producerSignatureInvalid]

/-- What stands at a place of the zipped lists. -/
theorem zip_at {members : List (String × Json)} {i : ℕ}
    (hrecord : dir.records[i]? = some (.obj members)) {result : VerificationResult}
    (hresult : (T.verifyStore dir.records)[i]? = some result) :
    (dir.records.zip (T.verifyStore dir.records))[i]? = some (.obj members, result) := by
  rw [List.getElem?_zip_eq_some]
  exact ⟨hrecord, hresult⟩

theorem not_isEmpty_of_getElem? {records : List Json} {record : Json} {i : ℕ}
    (h : records[i]? = some record) : records.isEmpty = false := by
  cases records with
  | nil => simp at h
  | cons _ _ => rfl

theorem bundleCounts_iff {issuerKey : Option String} {members : List (String × Json)} {i : ℕ}
    (hrecord : dir.records[i]? = some (.obj members)) :
    BundleCounts T dir acks issuerKey i ↔ AllReadable T dir acks ∧ ContentVerifies T dir i ∧
      ∃ report, bundleSees T dir issuerKey members = some report ∧
        ¬BundleRefuses ((members.lookup "capsule_id").getD (.str "<missing>")) report := by
  have hunfold : verifyBundle T dir acks issuerKey = do
      let entries ← (dir.records.zip (T.verifyStore dir.records)).mapM fun pair =>
        bundleEntry T dir acks (issuerKeyFor dir issuerKey) pair.1 pair.2
      return ⟨entries.all BundleEntry.ok, entries.any BundleEntry.unverified,
        entries.flatMap BundleEntry.lines, entries⟩ := by
    rw [verifyBundle, not_isEmpty_of_getElem? hrecord]
    rfl
  rw [BundleCounts, hunfold]
  constructor
  · rintro ⟨report, entry, hreport, hentry, hok⟩
    obtain ⟨entries, hentries, hreturn⟩ := Py.bind_eq_ok.mp hreport
    obtain rfl := Except.ok.inj hreturn
    have hall : AllReadable T dir acks := fun pair hpair =>
      (bundleEntry_returns _ _ _).mp (Py.mapM_returns.mp ⟨entries, hentries⟩ pair hpair)
    obtain ⟨pair, hpair, hstep⟩ := Py.mapM_getElem? hentries hentry
    obtain ⟨hrecord', hresult⟩ := List.getElem?_zip_eq_some.mp hpair
    have hfst : pair.1 = .obj members := Option.some.inj (hrecord'.symm.trans hrecord)
    rw [hfst] at hstep
    obtain ⟨hcontent, hsees⟩ := (bundleEntry_ok hstep).mp hok
    exact ⟨hall, ⟨pair.2, hresult, hcontent⟩, hsees⟩
  · rintro ⟨hall, ⟨result, hresult, hcontent⟩, hsees⟩
    obtain ⟨entries, hentries⟩ := Py.mapM_returns.mpr fun pair hpair =>
      (bundleEntry_returns (issuerKeyFor dir issuerKey) pair.1 pair.2).mpr (hall pair hpair)
    obtain ⟨entry, hentry, hstep⟩ := Py.getElem?_mapM hentries (zip_at hrecord hresult)
    exact ⟨_, entry, Py.bind_eq_ok.mpr ⟨entries, hentries, rfl⟩, hentry,
      (bundleEntry_ok hstep).mpr ⟨hcontent, hsees⟩⟩

theorem viewMarks_iff {issuerKey : Option String} {members : List (String × Json)} {i : ℕ}
    (hrecord : dir.records[i]? = some (.obj members))
    (hinline : hasInlineSignature members = false) :
    ViewMarks T dir issuerKey i ↔ ContentVerifies T dir i ∧
      ∃ report, viewSees T dir issuerKey members = some report ∧
        ¬ViewRefuses ((members.lookup "capsule_id").getD (.str "<none>")) report := by
  have hunfold : verifyResultsFor T dir.records (some dir) issuerKey =
      some ((dir.records.zip (T.verifyStore dir.records)).map fun pair =>
        viewResult T (some dir) (View.issuerKeyFor dir issuerKey) pair.1 pair.2) := by
    rw [verifyResultsFor, not_isEmpty_of_getElem? hrecord]
    rfl
  rw [ViewMarks, hunfold]
  constructor
  · rintro ⟨results, result, hresults, hresult, hok⟩
    obtain rfl := Option.some.inj hresults
    rw [List.getElem?_map, Option.map_eq_some_iff] at hresult
    obtain ⟨pair, hpair, rfl⟩ := hresult
    obtain ⟨hrecord', hresult⟩ := List.getElem?_zip_eq_some.mp hpair
    have hfst : pair.1 = .obj members := Option.some.inj (hrecord'.symm.trans hrecord)
    rw [hfst] at hok
    obtain ⟨hcontent, hsees⟩ := (viewResult_ok hinline).mp hok
    exact ⟨⟨pair.2, hresult, hcontent⟩, hsees⟩
  · rintro ⟨⟨result, hresult, hcontent⟩, hsees⟩
    refine ⟨_, _, rfl, ?_, (viewResult_ok hinline).mpr ⟨hcontent, hsees⟩⟩
    rw [List.getElem?_map, zip_at hrecord hresult]
    rfl

/-! ## When they agree -/

section

variable (T : Tools) (dir : BundleDir) (acks : List (String × ClientAck))
  (issuerKey : Option String)

/-- For every capsule without an inline signature, the two verifiers agree, and accept only
what is fully verified under its own id. -/
def StrangersAgree : Prop :=
  ∀ i members, dir.records[i]? = some (.obj members) → hasInlineSignature members = false →
    (BundleCounts T dir acks issuerKey i ↔ ViewMarks T dir issuerKey i) ∧
    (BundleCounts T dir acks issuerKey i ∨ ViewMarks T dir issuerKey i →
      ContentVerifies T dir i ∧ ∃ report, bundleSees T dir issuerKey members = some report ∧
        Authenticates members report)

/-- Nothing that `verify_results_for` sees of the record passes it. -/
def ViewRefused (members : List (String × Json)) : Prop :=
  ∀ report ∈ viewSees T dir issuerKey members,
    ViewRefuses ((members.lookup "capsule_id").getD (.str "<none>")) report

/-- The statement is in good order for both, or refused by both. -/
def ClearCut (members : List (String × Json)) : Prop :=
  (∃ report, bundleSees T dir issuerKey members = some report ∧
      viewSees T dir issuerKey members = some report ∧ Authenticates members report ∧
      report.signatureVerified ≠ some false) ∨
    ((∀ report ∈ bundleSees T dir issuerKey members,
        BundleRefuses ((members.lookup "capsule_id").getD (.str "<missing>")) report) ∧
      ViewRefused T dir issuerKey members)

end

theorem issuerKeyFor_of_view {issuerKey : Option String} {key : String}
    (h : View.issuerKeyFor dir issuerKey = some key) : issuerKeyFor dir issuerKey = some key := by
  cases issuerKey with
  | some explicit => exact h
  | none =>
      simp only [View.issuerKeyFor] at h
      split at h
      · rename_i hsibling
        rw [issuerKeyFor, if_pos hsibling, h]
      · cases h

/-- Where a record has its id, the bundle verifier sees what the viewer sees. -/
theorem bundleSees_of_viewSees {issuerKey : Option String} {members : List (String × Json)}
    {capsuleId : Json} {report : Report} (hid : members.lookup "capsule_id" = some capsuleId)
    (h : viewSees T dir issuerKey members = some report) :
    bundleSees T dir issuerKey members = some report := by
  simp only [viewSees, bundleSees, hid, Option.getD_some] at h ⊢
  cases hkey : View.issuerKeyFor dir issuerKey with
  | none => simp [hkey, reportOn] at h
  | some key => rwa [issuerKeyFor_of_view hkey, ← hkey]

theorem Authenticates.otherId {members : List (String × Json)} {report : Report}
    (h : Authenticates members report) (missing : Json) :
    Stranger.otherId report ((members.lookup "capsule_id").getD missing) = none := by
  obtain ⟨-, id, hid, hauthenticated⟩ := h
  simp [Stranger.otherId, hid, hauthenticated, Option.filter, Json.str?]

/-- A statement in good order passes both. -/
theorem Authenticates.passes {members : List (String × Json)} {report : Report}
    (h : Authenticates members report) (hsignature : report.signatureVerified ≠ some false)
    (missing : Json) :
    ¬BundleRefuses ((members.lookup "capsule_id").getD missing) report ∧
      ¬ViewRefuses ((members.lookup "capsule_id").getD missing) report := by
  constructor
  · rintro (hfalse | ⟨-, hother⟩)
    · exact hsignature hfalse
    · simp [h.otherId] at hother
  · rintro (hok | hother)
    · simp [h.1] at hok
    · simp [h.otherId] at hother

/-- The two verifiers agree on a ledger, and are sound, exactly when every statement of a
capsule without an inline signature is clear-cut; where `verify_bundle` cannot read a record,
when the viewer refuses them all. -/
theorem strangersAgree_iff (T : Tools) (dir : BundleDir) (acks : List (String × ClientAck))
    (issuerKey : Option String) :
    StrangersAgree T dir acks issuerKey ↔
      ∀ i members, dir.records[i]? = some (.obj members) → hasInlineSignature members = false →
        ContentVerifies T dir i →
        (AllReadable T dir acks → ClearCut T dir issuerKey members) ∧
          (¬AllReadable T dir acks → ViewRefused T dir issuerKey members) := by
  constructor
  · intro h i members hrecord hinline hcontent
    obtain ⟨hagree, hsound⟩ := h i members hrecord hinline
    rw [bundleCounts_iff hrecord, viewMarks_iff hrecord hinline] at hagree hsound
    refine ⟨fun hall => ?_, fun hall report hreport => ?_⟩
    · by_cases hrefused : ViewRefused T dir issuerKey members
      · refine .inr ⟨fun report hreport => ?_, hrefused⟩
        by_contra hpasses
        obtain ⟨-, other, hother, hview⟩ := hagree.mp ⟨hall, hcontent, report, hreport, hpasses⟩
        exact hview (hrefused other hother)
      · -- The viewer passes a report, so the other does, and it authenticates the id.
        simp only [ViewRefused, not_forall] at hrefused
        obtain ⟨report, hreport, hview⟩ := hrefused
        obtain ⟨-, -, other, hother, hbundle⟩ := hagree.mpr ⟨hcontent, report, hreport, hview⟩
        obtain ⟨-, full, hfull, hauth⟩ := hsound (.inr ⟨hcontent, report, hreport, hview⟩)
        have ⟨_, id, hid, _⟩ := hauth
        have hsame := bundleSees_of_viewSees hid hreport
        obtain rfl := Option.some.inj (hother.symm.trans hsame)
        obtain rfl := Option.some.inj (hfull.symm.trans hother)
        exact .inl ⟨full, hfull, hreport, hauth, fun hfalse => hbundle (.inl hfalse)⟩
    · by_contra hview
      exact hall (hagree.mpr ⟨hcontent, report, hreport, hview⟩).1
  · intro h i members hrecord hinline
    rw [bundleCounts_iff hrecord, viewMarks_iff hrecord hinline]
    by_cases hcontent : ContentVerifies T dir i
    · obtain ⟨hclear, hunread⟩ := h i members hrecord hinline hcontent
      by_cases hall : AllReadable T dir acks
      · obtain ⟨report, hbundle, hview, hauth, hsignature⟩ | ⟨hrefused, hrefused'⟩ := hclear hall
        · have hpasses := hauth.passes hsignature
          refine ⟨iff_of_true ⟨hall, hcontent, report, hbundle, (hpasses _).1⟩
            ⟨hcontent, report, hview, (hpasses _).2⟩, fun _ => ⟨hcontent, report, hbundle, hauth⟩⟩
        · have hnot : ¬∃ report, bundleSees T dir issuerKey members = some report ∧
              ¬BundleRefuses ((members.lookup "capsule_id").getD (.str "<missing>")) report :=
            fun ⟨report, hreport, hpasses⟩ => hpasses (hrefused report hreport)
          have hnot' : ¬∃ report, viewSees T dir issuerKey members = some report ∧
              ¬ViewRefuses ((members.lookup "capsule_id").getD (.str "<none>")) report :=
            fun ⟨report, hreport, hpasses⟩ => hpasses (hrefused' report hreport)
          simp only [hnot, hnot', and_false, or_self, false_imp_iff, and_self]
      · have hnot : ¬∃ report, viewSees T dir issuerKey members = some report ∧
            ¬ViewRefuses ((members.lookup "capsule_id").getD (.str "<none>")) report :=
          fun ⟨report, hreport, hpasses⟩ => hpasses (hunread hall report hreport)
        simp only [hall, hnot, false_and, and_false, or_self, false_imp_iff, and_self]
    · simp only [hcontent, false_and, and_false, or_self, false_imp_iff, and_self]

/-! ## A statement that only one of them accepts -/

def plainCapsule : List (String × Json) := [("capsule_id", .str "c")]

/-- A bundle of one capsule with its statement, and a key at the given place. -/
def plainDir (keyPath : String) : BundleDir where
  path := "/copy/ledger"
  parent := "/copy"
  records := [.obj plainCapsule]
  archived := []
  isStoreLedger := false
  pathExists := fun path =>
    decide (path = keyPath ∨ path = "/copy/ledger/signed-statements/c.cose")
  pubKeys := []

def plainTools (report : Report) : Tools where
  verifyStore := fun records => records.map fun _ => ⟨true, []⟩
  verifyTransparent := fun _ _ => .ok report
  verifyCapsuleSignature := fun _ => false
  ackSignature := fun _ => false
  text := ⟨fun _ => "", id⟩

/-- The signature holds, and the statement fails another check. -/
def signedNotOk : Report := ⟨some true, false, none, some ⟨some "c"⟩⟩

def inGoodOrder : Report := ⟨some true, true, none, some ⟨some "c"⟩⟩

theorem plain_allReadable (report : Report) (keyPath : String) :
    AllReadable (plainTools report) (plainDir keyPath) [] := by
  intro pair hpair
  obtain rfl : pair = (.obj plainCapsule, ⟨true, []⟩) := List.mem_singleton.mp hpair
  exact ⟨_, _, _, _, rfl, rfl, rfl, rfl⟩

/-- `verify_bundle` counts a statement that is not ok, and one whose key lies in the bundle;
`verify_results_for` marks neither. -/
theorem strangers_disagree :
    (BundleCounts (plainTools signedNotOk) (plainDir "/copy/keys/node-key.pub.pem") [] none 0 ∧
      ¬ViewMarks (plainTools signedNotOk) (plainDir "/copy/keys/node-key.pub.pem") none 0 ∧
      ¬StrangersAgree (plainTools signedNotOk) (plainDir "/copy/keys/node-key.pub.pem") [] none) ∧
    BundleCounts (plainTools inGoodOrder) (plainDir "/copy/ledger/node-key.pub.pem") [] none 0 ∧
      ¬ViewMarks (plainTools inGoodOrder) (plainDir "/copy/ledger/node-key.pub.pem") none 0 := by
  have hpasses : ∀ ok, ¬BundleRefuses (.str "c") ⟨some true, ok, none, some ⟨some "c"⟩⟩ := by
    intro ok
    simp [BundleRefuses, otherId, authenticatedCapsuleId, Option.filter, Json.str?]
  have hrecord : ∀ keyPath, (plainDir keyPath).records[0]? = some (.obj plainCapsule) :=
    fun _ => rfl
  have hcounts : BundleCounts (plainTools signedNotOk) (plainDir "/copy/keys/node-key.pub.pem")
      [] none 0 :=
    (bundleCounts_iff (hrecord _)).mpr
      ⟨plain_allReadable _ _, ⟨_, rfl, rfl⟩, signedNotOk, rfl, hpasses _⟩
  have hmarks : ¬ViewMarks (plainTools signedNotOk) (plainDir "/copy/keys/node-key.pub.pem")
      none 0 := by
    rw [viewMarks_iff (hrecord _) rfl]
    rintro ⟨-, report, hreport, hview⟩
    obtain rfl : signedNotOk = report := Option.some.inj hreport
    exact hview (.inl rfl)
  refine ⟨⟨hcounts, hmarks, fun h => hmarks ((h 0 plainCapsule rfl rfl).1.mp hcounts)⟩, ?_, ?_⟩
  · exact (bundleCounts_iff (hrecord _)).mpr
      ⟨plain_allReadable _ _, ⟨_, rfl, rfl⟩, inGoodOrder, rfl, hpasses _⟩
  · rw [viewMarks_iff (hrecord _) rfl]
    rintro ⟨-, report, hreport, -⟩
    cases hreport

end CapsuleMesh.Stranger
