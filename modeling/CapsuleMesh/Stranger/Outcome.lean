import CapsuleMesh.Stranger.Agreement

/-!
# The outcome of a stranger's verification

`main` of `stranger_verify_bundle.py`: the verdicts on the capsules of a bundle, on its
checkpoints and of the tamper probe are merged into one of three outcomes.
-/

namespace CapsuleMesh.Stranger

open Python

inductive Outcome where
  | pass
  | unverified
  | fail
deriving DecidableEq

/-- The three-state top line. -/
def overall (report : BundleReport) (checkpointOk tamperOk : Bool) : Outcome :=
  if report.anyUnverified && checkpointOk && tamperOk then .unverified
  else if report.allOk && checkpointOk && tamperOk then .pass
  else .fail

/-- `main`, up to what `run_checkpoint_verify` and, where it is asked for, `tamper_check`
return. -/
def main (T : Tools) (dir : BundleDir) (acks : List (String × ClientAck))
    (issuerKey : Option String) (checkpoint tamper : Py Bool) : Py Outcome := do
  let report ← verifyBundle T dir acks issuerKey
  let checkpointOk ← checkpoint
  let tamperOk ← tamper
  return overall report checkpointOk tamperOk

/-! ## How a capsule fails -/

section

variable (T : Tools) (dir : BundleDir) (issuerKey : Option String)

/-- `record.get("capsule_id", "<missing>")`. -/
def idOf (record : Json) : Json :=
  (record.getD "capsule_id" (.str "<missing>")).toOption.getD (.str "<missing>")

/-- There is a signed statement and no key to check it with. -/
def Unchecked (record : Json) : Prop :=
  dir.pathExists (dir.statementPath (idOf record)) = true ∧ issuerKeyFor dir issuerKey = none

/-- The content hash or the chain does not verify, there is no signed statement, or with a key
at hand its signature is in error, false or over another capsule. -/
def FailsHard (record : Json) (result : VerificationResult) : Prop :=
  result.ok = false ∨ dir.pathExists (dir.statementPath (idOf record)) = false ∨
    ∃ key, issuerKeyFor dir issuerKey = some key ∧
      ∀ report, T.verifyTransparent (dir.statementPath (idOf record)) key = .ok report →
        BundleRefuses (idOf record) report

/-- The capsules of a bundle with the results of `verify_store`. -/
def capsules : List (Json × VerificationResult) := dir.records.zip (T.verifyStore dir.records)

/-- The outcome says what happened to the capsules and the segments. -/
structure Exact (outcome : Outcome) : Prop where
  unverified : outcome = .unverified → ∀ capsule ∈ capsules T dir,
    Unchecked dir issuerKey capsule.1 ∨ FailsHard T dir issuerKey capsule.1 capsule.2 →
      Unchecked dir issuerKey capsule.1 ∧ ¬ FailsHard T dir issuerKey capsule.1 capsule.2
  unchecked : (∃ capsule ∈ capsules T dir, Unchecked dir issuerKey capsule.1) → outcome ≠ .pass
  unread : dir.archived ≠ [] → outcome ≠ .pass
  hard : (∃ capsule ∈ capsules T dir, FailsHard T dir issuerKey capsule.1 capsule.2) →
    outcome = .fail

end

variable {T : Tools} {dir : BundleDir} {acks : List (String × ClientAck)}
  {issuerKey : Option String}

theorem startsWith_append_of_le {text start : String} (hle : start.length ≤ text.length)
    (rest : String) : startsWith (text ++ rest) start = startsWith text start := by
  have hlength : start.toList.length ≤ text.toList.length := by
    simpa only [String.length_toList] using hle
  simp only [startsWith, String.toList_append, decide_eq_decide]
  constructor
  · intro h
    exact List.prefix_of_prefix_length_le h (List.prefix_append _ _) hlength
  · intro h
    exact h.trans (List.prefix_append _ _)

/-- Only the text on a missing key reads as unverified. -/
theorem isUnverifiedLine_iff (T : Tools) (dir : BundleDir) (capsuleId : Json)
    (key : Option String) :
    isUnverifiedLine (transparentCheck T dir capsuleId key) = true ↔
      dir.pathExists (dir.statementPath capsuleId) = true ∧ key = none := by
  have hmissing : isUnverifiedLine (noSignatureText capsuleId) = false := by
    have hle : "UNVERIFIED:".length ≤ "NO SIGNATURE: no signed-statements/".length := by decide
    unfold isUnverifiedLine noSignatureText
    apply (startsWith_append_of_le hle _).trans
    decide +kernel
  have hunverified : isUnverifiedLine unverifiedText = true := by
    unfold unverifiedText
    apply startsWith_append
    decide +kernel
  have herror : ∀ exc, isUnverifiedLine ("transparent verify error: " ++ exc) = false := by
    intro exc
    have hle : "UNVERIFIED:".length ≤ "transparent verify error: ".length := by decide
    unfold isUnverifiedLine
    apply (startsWith_append_of_le hle _).trans
    decide +kernel
  have hsubject : ∀ id, isUnverifiedLine (subjectMismatchText capsuleId id) = false := by
    intro id
    have hle : "UNVERIFIED:".length ≤ "SUBJECT MISMATCH: statement at signed-statements/".length := by
      decide
    unfold isUnverifiedLine subjectMismatchText
    apply (startsWith_append_of_le hle _).trans
    decide +kernel
  unfold transparentCheck
  cases hexists : dir.pathExists (dir.statementPath capsuleId) with
  | false => simp [hmissing]
  | true =>
      cases key with
      | none => simp [hunverified]
      | some key =>
        cases hreport : T.verifyTransparent (dir.statementPath capsuleId) key with
        | error exc => simp [hreport, herror]
        | ok report =>
          simp only [hreport, Bool.not_true, Bool.false_eq_true, if_false, reduceCtorEq,
            and_false, iff_false, Bool.not_eq_true]
          split
          · exact hsubject _
          · exact (reportText_lines report).1

/-- A report is not refused where the statement can be read and does not fail. -/
theorem reportOn_passes_iff (T : Tools) (dir : BundleDir) (issuerKey : Option String)
    (record : Json) (result : VerificationResult) :
    (result.ok = true ∧ ∃ report,
      reportOn T dir (idOf record) (issuerKeyFor dir issuerKey) = some report ∧
        ¬ BundleRefuses (idOf record) report) ↔
      ¬ Unchecked dir issuerKey record ∧ ¬ FailsHard T dir issuerKey record result := by
  unfold Unchecked FailsHard reportOn
  cases hok : result.ok with
  | false => simp
  | true =>
      cases hexists : dir.pathExists (dir.statementPath (idOf record)) with
      | false => simp
      | true =>
        cases issuerKeyFor dir issuerKey with
        | none => simp
        | some key =>
          cases hreport : T.verifyTransparent (dir.statementPath (idOf record)) key with
          | error exc => simp [hreport, Except.toOption]
          | ok report => simp [hreport, Except.toOption]

/-- What one turn of the loop finds. -/
theorem bundleEntry_verdict {record : Json} {result : VerificationResult} {entry : BundleEntry}
    (h : bundleEntry T dir acks (issuerKeyFor dir issuerKey) record result = .ok entry) :
    (entry.unverified = true ↔ Unchecked dir issuerKey record) ∧
      (entry.ok = true ↔
        ¬ Unchecked dir issuerKey record ∧ ¬ FailsHard T dir issuerKey record result) := by
  unfold bundleEntry at h
  obtain ⟨capsuleId, hid, h⟩ := Py.bind_eq_ok.mp h
  obtain ⟨rung, -, h⟩ := Py.bind_eq_ok.mp h
  obtain ⟨provenance, -, h⟩ := Py.bind_eq_ok.mp h
  obtain ⟨advertised, -, h⟩ := Py.bind_eq_ok.mp h
  have hcapsule : idOf record = capsuleId := by
    rw [idOf, hid]
    rfl
  subst hcapsule
  obtain rfl := Except.ok.inj h
  constructor
  · exact isUnverifiedLine_iff T dir (idOf record) (issuerKeyFor dir issuerKey)
  · rw [← reportOn_passes_iff, ← transparentCheck_passes]
    simp only [Bool.and_eq_true, Bool.not_eq_true', and_assoc]

/-- The report of a bundle with records, where it can read them all. -/
theorem verifyBundle_flags {report : BundleReport} (hrecords : dir.records ≠ [])
    (h : verifyBundle T dir acks issuerKey = .ok report) :
    (report.anyUnverified = true ↔
      ∃ capsule ∈ capsules T dir, Unchecked dir issuerKey capsule.1) ∧
      (report.allOk = true ↔ ∀ capsule ∈ capsules T dir,
        ¬ Unchecked dir issuerKey capsule.1 ∧ ¬ FailsHard T dir issuerKey capsule.1 capsule.2) := by
  have hempty : dir.records.isEmpty = false := by simpa using hrecords
  rw [verifyBundle, hempty] at h
  obtain ⟨entries, hentries, h⟩ := Py.bind_eq_ok.mp h
  obtain rfl := Except.ok.inj h
  constructor
  · rw [List.any_eq_true]
    constructor
    · rintro ⟨entry, hentry, hunverified⟩
      obtain ⟨i, hi⟩ := List.getElem?_of_mem hentry
      obtain ⟨capsule, hcapsule, hstep⟩ := Py.mapM_getElem? hentries hi
      exact ⟨capsule, List.mem_of_getElem? hcapsule, (bundleEntry_verdict hstep).1.mp hunverified⟩
    · rintro ⟨capsule, hcapsule, hunchecked⟩
      obtain ⟨i, hi⟩ := List.getElem?_of_mem hcapsule
      obtain ⟨entry, hentry, hstep⟩ := Py.getElem?_mapM hentries hi
      exact ⟨entry, List.mem_of_getElem? hentry, (bundleEntry_verdict hstep).1.mpr hunchecked⟩
  · rw [List.all_eq_true]
    constructor
    · intro hall capsule hcapsule
      obtain ⟨i, hi⟩ := List.getElem?_of_mem hcapsule
      obtain ⟨entry, hentry, hstep⟩ := Py.getElem?_mapM hentries hi
      exact (bundleEntry_verdict hstep).2.mp (hall entry (List.mem_of_getElem? hentry))
    · intro hall entry hentry
      obtain ⟨i, hi⟩ := List.getElem?_of_mem hentry
      obtain ⟨capsule, hcapsule, hstep⟩ := Py.mapM_getElem? hentries hi
      exact (bundleEntry_verdict hstep).2.mpr (hall capsule (List.mem_of_getElem? hcapsule))

/-- The loop comes to its end exactly where it can read all records. -/
theorem verifyBundle_returns_iff :
    (∃ report, verifyBundle T dir acks issuerKey = .ok report) ↔ AllReadable T dir acks := by
  by_cases hrecords : dir.records = []
  · rw [verifyBundle, hrecords]
    refine iff_of_true ⟨_, rfl⟩ ?_
    intro capsule hcapsule
    rw [hrecords] at hcapsule
    cases hcapsule
  · have hempty : dir.records.isEmpty = false := by simpa using hrecords
    rw [verifyBundle, hempty]
    constructor
    · rintro ⟨report, h⟩ capsule hcapsule
      obtain ⟨entries, hentries, -⟩ := Py.bind_eq_ok.mp h
      exact (bundleEntry_returns _ _ _).mp (Py.mapM_returns.mp ⟨entries, hentries⟩ capsule hcapsule)
    · intro hall
      obtain ⟨entries, hentries⟩ := Py.mapM_returns.mpr fun capsule hcapsule =>
        (bundleEntry_returns (issuerKeyFor dir issuerKey) capsule.1 capsule.2).mpr
          (hall capsule hcapsule)
      exact ⟨_, Py.bind_eq_ok.mpr ⟨entries, hentries, rfl⟩⟩

theorem exact_fail : Exact T dir issuerKey .fail where
  unverified := by simp
  unchecked := by simp
  unread := by simp
  hard := by simp

theorem exact_unverified
    (hsoft : ∀ capsule ∈ capsules T dir, ¬ FailsHard T dir issuerKey capsule.1 capsule.2) :
    Exact T dir issuerKey .unverified := by
  constructor
  · intro _ capsule hcapsule hor
    exact ⟨hor.resolve_right (hsoft capsule hcapsule), hsoft capsule hcapsule⟩
  · simp
  · simp
  · rintro ⟨capsule, hcapsule, hfails⟩
    exact absurd hfails (hsoft capsule hcapsule)

theorem exact_pass
    (hpasses : ∀ capsule ∈ capsules T dir,
      ¬ Unchecked dir issuerKey capsule.1 ∧ ¬ FailsHard T dir issuerKey capsule.1 capsule.2)
    (harchived : dir.archived ≠ [] → ∃ capsule ∈ capsules T dir,
      Unchecked dir issuerKey capsule.1 ∨ FailsHard T dir issuerKey capsule.1 capsule.2) :
    Exact T dir issuerKey .pass := by
  constructor
  · simp
  · rintro ⟨capsule, hcapsule, hunchecked⟩
    exact absurd hunchecked (hpasses capsule hcapsule).1
  · intro hne
    obtain ⟨capsule, hcapsule, hor⟩ := harchived hne
    exact absurd hor (not_or.mpr (hpasses capsule hcapsule))
  · rintro ⟨capsule, hcapsule, hfails⟩
    exact absurd hfails (hpasses capsule hcapsule).2

/-- Where the checkpoints and the probe are in order, no capsule fails hard beside an unchecked
one, and segments are archived only in a bundle that does not pass. -/
def NothingMasked (T : Tools) (dir : BundleDir) (issuerKey : Option String) : Prop :=
  (∀ capsule ∈ capsules T dir, ∀ other ∈ capsules T dir,
    FailsHard T dir issuerKey capsule.1 capsule.2 → ¬ Unchecked dir issuerKey other.1) ∧
  (dir.records ≠ [] → dir.archived ≠ [] → ∃ capsule ∈ capsules T dir,
    Unchecked dir issuerKey capsule.1 ∨ FailsHard T dir issuerKey capsule.1 capsule.2)

/-- The merged outcome of a report, with everything else in order. -/
theorem overall_exact_iff {report : BundleReport}
    (h : verifyBundle T dir acks issuerKey = .ok report) :
    Exact T dir issuerKey (overall report true true) ↔ NothingMasked T dir issuerKey := by
  by_cases hrecords : dir.records = []
  · rw [verifyBundle, hrecords] at h
    obtain rfl := Except.ok.inj h
    have hcapsules : capsules T dir = [] := by rw [capsules, hrecords, List.zip_nil_left]
    refine iff_of_true exact_fail ⟨?_, fun hne => absurd hrecords hne⟩
    intro capsule hcapsule
    rw [hcapsules] at hcapsule
    cases hcapsule
  · obtain ⟨hany, hall⟩ := verifyBundle_flags hrecords h
    constructor
    · intro hexact
      constructor
      · intro capsule hcapsule other hother hfails hunchecked
        have hflag : report.anyUnverified = true := hany.mpr ⟨other, hother, hunchecked⟩
        have houtcome : overall report true true = .unverified := by simp [overall, hflag]
        exact (hexact.unverified houtcome capsule hcapsule (Or.inr hfails)).2 hfails
      · intro _ harchived
        by_contra hnone
        push Not at hnone
        have hflag : report.anyUnverified = false := by
          rw [← Bool.not_eq_true, hany]
          rintro ⟨capsule, hcapsule, hunchecked⟩
          exact (hnone capsule hcapsule).1 hunchecked
        have hok : report.allOk = true := hall.mpr hnone
        exact hexact.unread harchived (by simp [overall, hflag, hok])
    · rintro ⟨hbeside, harchived⟩
      cases hflag : report.anyUnverified with
      | true =>
        have houtcome : overall report true true = .unverified := by simp [overall, hflag]
        obtain ⟨other, hother, hunchecked⟩ := hany.mp hflag
        have hsoft : ∀ capsule ∈ capsules T dir,
            ¬ FailsHard T dir issuerKey capsule.1 capsule.2 := fun capsule hcapsule hfails =>
          hbeside capsule hcapsule other hother hfails hunchecked
        rw [houtcome]
        exact exact_unverified hsoft
      | false =>
        cases hok : report.allOk with
        | true =>
          have houtcome : overall report true true = .pass := by simp [overall, hflag, hok]
          have hpasses := hall.mp hok
          rw [houtcome]
          exact exact_pass hpasses (harchived hrecords)
        | false =>
          have houtcome : overall report true true = .fail := by simp [overall, hflag, hok]
          rw [houtcome]
          exact exact_fail

theorem overall_of_not {report : BundleReport} {checkpointOk tamperOk : Bool}
    (h : (checkpointOk && tamperOk) = false) : overall report checkpointOk tamperOk = .fail := by
  simp [overall, Bool.and_assoc, h]

/-- The reported outcome is exact unless all records can be read, the checkpoints and the probe
are in order, and something is masked. -/
theorem outcome_exact_iff (T : Tools) (dir : BundleDir) (acks : List (String × ClientAck))
    (issuerKey : Option String) (checkpoint tamper : Py Bool) :
    (∀ outcome, main T dir acks issuerKey checkpoint tamper = .ok outcome →
      Exact T dir issuerKey outcome) ↔
      (AllReadable T dir acks → checkpoint = .ok true → tamper = .ok true →
        NothingMasked T dir issuerKey) := by
  constructor
  · intro hexact hreadable hcheckpoint htamper
    obtain ⟨report, hreport⟩ := verifyBundle_returns_iff.mpr hreadable
    apply (overall_exact_iff hreport).mp
    apply hexact
    rw [main, hreport, hcheckpoint, htamper]
    rfl
  · intro h outcome houtcome
    obtain ⟨report, hreport, houtcome⟩ := Py.bind_eq_ok.mp houtcome
    obtain ⟨checkpointOk, hcheckpoint, houtcome⟩ := Py.bind_eq_ok.mp houtcome
    obtain ⟨tamperOk, htamper, houtcome⟩ := Py.bind_eq_ok.mp houtcome
    obtain rfl := Except.ok.inj houtcome
    cases hboth : checkpointOk && tamperOk with
    | true =>
        obtain ⟨rfl, rfl⟩ := Bool.and_eq_true_iff.mp hboth
        exact (overall_exact_iff hreport).mpr
          (h (verifyBundle_returns_iff.mp ⟨report, hreport⟩) hcheckpoint htamper)
    | false =>
        rw [overall_of_not hboth]
        exact exact_fail

/-! ## A broken capsule beside an unchecked one -/

/-- Two capsules, of which only the first has a signed statement, and no key. -/
def mixedDir : BundleDir where
  path := "/copy/ledger"
  parent := "/copy"
  records := [.obj [("capsule_id", .str "a")], .obj [("capsule_id", .str "b")]]
  archived := []
  isStoreLedger := false
  pathExists := fun path => decide (path = "/copy/ledger/signed-statements/a.cose")
  pubKeys := []

theorem missing_signature_unverified :
    main (plainTools inGoodOrder) mixedDir [] none (.ok true) (.ok true) = .ok .unverified ∧
      ¬ Exact (plainTools inGoodOrder) mixedDir none .unverified := by
  have hfirst : Unchecked mixedDir none (.obj [("capsule_id", .str "a")]) := by
    exact ⟨by decide +kernel, by decide +kernel⟩
  have hsecond : FailsHard (plainTools inGoodOrder) mixedDir none
      (.obj [("capsule_id", .str "b")]) ⟨true, []⟩ := by
    exact Or.inr (Or.inl (by decide +kernel))
  have hmem : ∀ capsule ∈ [(Json.obj [("capsule_id", .str "a")], (⟨true, []⟩ : VerificationResult)),
      (.obj [("capsule_id", .str "b")], ⟨true, []⟩)], capsule ∈
        capsules (plainTools inGoodOrder) mixedDir := fun capsule hcapsule => hcapsule
  constructor
  · have hreadable : AllReadable (plainTools inGoodOrder) mixedDir [] := by
      intro capsule hcapsule
      rcases List.mem_pair.mp hcapsule with rfl | rfl <;> exact ⟨_, _, _, _, rfl, rfl, rfl, rfl⟩
    have hreturns : ∃ report, verifyBundle (plainTools inGoodOrder) mixedDir [] none = .ok report :=
      verifyBundle_returns_iff.mpr hreadable
    obtain ⟨report, hreport⟩ := hreturns
    have hflag : report.anyUnverified = true :=
      (verifyBundle_flags (List.cons_ne_nil _ _) hreport).1.mpr
        ⟨_, hmem _ List.mem_cons_self, hfirst⟩
    have houtcome : overall report true true = .unverified := by simp [overall, hflag]
    rw [main, hreport, ← houtcome]
    rfl
  · intro hexact
    have hlast := hmem _ (List.mem_cons_of_mem _ List.mem_cons_self)
    exact (hexact.unverified rfl _ hlast (Or.inr hsecond)).2 hsecond

end CapsuleMesh.Stranger
