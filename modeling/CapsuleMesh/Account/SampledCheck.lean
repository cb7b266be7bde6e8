import CapsuleMesh.Account.FloorRedaction

/-!
# The sampled check of a served summary

A relying party holds some of the covered records against what the summary claims for their
models.  The records of an honest summary agree with it, but for a latency above the greatest
one as it was rounded for publication.
-/

namespace CapsuleMesh.Account

open Python Pane Library

/-! ## The check -/

def StatusBucket.name : StatusBucket → String
  | .completed => "completed"
  | .failed => "failed"
  | .unknown => "unknown"

inductive Contradiction (F : Type) where
  | modelAbsent (capsuleId model : Json)
  | noneOfStatus (capsuleId : Json) (status : StatusBucket) (model : Json)
  | latencyAbove (capsuleId : Json) (latency latencyMax : F) (model : Json)

/-- `float(x)`. -/
def floatOf (D : Doubles) (j : Json) : Py D.F := do
  match ← D.floatOrNone j with
  | some x => return x
  | none =>
      match j with
      | .str s => .error (.valueError ("could not convert string to float: " ++ Python.pyRepr s))
      | _ => .error .typeError

/-- `float(latency_max_raw) if latency_max_raw is not None else None`. -/
def claimedMax (D : Doubles) (bucket : Json) : Py (Option D.F) := do
  let raw ← bucket.get "latency_max_ms"
  if raw.isNull then return none else return some (← floatOf D raw)

def claimsNone (bucket : Json) (status : StatusBucket) : Py Bool := do
  if status = .unknown then return false
  else return (← bucket.getD status.name (.int 0)).pyEq (.int 0)

/-- The claims of a model above the floor, held against a record of it. -/
def checkClaims (D : Doubles) (bucket capsule capsuleId model : Json) :
    Py (List (Contradiction D.F)) := do
  let status := statusBucket (← effectStatus capsule)
  let noneClaimed ← claimsNone bucket status
  let latency ← latencyMs D capsule
  let latencyMax ← claimedMax D bucket
  let above := match latency, latencyMax with
    | some l, some x => if D.lt x l then [.latencyAbove capsuleId l x model] else []
    | _, _ => []
  return (if noneClaimed then [.noneOfStatus capsuleId status model] else []) ++ above

/-- One turn of the loop of `verify_served_summary`; a record that was not served is skipped. -/
def checkSampled (D : Doubles) (byModel : List (Key × Json)) (sourceLog : SourceLog)
    (capsule : Json) : Py (Option (List (Contradiction D.F))) := do
  if ← isServed capsule sourceLog then do
    let model ← modelRef capsule
    let capsuleId ← capsule.getD "capsule_id" (.str "?")
    match byModel.lookup (← model.key) with
    | none | some .null => return some [.modelAbsent capsuleId model]
    | some bucket => do
        if (← bucket.get "floor_applied").truthy then return some []
        else return some (← checkClaims D bucket capsule capsuleId model)
  else return none

structure SampledVerifyResult (F : Type) where
  ok : Bool
  sampled : ℕ
  contradictions : List (Contradiction F)

/-- `verify_served_summary`, from the `by_model` claims of the summary on. -/
def verifyServedSummary (D : Doubles) (byModel : List (Key × Json)) (sampledCapsules : List Json)
    (sourceLog : SourceLog) : Py (SampledVerifyResult D.F) := do
  let checks ← sampledCapsules.mapM (checkSampled D byModel sourceLog)
  let contradictions := checks.reduceOption.flatten
  return ⟨contradictions.isEmpty, checks.reduceOption.length, contradictions⟩

/-- The `by_model` member of the published value, under the models themselves. -/
def publishedByModel (D : Doubles) (byModel : List (Key × ServedModelStats D.F)) :
    Py (List (Key × Json)) := do
  let entries ← Sidecar.sortedValues (byModel.map fun entry => (entry.1, entry))
  entries.mapM fun entry => do return (entry.1, ← entry.2.toValue D)

/-! ## What an honest summary claims -/

variable {D : Doubles} {sourceLog : SourceLog}

theorem lookup_published {capsules : List Json} {byModel : List (Key × ServedModelStats D.F)}
    {published : List (Key × Json)} (hfold : foldServed D capsules sourceLog = .ok byModel)
    (h : publishedByModel D byModel = .ok published) (m : Key) :
    Option.Rel (fun stats value => stats.toValue D = .ok value) (byModel.lookup m)
      (published.lookup m) := by
  obtain ⟨entries, hentries, h⟩ := Py.bind_eq_ok.mp h
  have hperm : entries.Perm byModel := by
    have hsorted := Sidecar.sortedValues_perm hentries
    have hid : byModel.map (Prod.snd ∘ fun entry => (entry.1, entry)) = byModel := List.map_id _
    rwa [List.map_map, hid] at hsorted
  rw [lookup_perm hperm.symm (nodup_keys_foldServed hfold)]
  exact lookup_mapped h m

/-- The claims of a model at or above the floor. -/
theorem toValue_of_floor {stats : ServedModelStats D.F} {value : Json}
    (h : stats.toValue D = .ok value) (hfloor : ¬stats.nServed < FLOOR) :
    value.get "floor_applied" = .ok (.bool false) ∧
      value.getD "completed" (.int 0) = .ok (.int stats.nCompleted) ∧
        value.getD "failed" (.int 0) = .ok (.int stats.nFailed) ∧
          value.get "latency_max_ms" = .ok (Json.ofStr? (stats.latencyMaxMs.map D.fixed3)) := by
  rw [ServedModelStats.toValue, decide_eq_false hfloor] at h
  obtain ⟨names, -, h⟩ := Py.bind_eq_ok.mp h
  obtain rfl := Except.ok.inj h
  exact ⟨rfl, rfl, rfl, rfl⟩

/-- The double that the published text of a latency reads as. -/
def asPublished (D : Doubles) (x : D.F) : Option D.F := D.ofText (D.fixed3 x)

theorem claimedMax_of_floor (hreads : ∀ x, (asPublished D x).isSome)
    {stats : ServedModelStats D.F} {value : Json} (h : stats.toValue D = .ok value)
    (hfloor : ¬stats.nServed < FLOOR) :
    claimedMax D value = .ok (stats.latencyMaxMs.bind (asPublished D)) := by
  rw [claimedMax, (toValue_of_floor h hfloor).2.2.2, Py.ok_bind]
  cases stats.latencyMaxMs with
  | none => rfl
  | some x =>
      obtain ⟨read, hread⟩ := Option.isSome_iff_exists.mp (hreads x)
      rw [asPublished] at hread
      change (do return some (← floatOf D (.str (D.fixed3 x))) : Py (Option D.F)) =
        .ok (D.ofText (D.fixed3 x))
      rw [floatOf, Doubles.floatOrNone, hread]
      rfl

/-- A model of which a record of some status was counted is not claimed to have none. -/
theorem claimsNone_of_floor {stats : ServedModelStats D.F} {value : Json}
    (h : stats.toValue D = .ok value) (hfloor : ¬stats.nServed < FLOOR) {status : StatusBucket}
    (hcompleted : status = .completed → 0 < stats.nCompleted)
    (hfailed : status = .failed → 0 < stats.nFailed) : claimsNone value status = .ok false := by
  have hpos : ∀ n : ℕ, 0 < n → (Json.int n).pyEq (.int 0) = false := by
    intro n hn
    have hne : n ≠ 0 := by omega
    simp [Json.pyEq, Json.numEq, Json.asInt, hne]
  obtain ⟨-, hclaimed, hclaimed', -⟩ := toValue_of_floor h hfloor
  cases status with
  | unknown => rfl
  | completed =>
      rw [claimsNone, if_neg (by decide), StatusBucket.name, hclaimed, Py.ok_bind,
        hpos _ (hcompleted rfl)]
      rfl
  | failed =>
      rw [claimsNone, if_neg (by decide), StatusBucket.name, hclaimed', Py.ok_bind,
        hpos _ (hfailed rfl)]
      rfl

theorem toValue_obj {stats : ServedModelStats D.F} {value : Json}
    (h : stats.toValue D = .ok value) : ∃ members, value = .obj members := by
  by_cases hbelow : stats.nServed < FLOOR
  · rw [toValue_of_below hbelow] at h
    exact ⟨_, (Except.ok.inj h).symm⟩
  · rw [ServedModelStats.toValue, decide_eq_false hbelow] at h
    obtain ⟨names, -, h⟩ := Py.bind_eq_ok.mp h
    exact ⟨_, (Except.ok.inj h).symm⟩

/-! ## The records of a model -/

/-- The latencies of the served records of a model. -/
def latenciesFor (D : Doubles) (sourceLog : SourceLog) (m : Key) (covered : List Json) : List D.F :=
  (covered.filter (servedFor sourceLog m)).filterMap fun c => (latencyMs D c).toOption.getD none

def maxFor (D : Doubles) (sourceLog : SourceLog) (m : Key) (covered : List Json) : Option D.F :=
  (D.sorted (latenciesFor D sourceLog m covered)).getLast?

theorem latencies_factsOf {capsules : List Json} {facts : List (ServedFacts D.F)}
    (h : servedFacts D capsules sourceLog = .ok facts) (m : Key) :
    (factsOf m facts).filterMap ServedFacts.latency = latenciesFor D sourceLog m capsules := by
  have hall := read_factsOf h m
  rw [latenciesFor]
  generalize capsules.filter (servedFor sourceLog m) = served at hall ⊢
  generalize factsOf m facts = read at hall ⊢
  induction hall with
  | nil => rfl
  | cons hread _ ih =>
      rw [List.filterMap_cons, List.filterMap_cons, ih, (readServed_eq_ok hread).2.2.1]
      rfl

/-- What the summary holds for the model of a covered record. -/
theorem lookup_of_read {covered : List Json} {byModel : List (Key × ServedModelStats D.F)}
    (hfold : foldServed D covered sourceLog = .ok byModel) {c : Json} (hc : c ∈ covered)
    {m : Key} (hserved : servedFor sourceLog m c = true) :
    ∃ stats, byModel.lookup m = some stats ∧
      stats.nServed = covered.countP (settledFor sourceLog m) ∧
        stats.latencyMaxMs = maxFor D sourceLog m covered ∧
          (recordStatus c = .completed → 0 < stats.nCompleted) ∧
            (recordStatus c = .failed → 0 < stats.nFailed) := by
  obtain ⟨facts, hfacts, hlookup⟩ := lookup_foldServed hfold
  have hpos : ∀ status, recordStatus c = status →
      0 < (factsOf m facts).countP fun f => f.status = status := by
    intro status hstatus
    have hcount : (factsOf m facts).countP (fun f => decide (f.status = status)) =
        covered.countP fun c => decide (recordStatus c = status) && servedFor sourceLog m c := by
      apply countP_factsOf hfacts m
      intro c f hf
      rw [(readServed_eq_ok hf).2.1]
    rw [hcount, List.countP_pos_iff]
    exact ⟨c, hc, by rw [hserved, decide_eq_true hstatus]; rfl⟩
  have hne : factsOf m facts ≠ [] := by
    intro hnil
    have hzero := hpos (recordStatus c) rfl
    rw [hnil] at hzero
    exact absurd hzero (Nat.lt_irrefl 0)
  obtain ⟨stats, hstats, hmade⟩ := (hlookup m).2 hne
  obtain ⟨-, hcompleted, hfailed, hmax, -⟩ := statsOf_eq_ok hmade
  refine ⟨stats, hstats, ?_, ?_, ?_, ?_⟩
  · have hcount := countOf_nServed hfold m
    rw [countOf, hstats] at hcount
    exact hcount
  · rw [hmax, latencies_bucketOf, latencies_factsOf hfacts, maxFor]
  · intro hstatus
    rw [hcompleted, nCompleted_bucketOf]
    exact hpos _ hstatus
  · intro hstatus
    rw [hfailed, nFailed_bucketOf]
    exact hpos _ hstatus

/-! ## Samples of the covered records -/

/-- The record's latency is above what the greatest latency of its model reads as once it is
published. -/
def AbovePublished (D : Doubles) (sourceLog : SourceLog) (covered : List Json) (c : Json) : Prop :=
  ∃ m latency greatest read, servedFor sourceLog m c = true ∧
    FLOOR ≤ covered.countP (settledFor sourceLog m) ∧ latencyMs D c = .ok (some latency) ∧
      maxFor D sourceLog m covered = some greatest ∧ asPublished D greatest = some read ∧
        D.lt read latency = true

theorem model_of_servedFor {c : Json} {m k : Key} (h : servedFor sourceLog m c = true)
    (hkey : modelKey c = .ok k) : m = k := by
  rw [servedFor, Bool.and_eq_true, decide_eq_true_iff, hkey] at h
  exact (Except.ok.inj h.2).symm

theorem exists_capsuleId {c : Json} {b : Bool} (h : isServed c sourceLog = .ok b) :
    ∃ id, c.getD "capsule_id" (.str "?") = .ok id := by
  cases c with
  | obj members => exact ⟨_, rfl⟩
  | _ => cases h

/-- Above the floor only a latency can contradict the claims of the record's own model. -/
theorem checkClaims_of_floor (hreads : ∀ x, (asPublished D x).isSome)
    {stats : ServedModelStats D.F} {value c : Json} {f : ServedFacts D.F}
    (h : stats.toValue D = .ok value) (hfloor : ¬stats.nServed < FLOOR)
    (hread : readServed D c = .ok f) (hcompleted : f.status = .completed → 0 < stats.nCompleted)
    (hfailed : f.status = .failed → 0 < stats.nFailed) (capsuleId model : Json) :
    ∃ found, checkClaims D value c capsuleId model = .ok found ∧
      (found = [] ↔ ∀ latency read, f.latency = some latency →
        stats.latencyMaxMs.bind (asPublished D) = some read → D.lt read latency = false) := by
  obtain ⟨status, hstatus, hbucket⟩ := effectStatus_of_read hread
  have hnone : claimsNone value f.status = .ok false :=
    claimsNone_of_floor h hfloor hcompleted hfailed
  have hmax := claimedMax_of_floor hreads h hfloor
  simp only [checkClaims, hstatus, Py.ok_bind, hbucket, hnone, (readServed_eq_ok hread).2.2.1, hmax]
  refine ⟨_, rfl, ?_⟩
  cases f.latency with
  | none => simp
  | some latency =>
      cases stats.latencyMaxMs.bind (asPublished D) with
      | none => simp
      | some read => cases hlt : D.lt read latency <;> simp [hlt]

/-- What the check says of a covered record that was served. -/
theorem checkSampled_of_served {covered : List Json} {byModel : List (Key × ServedModelStats D.F)}
    {published : List (Key × Json)} (hreads : ∀ x, (asPublished D x).isSome)
    (hfold : foldServed D covered sourceLog = .ok byModel)
    (hpublished : publishedByModel D byModel = .ok published) {c : Json} (hc : c ∈ covered)
    (hserved : isServed c sourceLog = .ok true) :
    ∃ found, checkSampled D published sourceLog c = .ok (some found) ∧
      (found = [] ↔ ¬AbovePublished D sourceLog covered c) := by
  obtain ⟨facts, hfacts, -⟩ := foldServed_eq_ok hfold
  obtain ⟨f, -, hread⟩ := exists_readServed hfacts hc hserved
  obtain ⟨hkey, hstatus, hlatency, -⟩ := readServed_eq_ok hread
  obtain ⟨model, hmodel, hkey⟩ := Py.bind_eq_ok.mp hkey
  have hfor := servedFor_of_read hserved hread
  obtain ⟨stats, hstats, hcount, hmax, hcompleted, hfailed⟩ := lookup_of_read hfold hc hfor
  obtain ⟨capsuleId, hid⟩ := exists_capsuleId hserved
  obtain ⟨value, hvalue, htoValue⟩ : ∃ value, published.lookup f.model = some value ∧
      stats.toValue D = .ok value := by
    have hrel := lookup_published hfold hpublished f.model
    rw [hstats] at hrel
    cases hlookup : published.lookup f.model with
    | none =>
        rw [hlookup] at hrel
        cases hrel
    | some value =>
        rw [hlookup] at hrel
        cases hrel with
        | some hvalue => exact ⟨value, rfl, hvalue⟩
  have hcheck : checkSampled D published sourceLog c = (do
      if (← value.get "floor_applied").truthy then return some []
      else return some (← checkClaims D value c capsuleId model)) := by
    obtain ⟨members, rfl⟩ := toValue_obj htoValue
    rw [checkSampled, hserved, Py.ok_bind, if_pos rfl, hmodel, Py.ok_bind, hid, Py.ok_bind, hkey,
      Py.ok_bind, hvalue]
  rw [hcheck]
  by_cases hbelow : stats.nServed < FLOOR
  · refine ⟨[], ?_, ?_⟩
    · rw [toValue_of_below hbelow] at htoValue
      obtain rfl := Except.ok.inj htoValue
      rfl
    · refine iff_of_true rfl ?_
      rintro ⟨m, -, -, -, hm, hfloor, -⟩
      obtain rfl := model_of_servedFor hm (readServed_eq_ok hread).1
      rw [hcount] at hbelow
      exact absurd hfloor (Nat.not_le.mpr hbelow)
  · rw [hstatus] at hcompleted hfailed
    obtain ⟨found, hfound, hempty⟩ :=
      checkClaims_of_floor hreads htoValue hbelow hread hcompleted hfailed capsuleId model
    refine ⟨found, ?_, ?_⟩
    · rw [(toValue_of_floor htoValue hbelow).1, Py.ok_bind, hfound]
      rfl
    · rw [hempty, hmax]
      constructor
      · rintro hall ⟨m, latency, greatest, read, hm, -, hl, hgreatest, hpub, hlt⟩
        obtain rfl := model_of_servedFor hm (readServed_eq_ok hread).1
        obtain hl' := Except.ok.inj (hlatency.symm.trans hl)
        have hbind : (maxFor D sourceLog f.model covered).bind (asPublished D) = some read := by
          rw [hgreatest]
          exact hpub
        rw [hall latency read hl' hbind] at hlt
        cases hlt
      · intro hnot latency read hl hbind
        obtain ⟨greatest, hgreatest, hpub⟩ := Option.bind_eq_some_iff.mp hbind
        rw [← Bool.not_eq_true]
        intro hlt
        apply hnot
        rw [hcount] at hbelow
        exact ⟨f.model, latency, greatest, read, hfor, Nat.not_lt.mp hbelow,
          hlatency.trans (congrArg Except.ok hl), hgreatest, hpub, hlt⟩

theorem checkSampled_of_covered {covered : List Json}
    {byModel : List (Key × ServedModelStats D.F)} {published : List (Key × Json)}
    (hreads : ∀ x, (asPublished D x).isSome)
    (hfold : foldServed D covered sourceLog = .ok byModel)
    (hpublished : publishedByModel D byModel = .ok published) {c : Json} (hc : c ∈ covered) :
    ∃ check, checkSampled D published sourceLog c = .ok check ∧
      (check.getD [] = [] ↔ ¬AbovePublished D sourceLog covered c) := by
  obtain ⟨facts, hfacts, -⟩ := foldServed_eq_ok hfold
  obtain ⟨b, hserved⟩ := isServed_told hfacts hc
  cases b with
  | true =>
      obtain ⟨found, hfound, hempty⟩ :=
        checkSampled_of_served hreads hfold hpublished hc hserved
      exact ⟨some found, hfound, hempty⟩
  | false =>
      refine ⟨none, ?_, iff_of_true rfl ?_⟩
      · rw [checkSampled, hserved]
        rfl
      · rintro ⟨m, -, -, -, hm, -⟩
        have htrue := isServed_of_servedFor hm
        rw [hserved] at htrue
        cases htrue

theorem contradictions_eq_nil_iff {α : Type} {checks : List (Option (List α))} :
    checks.reduceOption.flatten = [] ↔ ∀ check ∈ checks, check.getD [] = [] := by
  induction checks with
  | nil => simp
  | cons check checks ih =>
      cases check with
      | none => simpa using ih
      | some found => simp [List.reduceOption_cons_of_some, ← ih]

/-- An honest summary is ok with a sample of its own covered records exactly when none of them
has a latency above the published reading of the greatest one. -/
theorem verifyServedSummary_ok_iff (hreads : ∀ x, (asPublished D x).isSome)
    {leafCount : Int → Py ℕ} {nodeId : Json} {records : List Json}
    {latestCheckpoint : Option History.CheckpointLine} {summary : ServedSummary D.F}
    (hbuilt : buildServedSummary D leafCount nodeId records latestCheckpoint sourceLog =
      .ok summary) {published : List (Key × Json)}
    (hpublished : publishedByModel D summary.byModel = .ok published) {sampled : List Json}
    (hsample : ∀ c ∈ sampled, c ∈ records.take summary.coveredEntries) :
    (∃ result, verifyServedSummary D published sampled sourceLog = .ok result ∧ result.ok = true) ↔
      ∀ c ∈ sampled, ¬AbovePublished D sourceLog (records.take summary.coveredEntries) c := by
  have hfold := foldServed_of_build hbuilt
  obtain ⟨checks, hchecks, hall⟩ := Py.exists_map_eq_ok fun c hc =>
    checkSampled_of_covered hreads hfold hpublished (hsample c hc)
  rw [verifyServedSummary, Py.mapM_eq_ok.mpr hchecks, Py.ok_bind]
  have hempty : checks.reduceOption.flatten = [] ↔
      ∀ c ∈ sampled, ¬AbovePublished D sourceLog (records.take summary.coveredEntries) c := by
    rw [contradictions_eq_nil_iff]
    clear hchecks
    induction hall with
    | nil => simp
    | cons hcheck _ ih =>
        rw [List.forall_mem_cons, List.forall_mem_cons, hcheck,
          ih fun c hc => hsample c (List.mem_cons_of_mem _ hc)]
  rw [← hempty]
  constructor
  · rintro ⟨result, hresult, hok⟩
    obtain rfl := Except.ok.inj hresult
    exact List.isEmpty_iff.mp hok
  · intro hnil
    exact ⟨_, rfl, List.isEmpty_iff.mpr hnil⟩

def readingDoubles : Doubles :=
  { exactDoubles with ofText := fun text => some ((Sidecar.decimal text).getD 0) }

def fiveLeaves : History.CheckpointLine := { twoLeaves with mmrSize := 8 }

/-- One served record of the model for each latency. -/
def fiveRecords (latencies : List String) : List Json :=
  latencies.map fun latency => servedRecord latency "m" latency

theorem verifyServedSummary_ok_iff_fiveRecords :
    let ledger := fiveRecords ["12.5", "7.25", "3.125", "8.0", "9.5"]
    let built := buildServedSummary readingDoubles leafCountOfSize (.str "n") ledger
      (some fiveLeaves) .sidecar
    ∃ summary published, built = .ok summary ∧
      publishedByModel readingDoubles summary.byModel = .ok published ∧
        ((∃ result, verifyServedSummary readingDoubles published ledger .sidecar = .ok result ∧
            result.ok = true) ↔
          ∀ c ∈ ledger, ¬AbovePublished readingDoubles .sidecar
            (ledger.take summary.coveredEntries) c) := by
  intro ledger built
  have hcovers : built.toOption.map (fun s => (s.coveredEntries,
      (publishedByModel readingDoubles s.byModel).isOk)) = some (5, true) := by decide +kernel
  cases hbuilt : built with
  | error e =>
      rw [hbuilt] at hcovers
      cases hcovers
  | ok summary =>
      rw [hbuilt] at hcovers
      obtain ⟨hentries, hok⟩ := Prod.mk.inj (Option.some.inj hcovers)
      cases hpublished : publishedByModel readingDoubles summary.byModel with
      | error e =>
        rw [hpublished] at hok
        cases hok
      | ok published =>
        refine ⟨summary, published, rfl, hpublished, ?_⟩
        refine verifyServedSummary_ok_iff (fun _ => rfl) hbuilt hpublished ?_
        intro c hc
        rw [hentries]
        exact hc

/-- The greatest latency is published as `1.000`, and the record that it comes from is above
that. -/
theorem rounded_max_contradicted :
    let ledger := fiveRecords ["1.0004", "1.0", "1.0", "1.0", "1.0"]
    let verdict : Py (ℕ × Bool) := do
      let summary ← buildServedSummary readingDoubles leafCountOfSize (.str "n") ledger
        (some fiveLeaves) .sidecar
      let published ← publishedByModel readingDoubles summary.byModel
      let result ← verifyServedSummary readingDoubles published (ledger.take 1) .sidecar
      return (summary.coveredEntries, result.ok)
    verdict = .ok (5, false) := by
  decide +kernel

end CapsuleMesh.Account
