import CapsuleMesh.Account.Conservation

/-!
# Below the publication floor

The value of a model below the floor keeps its counts, latencies and quantizations back.  Its two
notes are still written from the counts, and tell whether any exchange has settled and whether
any record carries a weights digest.
-/

namespace CapsuleMesh.Account

open Python Pane Library

variable {D : Doubles} {sourceLog : SourceLog}

/-! ## The value of a model below the floor -/

/-- What is published below the floor, by the two conditions of its notes. -/
def redacted (settled digested : Bool) : Json :=
  .obj
    [("served", .str FLOOR_LABEL),
     ("completed", .str FLOOR_LABEL),
     ("failed", .str FLOOR_LABEL),
     ("refused", .str FLOOR_LABEL),
     ("refused_note", if settled then .str REFUSED_STATUS_ABSENT_REASON else .null),
     ("latency_p50_ms", .null),
     ("latency_p95_ms", .null),
     ("latency_max_ms", .null),
     ("weights_digest", .obj
       [("present", .str FLOOR_LABEL),
        ("absent", .str FLOOR_LABEL),
        ("note", if digested then .null else .str WEIGHTS_DIGEST_ABSENT_REASON)]),
     ("quantizations", .arr []),
     ("floor_applied", .bool true)]

theorem redacted_inj {settled digested settled' digested' : Bool} :
    redacted settled digested = redacted settled' digested' ↔
      settled = settled' ∧ digested = digested' := by
  cases settled <;> cases digested <;> cases settled' <;> cases digested' <;> simp [redacted]

theorem toValue_of_below {stats : ServedModelStats D.F} (h : stats.nServed < FLOOR) :
    stats.toValue D =
      .ok (redacted (decide (0 < stats.nServed)) (decide (0 < stats.weightsDigestPresent))) := by
  rw [ServedModelStats.toValue, decide_eq_true h]
  by_cases hserved : stats.nServed = 0 <;> by_cases hpresent : stats.weightsDigestPresent = 0 <;>
    simp [redacted, hserved, hpresent, Nat.pos_iff_ne_zero]

/-! ## What a summary publishes for a model -/

/-- The value of a model in the summary of the records; there is none of a model that they do
not have. -/
def publishedFor (D : Doubles) (records : List Json) (sourceLog : SourceLog) (m : Key) :
    Py (Option Json) := do
  match (← foldServed D records sourceLog).lookup m with
  | none => return none
  | some stats => return some (← stats.toValue D)

/-- A record that counts as completed or as failed. -/
def settledFor (sourceLog : SourceLog) (m : Key) (c : Json) : Bool :=
  decide (recordStatus c ≠ .unknown) && servedFor sourceLog m c

def digestedFor (sourceLog : SourceLog) (m : Key) (c : Json) : Bool :=
  hasWeightsDigest c && servedFor sourceLog m c

theorem countOf_present {capsules : List Json} {byModel : List (Key × ServedModelStats D.F)}
    (h : foldServed D capsules sourceLog = .ok byModel) (m : Key) :
    countOf ServedModelStats.weightsDigestPresent byModel m =
      capsules.countP (digestedFor sourceLog m) := by
  obtain ⟨facts, hfacts, hfold⟩ := foldServed_eq_ok h
  have hpresent : countOf ServedModelStats.weightsDigestPresent byModel m =
      (bucketOf (factsOf m facts)).weightsPresent := by
    apply countOf_eq (hfold m) _ rfl
    intro bucket stats hstats
    exact (statsOf_eq_ok hstats).2.2.2.2.1
  rw [hpresent, weightsPresent_bucketOf]
  apply countP_factsOf hfacts m
  intro c f hf
  exact (readServed_eq_ok hf).2.2.2.symm

theorem lookup_eq_none_iff {capsules : List Json} {byModel : List (Key × ServedModelStats D.F)}
    (h : foldServed D capsules sourceLog = .ok byModel) (m : Key) :
    byModel.lookup m = none ↔ capsules.any (servedFor sourceLog m) = false := by
  obtain ⟨facts, hfacts, hlookup⟩ := lookup_foldServed h
  obtain ⟨hunserved, hserved⟩ := hlookup m
  have hnone : byModel.lookup m = none ↔ factsOf m facts = [] := by
    refine ⟨fun h => ?_, hunserved⟩
    by_contra hne
    obtain ⟨stats, hsome, -⟩ := hserved hne
    rw [h] at hsome
    cases hsome
  rw [hnone, ← List.length_eq_zero_iff, length_factsOf hfacts, List.countP_eq_zero,
    List.any_eq_false]

theorem decide_countP_pos {α : Type} (p : α → Bool) (l : List α) :
    decide (0 < l.countP p) = l.any p := by
  rw [Bool.eq_iff_iff, decide_eq_true_iff, List.countP_pos_iff, List.any_eq_true]

/-- Below the floor a summary shows of a model whether it was served, settled and digested. -/
theorem publishedFor_of_below {records : List Json} {byModel : List (Key × ServedModelStats D.F)}
    (h : foldServed D records sourceLog = .ok byModel) {m : Key}
    (hbelow : countOf ServedModelStats.nServed byModel m < FLOOR) :
    publishedFor D records sourceLog m =
      .ok (if records.any (servedFor sourceLog m) then
        some (redacted (records.any (settledFor sourceLog m)) (records.any (digestedFor sourceLog m)))
      else none) := by
  rw [publishedFor, h, Py.ok_bind]
  cases hlookup : byModel.lookup m with
  | none =>
      rw [(lookup_eq_none_iff h m).mp hlookup]
      rfl
  | some stats =>
      have hserved : records.any (servedFor sourceLog m) = true := by
        rw [← Bool.not_eq_false, ← lookup_eq_none_iff h m, hlookup]
        exact Option.some_ne_none stats
      have hsettled : stats.nServed = records.countP (settledFor sourceLog m) := by
        have hcount := countOf_nServed h m
        rw [countOf, hlookup] at hcount
        exact hcount
      have hpresent : stats.weightsDigestPresent = records.countP (digestedFor sourceLog m) := by
        have hcount := countOf_present h m
        rw [countOf, hlookup] at hcount
        exact hcount
      rw [countOf, hlookup] at hbelow
      rw [hserved, if_pos rfl]
      change (do return some (← stats.toValue D) : Py (Option Json)) = _
      rw [toValue_of_below hbelow, Py.ok_bind, Py.pure_eq_ok, hsettled, hpresent,
        decide_countP_pos, decide_countP_pos]

/-- A model that was not served has no settled record and none with a digest. -/
theorem any_and_eq_false {α : Type} {p q : α → Bool} {l : List α} (h : l.any q = false) :
    (l.any fun a => p a && q a) = false := by
  rw [List.any_eq_false] at h ⊢
  intro a ha hboth
  rw [Bool.and_eq_true] at hboth
  exact h a ha hboth.2

/-- Two sets of records below the floor are published alike when they agree on whether the model
was served at all, whether any of its records has settled and whether any has a digest. -/
theorem publishedFor_eq_iff {records₁ records₂ : List Json}
    {byModel₁ byModel₂ : List (Key × ServedModelStats D.F)}
    (h₁ : foldServed D records₁ sourceLog = .ok byModel₁)
    (h₂ : foldServed D records₂ sourceLog = .ok byModel₂) (m : Key)
    (hbelow₁ : countOf ServedModelStats.nServed byModel₁ m < FLOOR)
    (hbelow₂ : countOf ServedModelStats.nServed byModel₂ m < FLOOR) :
    publishedFor D records₁ sourceLog m = publishedFor D records₂ sourceLog m ↔
      records₁.any (servedFor sourceLog m) = records₂.any (servedFor sourceLog m) ∧
        records₁.any (settledFor sourceLog m) = records₂.any (settledFor sourceLog m) ∧
          records₁.any (digestedFor sourceLog m) = records₂.any (digestedFor sourceLog m) := by
  rw [publishedFor_of_below h₁ hbelow₁, publishedFor_of_below h₂ hbelow₂, Except.ok.injEq]
  cases hserved₁ : records₁.any (servedFor sourceLog m) with
  | false =>
      have hsettled₁ : records₁.any (settledFor sourceLog m) = false := any_and_eq_false hserved₁
      have hdigested₁ : records₁.any (digestedFor sourceLog m) = false := any_and_eq_false hserved₁
      cases hserved₂ : records₂.any (servedFor sourceLog m) with
      | false =>
        have hsettled₂ : records₂.any (settledFor sourceLog m) = false :=
          any_and_eq_false hserved₂
        have hdigested₂ : records₂.any (digestedFor sourceLog m) = false :=
          any_and_eq_false hserved₂
        simp [hsettled₁, hdigested₁, hsettled₂, hdigested₂]
      | true => simp
  | true =>
      cases hserved₂ : records₂.any (servedFor sourceLog m) with
      | false => simp
      | true =>
        rw [if_pos rfl, if_pos rfl, Option.some.injEq, redacted_inj]
        simp only [true_and]

/-- One record that has settled and one that has not. -/
theorem publishedFor_eq_iff_dispatched :
    let settled := [servedRecord "aa" "m" "12.5"]
    let pending := [dispatchedRecord]
    publishedFor exactDoubles settled .sidecar (.str "m") =
        publishedFor exactDoubles pending .sidecar (.str "m") ↔
      settled.any (servedFor .sidecar (.str "m")) = pending.any (servedFor .sidecar (.str "m")) ∧
        settled.any (settledFor .sidecar (.str "m")) =
            pending.any (settledFor .sidecar (.str "m")) ∧
          settled.any (digestedFor .sidecar (.str "m")) =
            pending.any (digestedFor .sidecar (.str "m")) := by
  intro settled pending
  have hsettled : (foldServed exactDoubles settled .sidecar).toOption.map
      (fun byModel => countOf ServedModelStats.nServed byModel (.str "m")) = some 1 := by
    decide +kernel
  have hpending : (foldServed exactDoubles pending .sidecar).toOption.map
      (fun byModel => countOf ServedModelStats.nServed byModel (.str "m")) = some 0 := by
    decide +kernel
  cases h₁ : foldServed exactDoubles settled .sidecar with
  | error e =>
      rw [h₁] at hsettled
      cases hsettled
  | ok byModel₁ =>
      cases h₂ : foldServed exactDoubles pending .sidecar with
      | error e =>
        rw [h₂] at hpending
        cases hpending
      | ok byModel₂ =>
        rw [h₁] at hsettled
        rw [h₂] at hpending
        have hbelow₁ : countOf ServedModelStats.nServed byModel₁ (.str "m") < FLOOR :=
          (Option.some.inj hsettled).trans_lt (by decide)
        have hbelow₂ : countOf ServedModelStats.nServed byModel₂ (.str "m") < FLOOR :=
          (Option.some.inj hpending).trans_lt (by decide)
        exact publishedFor_eq_iff h₁ h₂ (.str "m") hbelow₁ hbelow₂

/-- The note on refusals tells a settled exchange from one that was dispatched. -/
theorem below_floor_distinguished :
    let settled := [servedRecord "aa" "m" "12.5"]
    let pending := [dispatchedRecord]
    let nServed records := (foldServed exactDoubles records .sidecar).toOption.map
      (fun byModel => countOf ServedModelStats.nServed byModel (.str "m"))
    settled.countP (servedFor .sidecar (.str "m")) < FLOOR ∧
      pending.countP (servedFor .sidecar (.str "m")) < FLOOR ∧
        nServed settled = some 1 ∧ nServed pending = some 0 ∧
          publishedFor exactDoubles settled .sidecar (.str "m") = .ok (some (redacted true false)) ∧
            publishedFor exactDoubles pending .sidecar (.str "m") =
                .ok (some (redacted false false)) ∧
              redacted true false ≠ redacted false false := by
  intro settled pending nServed
  have hsettled : nServed settled = some 1 := by decide +kernel
  have hpending : nServed pending = some 0 := by decide +kernel
  have hdiffer : redacted true false ≠ redacted false false := by
    rw [Ne, redacted_inj]
    decide
  refine ⟨by decide +kernel, by decide +kernel, hsettled, hpending, ?_, ?_, hdiffer⟩
  · rfl
  · rfl

end CapsuleMesh.Account
