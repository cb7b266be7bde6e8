import CapsuleMesh.Library.MountainRange
import CapsuleMesh.Viewer.MergedVerdicts
import CapsuleMesh.Viewer.TrustSummary

/-!
# The chip of a record's own result

A row of the trust summary against the result at the place of its record, and against the prefix of
the log that the checkpoint covers.
-/

namespace CapsuleMesh.Viewer

open Python Library Stranger

/-! ## What the rows have to say -/

/-- The records under a checkpoint, in the order of the log: the leaves of its tree. -/
def coveredRecords (checkpoint : Json) : ℕ :=
  match checkpoint.get "mmr_size", checkpoint.get "log_size" with
  | .ok (.int size), _ => MountainRange.leavesOfSize size.toNat
  | _, .ok (.int size) => size.toNat
  | _, _ => 0

/-- The log of a summary, with the results of its records. -/
def summarySource (T : Tools) (storeIds : List Json → List Json) (records : List Json)
    (options : SummaryOptions) : Source where
  log := options.sourceLog
  records := records
  results := summaryResults T storeIds records options

/-- A chip is no better than the result, and a witness only to what is covered. -/
structure HonestChip (chip : Chip) (own : Option Bool) (covered : Prop) : Prop where
  verifiable : chip.kind = .verified ∨ chip.kind = .witnessed → own = some true
  witnessed : chip.kind = .witnessed → covered

/-- A chip is that of the result. -/
structure OwnChip (chip : Chip) (own : Option Bool) (covered : Prop) : Prop
    extends HonestChip chip own covered where
  failed : chip.kind = .failed ↔ own = some false
  selfAttested : chip.kind = .selfAttested ↔ own = none

def Source.ownSuccesses (source : Source) : ℕ :=
  (List.range source.records.length).countP fun i => source.own i = some true

structure SummarySays (Says : Chip → Option Bool → Prop → Prop) (source : Source)
    (checkpoint : Json) (rows : List Exchange) (summary : TrustSummary) : Prop where
  exchanges : summary.exchanges.Perm rows
  chips : ∀ (i : ℕ) row, rows[i]? = some row →
    Says row.chip (source.own i) (i < coveredRecords checkpoint)
  count : summary.gradient.nVerifiable ≤ source.ownSuccesses

/-- A summary whose chips, taken in the order of the records, say this. -/
def Carries (Says : Chip → Option Bool → Prop → Prop) (T : Tools)
    (storeIds : List Json → List Json) (records : List Json) (options : SummaryOptions)
    (summary : TrustSummary) : Prop :=
  ∃ rows, summaryExchanges T storeIds records options = .ok rows ∧
    SummarySays Says (summarySource T storeIds records options) options.witnessCheckpoint rows
      summary

/-- The last result filed under the id that the record at a place claims. -/
def Source.LooksUp (source : Source) (i : ℕ) (ok : Option Bool) : Prop :=
  ∃ record id key, source.records[i]? = some record ∧
    record.getD "capsule_id" (.str "") = .ok id ∧ id.key = .ok key ∧ source.LastFiled key ok

/-- A success is looked up only for a record that has one, and that the checkpoint covers, if one is
given. -/
def Source.NoneBetter (source : Source) (checkpoint : Json) : Prop :=
  ∀ i, source.LooksUp i (some true) →
    source.own i = some true ∧ (checkpoint.isNull = false → i < coveredRecords checkpoint)

/-- What is looked up for a record is its own result. -/
def Source.AllOwn (source : Source) (checkpoint : Json) : Prop :=
  ∀ i ok, source.LooksUp i ok → ok = source.own i ∧
    (checkpoint.isNull = false → ok = some true → i < coveredRecords checkpoint)

/-! ## One row -/

variable {verifyOk own : Option Bool} {hasWitness : Bool} {covered : Prop}

theorem honestChip_iff : HonestChip (exchangeChip verifyOk hasWitness) own covered ↔
    (verifyOk = some true → own = some true ∧ (hasWitness = true → covered)) := by
  by_cases hok : verifyOk = some true
  · subst hok
    cases hasWitness with
    | false =>
        constructor
        · rintro ⟨hverifiable, -⟩ -
          exact ⟨hverifiable (.inl rfl), by simp⟩
        · intro h
          exact ⟨fun _ => (h rfl).1, by simp [exchangeChip]⟩
    | true =>
        constructor
        · rintro ⟨hverifiable, hwitnessed⟩ -
          exact ⟨hverifiable (.inr rfl), fun _ => hwitnessed rfl⟩
        · intro h
          exact ⟨fun _ => (h rfl).1, fun _ => (h rfl).2 rfl⟩
  · apply iff_of_true
    · constructor <;> simp only [exchangeChip, hok] <;> cases verifyOk <;> simp <;>
        split_ifs <;> simp
    · exact fun h => absurd h hok

theorem ownChip_iff : OwnChip (exchangeChip verifyOk hasWitness) own covered ↔
    verifyOk = own ∧ (hasWitness = true → verifyOk = some true → covered) := by
  constructor
  · rintro ⟨hhonest, hfailed, hself⟩
    have hverified := honestChip_iff.mp hhonest
    refine ⟨?_, fun hwitness hok => (hverified hok).2 hwitness⟩
    cases verifyOk with
    | none => exact (hself.mp (by simp [exchangeChip])).symm
    | some ok =>
        cases ok with
        | false => exact (hfailed.mp (by simp [exchangeChip])).symm
        | true => exact (hverified rfl).1.symm
  · rintro ⟨rfl, hcovered⟩
    have hhonest : HonestChip (exchangeChip verifyOk hasWitness) verifyOk covered :=
      honestChip_iff.mpr fun hok => ⟨hok, fun hwitness => hcovered hwitness hok⟩
    cases verifyOk with
    | none => exact ⟨hhonest, by simp [exchangeChip], by simp [exchangeChip]⟩
    | some ok => cases ok <;> cases hasWitness <;>
        exact ⟨hhonest, by simp [exchangeChip], by simp [exchangeChip]⟩

theorem chip_of_summaryExchange {vmap : List (Key × Bool)} {options : SummaryOptions}
    {record : Json} {row : Exchange} (h : summaryExchange vmap options record = .ok row) :
    ∃ id key, record.getD "capsule_id" (.str "") = .ok id ∧ id.key = .ok key ∧
      row.chip = exchangeChip (lastWritten vmap key) (!options.witnessCheckpoint.isNull) := by
  obtain ⟨id, hid, h⟩ := Py.bind_eq_ok.mp h
  obtain ⟨key, hkey, h⟩ := Py.bind_eq_ok.mp h
  exact ⟨id, key, hid, hkey, chip_of_buildExchange h⟩

/-! ## All rows -/

section

variable {T : Tools} {storeIds : List Json → List Json} {records : List Json}
  {options : SummaryOptions} {rows : List Exchange}

theorem lastWritten_vmap {vmap : List (Key × Bool)}
    (h : verifyOkMap records (summaryResults T storeIds records options) = .ok vmap) (key : Key)
    (ok : Option Bool) : lastWritten vmap key = ok ↔
      (summarySource T storeIds records options).LastFiled key ok := by
  have hsource : verifyOkMap (summarySource T storeIds records options).records
      (summarySource T storeIds records options).results = .ok vmap := h
  exact lastWritten_eq_iff hsource ok

theorem length_of_summaryExchanges (h : summaryExchanges T storeIds records options = .ok rows) :
    rows.length = records.length := by
  obtain ⟨vmap, -, h⟩ := Py.bind_eq_ok.mp h
  exact (Py.forall₂_of_map_eq (Py.mapM_eq_ok.mp h)).length_eq.symm

/-- The chip of a row is that of what is looked up for its record. -/
theorem chips_iff {P : ℕ → Chip → Prop} (h : summaryExchanges T storeIds records options = .ok rows) :
    (∀ (i : ℕ) row, rows[i]? = some row → P i row.chip) ↔
      ∀ i ok, (summarySource T storeIds records options).LooksUp i ok →
        P i (exchangeChip ok (!options.witnessCheckpoint.isNull)) := by
  obtain ⟨vmap, hvmap, hrows⟩ := Py.bind_eq_ok.mp h
  have hlast : ∀ key ok, lastWritten vmap key = ok ↔
      (summarySource T storeIds records options).LastFiled key ok := lastWritten_vmap hvmap
  constructor
  · rintro hchips i ok ⟨record, id, key, hrecord, hid, hkey, hfiled⟩
    obtain ⟨row, hrow, hexchange⟩ := Py.getElem?_mapM hrows hrecord
    obtain ⟨id', key', hid', hkey', hchip⟩ := chip_of_summaryExchange hexchange
    obtain rfl := Except.ok.inj (hid.symm.trans hid')
    obtain rfl := Except.ok.inj (hkey.symm.trans hkey')
    rw [(hlast key ok).mpr hfiled] at hchip
    rw [← hchip]
    exact hchips i row hrow
  · intro hlooks i row hrow
    obtain ⟨record, hrecord, hexchange⟩ := Py.mapM_getElem? hrows hrow
    obtain ⟨id, key, hid, hkey, hchip⟩ := chip_of_summaryExchange hexchange
    rw [hchip]
    exact hlooks i _ ⟨record, id, key, hrecord, hid, hkey, (hlast key _).mp rfl⟩

theorem newestFirst_perm {exchanges sorted : List Exchange}
    (h : newestFirst exchanges = .ok sorted) : sorted.Perm exchanges := by
  obtain ⟨pairs, hpairs, h⟩ := Py.bind_eq_ok.mp h
  obtain rfl := Except.ok.inj h
  have hperm := (sortedByKey_perm hpairs).map Prod.snd
  rw [List.map_map] at hperm
  have hself : exchanges.reverse.map (Prod.snd ∘ fun e : Exchange ↦ (e.timestamp.or (.str ""), e)) =
      exchanges.reverse := List.map_id _
  rw [hself] at hperm
  exact (List.reverse_perm _).trans (hperm.trans (List.reverse_perm _))

/-! ## The count -/

/-- The verified and the witnessed rows are different ones. -/
theorem nVerifiable_computeGradient (exchanges : List Exchange) (anchored : Bool) :
    (computeGradient exchanges anchored).nVerifiable = exchanges.countP fun e =>
      decide (e.chip.kind = .verified ∨ e.chip.kind = .witnessed) := by
  have hdef : (computeGradient exchanges anchored).nVerifiable =
      countKind exchanges .verified + countKind exchanges .witnessed := rfl
  rw [hdef, countKind, countKind]
  induction exchanges with
  | nil => rfl
  | cons e exchanges ih =>
      simp only [List.countP_cons, ← ih rfl]
      cases e.chip.kind <;> simp <;> omega

theorem countP_le_countP_range {α : Type} {p : α → Bool} {q : ℕ → Bool} {as : List α}
    (h : ∀ (i : ℕ) a, as[i]? = some a → p a = true → q i = true) :
    as.countP p ≤ (List.range as.length).countP q := by
  induction as using List.reverseRecOn with
  | nil => exact le_rfl
  | append_singleton as a ih =>
      have hinit : ∀ (i : ℕ) b, as[i]? = some b → p b = true → q i = true := by
        intro i b hb
        obtain ⟨hi, -⟩ := List.getElem?_eq_some_iff.mp hb
        exact h i b (by rw [List.getElem?_append_left hi, hb])
      have hlast : p a = true → q as.length = true := h as.length a (by simp)
      rw [List.countP_append, List.length_append, List.length_singleton, List.range_succ,
        List.countP_append]
      apply Nat.add_le_add (ih hinit)
      simp only [List.countP_singleton]
      split_ifs with hp hq
      · exact le_rfl
      · exact absurd (hlast hp) hq
      · exact Nat.zero_le _
      · exact le_rfl

/-! ## The summary -/

/-- Honest chips count no more than the successes; so the chips decide. -/
theorem carries_iff {Says : Chip → Option Bool → Prop → Prop}
    (hhonest : ∀ {chip own covered}, Says chip own covered → HonestChip chip own covered)
    {summary : TrustSummary} (h : buildTrustSummary T storeIds records options = .ok summary) :
    Carries Says T storeIds records options summary ↔
      ∀ i ok, (summarySource T storeIds records options).LooksUp i ok →
        Says (exchangeChip ok (!options.witnessCheckpoint.isNull))
          ((summarySource T storeIds records options).own i)
          (i < coveredRecords options.witnessCheckpoint) := by
  obtain ⟨rows, hrows, h⟩ := Py.bind_eq_ok.mp h
  obtain ⟨exchanges, hexchanges, h⟩ := Py.bind_eq_ok.mp h
  obtain ⟨operator, -, h⟩ := Py.bind_eq_ok.mp h
  obtain rfl := Except.ok.inj h
  have hperm := newestFirst_perm hexchanges
  have hiff := chips_iff (P := fun i chip => Says chip
    ((summarySource T storeIds records options).own i)
    (i < coveredRecords options.witnessCheckpoint)) hrows
  rw [← hiff]
  constructor
  · rintro ⟨rows', hrows', -, hchips, -⟩
    obtain rfl := Except.ok.inj (hrows.symm.trans hrows')
    exact hchips
  · intro hchips
    refine ⟨rows, hrows, hperm, hchips, ?_⟩
    have hlength : rows.length = (summarySource T storeIds records options).records.length :=
      length_of_summaryExchanges hrows
    rw [nVerifiable_computeGradient, hperm.countP_eq, Source.ownSuccesses, ← hlength]
    apply countP_le_countP_range
    intro i row hrow hkind
    exact decide_eq_true ((hhonest (hchips i row hrow)).verifiable (of_decide_eq_true hkind))

/-- No chip is better than its record's result exactly where no better result is looked up for a
record; each chip is that of its record's result exactly where that one is looked up. -/
theorem trust_summary_exact_iff {summary : TrustSummary}
    (h : buildTrustSummary T storeIds records options = .ok summary) :
    (Carries HonestChip T storeIds records options summary ↔
      (summarySource T storeIds records options).NoneBetter options.witnessCheckpoint) ∧
    (Carries OwnChip T storeIds records options summary ↔
      (summarySource T storeIds records options).AllOwn options.witnessCheckpoint) := by
  constructor
  · rw [carries_iff id h]
    simp only [honestChip_iff, Bool.not_eq_true']
    constructor
    · intro hall i hlooks
      exact hall i (some true) hlooks rfl
    · rintro hall i ok hlooks rfl
      exact hall i hlooks
  · rw [carries_iff OwnChip.toHonestChip h]
    simp only [ownChip_iff, Bool.not_eq_true', Source.AllOwn]

end

/-! ## Two records under one id, and one behind the checkpoint -/

/-- Tools that recompute an id; here it is the operator. -/
def recomputingTools : Tools where
  verifyStore records := records.map fun record =>
    ⟨((do return (← record.get "capsule_id").pyEq (← record.get "operator")) :
      Py Bool).toOption.getD false, []⟩
  verifyTransparent _ _ := .error ""
  verifyCapsuleSignature _ := true
  ackSignature _ := true
  text := ⟨fun _ => "", id⟩

def signedRecord (capsuleId operator : String) : Json :=
  .obj [("capsule_id", .str capsuleId), ("operator", .str operator), ("signature", .str "s"),
    ("key_id", .str "k")]

def optionsWith (witnessCheckpoint : Json) : SummaryOptions where
  sourceLog := SOURCE_SIDECAR
  witnessCheckpoint := witnessCheckpoint
  operator := none
  ledgerDir := none
  issuerKey := none

/-- The ids that these tools recompute. -/
def recomputedIds (records : List Json) : List Json :=
  records.map fun record => (record.get "operator").toOption.getD .null

def checkpointOf (mmrSize : Int) : Json := .obj [("mmr_size", .int mmrSize)]

def honestPair : List Json := [signedRecord "a" "a", signedRecord "c" "c"]

/-- Two records of one id, the first of them forged. -/
def forgedPair : List Json := [signedRecord "a" "b", signedRecord "a" "a"]

/-- Two honest records under a checkpoint of both. -/
theorem two_records_carry : ∃ summary,
    buildTrustSummary recomputingTools recomputedIds honestPair (optionsWith (checkpointOf 3)) =
        .ok summary ∧
      Carries OwnChip recomputingTools recomputedIds honestPair (optionsWith (checkpointOf 3))
        summary := by
  obtain ⟨summary, hsummary⟩ : ∃ summary, buildTrustSummary recomputingTools recomputedIds
      honestPair (optionsWith (checkpointOf 3)) = .ok summary := ⟨_, rfl⟩
  refine ⟨summary, hsummary, (trust_summary_exact_iff hsummary).2.mpr ?_⟩
  have hvmap : verifyOkMap honestPair (summaryResults recomputingTools recomputedIds honestPair
      (optionsWith (checkpointOf 3))) = .ok [(.str "a", true), (.str "c", true)] := rfl
  rintro i ok ⟨record, id, key, hrecord, hid, hkey, hfiled⟩
  have hlooked := (lastWritten_vmap hvmap key ok).mpr hfiled
  obtain ⟨hi, hrecord⟩ := List.getElem?_eq_some_iff.mp hrecord
  have htwo : i = 0 ∨ i = 1 := Nat.le_one_iff_eq_zero_or_eq_one.mp (Nat.lt_succ_iff.mp hi)
  rcases htwo with rfl | rfl <;>
  · subst hrecord
    obtain rfl := Except.ok.inj hid
    obtain rfl := Except.ok.inj hkey
    subst hlooked
    exact ⟨rfl, fun _ _ => by decide⟩

/-- A forged record finds the result of the honest one whose id it claims, and a record behind the
checkpoint is shown as witnessed. -/
theorem duplicate_and_uncovered_pass :
    (∃ summary, buildTrustSummary recomputingTools recomputedIds forgedPair (optionsWith .null) =
        .ok summary ∧
      summary.gradient.nVerifiable = 2 ∧
      ¬Carries HonestChip recomputingTools recomputedIds forgedPair (optionsWith .null) summary) ∧
    ∃ summary, buildTrustSummary recomputingTools recomputedIds honestPair
        (optionsWith (checkpointOf 1)) = .ok summary ∧
      summary.gradient.nWitnessed = 2 ∧
      ¬Carries HonestChip recomputingTools recomputedIds honestPair (optionsWith (checkpointOf 1))
        summary := by
  constructor
  · obtain ⟨summary, hsummary⟩ : ∃ summary, buildTrustSummary recomputingTools recomputedIds
        forgedPair (optionsWith .null) = .ok summary := ⟨_, rfl⟩
    have hvmap : verifyOkMap forgedPair (summaryResults recomputingTools recomputedIds forgedPair
        (optionsWith .null)) = .ok [(.str "b", false), (.str "a", true)] := rfl
    refine ⟨summary, hsummary, ?_, ?_⟩
    · obtain rfl := Except.ok.inj hsummary
      decide +kernel
    · rw [carries_iff id hsummary]
      intro hall
      have hchip := hall 0 (some true)
        ⟨_, _, _, rfl, rfl, rfl, (lastWritten_vmap hvmap _ _).mp rfl⟩
      have hown := hchip.verifiable (.inl rfl)
      cases hown
  · obtain ⟨summary, hsummary⟩ : ∃ summary, buildTrustSummary recomputingTools recomputedIds
        honestPair (optionsWith (checkpointOf 1)) = .ok summary := ⟨_, rfl⟩
    have hvmap : verifyOkMap honestPair (summaryResults recomputingTools recomputedIds honestPair
        (optionsWith (checkpointOf 1))) = .ok [(.str "a", true), (.str "c", true)] := rfl
    refine ⟨summary, hsummary, ?_, ?_⟩
    · obtain rfl := Except.ok.inj hsummary
      decide +kernel
    · rw [carries_iff id hsummary]
      intro hall
      have hchip := hall 1 (some true)
        ⟨_, _, _, rfl, rfl, rfl, (lastWritten_vmap hvmap _ _).mp rfl⟩
      have hcovered : ¬1 < coveredRecords (checkpointOf 1) := by decide
      exact hcovered (hchip.witnessed rfl)

end CapsuleMesh.Viewer
