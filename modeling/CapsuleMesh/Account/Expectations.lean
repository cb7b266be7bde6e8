import CapsuleMesh.Library.OrderStatistics
import CapsuleMesh.Python.Json
import Mathlib.Data.Rat.Floor
import Mathlib.Tactic.Linarith

/-!
# Denominators of a population

`mesh_expectation_comparison.py`: the counts of a node, each beside its denominator, and their
medians over a population.  The median of an even number of counts is a float, which `int`
truncates.
-/

namespace CapsuleMesh.MeshExpectation

open Python Library.OrderStatistics

def BOUNDARY : String := "denominators_only"

def NOT_A_SCORE : String := "relying_party_computes_predicate"

structure NodeExpectationRecord where
  nodeId : String
  inconclusiveOf : Int
  inconclusiveDenominator : Int
  refusalOf : Int
  refusalDenominator : Int
  coverageUnsatisfiableOf : Int
  coverageUnsatisfiableDenominator : Int
  reconciledPeerCount : Int
  boundary : String := BOUNDARY
  audience : String := "relying_party"
  notAScore : String := NOT_A_SCORE

/-- `{"median_of": N, "denominator": M}`. -/
structure MedianNOf where
  medianOf : Int
  denominator : Int
deriving DecidableEq

structure PopulationExpectationSummary where
  nodeCount : ℕ
  nodes : List NodeExpectationRecord
  peerMedians : List (String × MedianNOf)
  boundary : String := BOUNDARY
  notAScore : String := NOT_A_SCORE

/-- `n / 2` of an integer: the nearest double, which halving keeps. -/
def half (n : Int) : Py ℚ :=
  let rounded := (roundDouble n.natAbs : ℚ) / 2
  if 2 ^ 1024 ≤ rounded then .error .overflowError
  else .ok (if n < 0 then -rounded else rounded)

/-- `statistics.median`; an integer is kept exactly. -/
def median (values : List Int) : Py ℚ :=
  let data := sorted values
  let n := data.length
  if n = 0 then .error (.valueError "no median for empty data")
  else if n % 2 = 1 then .ok (data.getD (n / 2) 0)
  else half (data.getD (n / 2 - 1) 0 + data.getD (n / 2) 0)

/-- `int(x)`. -/
def truncate (x : ℚ) : Int := if 0 ≤ x then ⌊x⌋ else ⌈x⌉

/-- `_median_n_of`. -/
def medianNOf (numerators denominators : List Int) : Py MedianNOf :=
  if numerators = [] then .ok ⟨0, 0⟩
  else do
    let medianNum ← median numerators
    let medianDen ← median denominators
    return ⟨truncate medianNum, truncate medianDen⟩

def buildPopulationSummary (records : List NodeExpectationRecord) :
    Py PopulationExpectationSummary :=
  if records = [] then .ok { nodeCount := 0, nodes := [], peerMedians := [] }
  else do
    let inconclusive ← medianNOf (records.map (·.inconclusiveOf))
      (records.map (·.inconclusiveDenominator))
    let refusal ← medianNOf (records.map (·.refusalOf)) (records.map (·.refusalDenominator))
    let coverageUnsatisfiable ← medianNOf (records.map (·.coverageUnsatisfiableOf))
      (records.map (·.coverageUnsatisfiableDenominator))
    return {
      nodeCount := records.length
      nodes := records
      peerMedians := [("inconclusive_rate", inconclusive), ("refusal_rate", refusal),
        ("coverage_unsatisfiable_rate", coverageUnsatisfiable)] }

/-! ## Medians of counts -/

theorem roundDouble_of_lt {n : ℕ} (h : n < 2 ^ 53) : roundDouble n = n := by
  have hunit : n.log2 + 1 - 53 = 0 := by
    rcases Nat.eq_zero_or_pos n with rfl | hpos
    · rfl
    · have hlog : n.log2 < 53 := (Nat.log2_lt (by omega)).mpr h
      omega
  simp only [roundDouble, hunit, pow_zero, Nat.mod_one, Nat.div_one]
  simp

/-- Of an odd number of values both are the one in the middle. -/
theorem median_eq {values : List Int} (hne : values ≠ [])
    (hcounts : ∀ v ∈ values, 0 ≤ v ∧ v < 2 ^ 52) :
    ∃ low high : Int, (sorted values)[(values.length - 1) / 2]? = some low ∧
      (sorted values)[values.length / 2]? = some high ∧
      median values = .ok (((low + high : Int) : ℚ) / 2) := by
  have hpos := List.length_pos_iff.mpr hne
  have hlength := length_sorted values
  obtain ⟨low, hlow⟩ : ∃ low, (sorted values)[(values.length - 1) / 2]? = some low :=
    ⟨_, List.getElem?_eq_getElem (by omega)⟩
  obtain ⟨high, hhigh⟩ : ∃ high, (sorted values)[values.length / 2]? = some high :=
    ⟨_, List.getElem?_eq_getElem (by omega)⟩
  refine ⟨low, high, hlow, hhigh, ?_⟩
  have hlowc := hcounts low (mem_sorted.mp (List.mem_of_getElem? hlow))
  have hhighc := hcounts high (mem_sorted.mp (List.mem_of_getElem? hhigh))
  unfold median
  simp only [hlength]
  rw [if_neg (by omega)]
  by_cases hodd : values.length % 2 = 1
  · have hsame : (values.length - 1) / 2 = values.length / 2 := by omega
    rw [hsame, hhigh] at hlow
    obtain rfl := Option.some.inj hlow
    rw [if_pos hodd, List.getD_eq_getElem?_getD, hhigh, Option.getD_some]
    congr 1
    push_cast
    ring
  · have hbelow : values.length / 2 - 1 = (values.length - 1) / 2 := by omega
    rw [if_neg hodd, hbelow, List.getD_eq_getElem?_getD, List.getD_eq_getElem?_getD, hlow, hhigh,
      Option.getD_some, Option.getD_some, half, roundDouble_of_lt (by omega)]
    have hcast : (((low + high).natAbs : ℕ) : ℚ) = ((low + high : Int) : ℚ) := by
      rw [← Int.cast_natCast, Int.natAbs_of_nonneg (by omega)]
    have hsmall : ¬(2 ^ 1024 : ℚ) ≤ ((low + high : Int) : ℚ) / 2 := by
      have hsum : ((low + high : Int) : ℚ) < 2 ^ 53 := by
        exact_mod_cast (by omega : low + high < 2 ^ 53)
      have hhalf : ((low + high : Int) : ℚ) / 2 < 2 ^ 53 := by linarith
      have hgreat : (2 : ℚ) ^ 53 ≤ 2 ^ 1024 := pow_le_pow_right₀ (by norm_num) (by norm_num)
      exact not_le.mpr (hhalf.trans_le hgreat)
    rw [hcast, if_neg hsmall, if_neg (by omega)]

/-- What `int` makes of it. -/
theorem truncate_half {n : Int} (h : 0 ≤ n) : truncate ((n : ℚ) / 2) = n / 2 := by
  have hnonneg : (0 : ℚ) ≤ (n : ℚ) / 2 := by
    have hcast : (0 : ℚ) ≤ n := by exact_mod_cast h
    linarith
  rw [truncate, if_pos hnonneg]
  exact_mod_cast Rat.floor_intCast_div_natCast n 2

theorem medianNOf_eq {numerators denominators : List Int} (hne : numerators ≠ [])
    (hlength : numerators.length = denominators.length)
    (hnums : ∀ v ∈ numerators, 0 ≤ v ∧ v < 2 ^ 52)
    (hdens : ∀ v ∈ denominators, 0 ≤ v ∧ v < 2 ^ 52) :
    ∃ low high low' high' : Int,
      (sorted numerators)[(numerators.length - 1) / 2]? = some low ∧
      (sorted numerators)[numerators.length / 2]? = some high ∧
      (sorted denominators)[(numerators.length - 1) / 2]? = some low' ∧
      (sorted denominators)[numerators.length / 2]? = some high' ∧
      medianNOf numerators denominators = .ok ⟨(low + high) / 2, (low' + high') / 2⟩ := by
  have hdne : denominators ≠ [] := by
    rw [← List.length_pos_iff] at hne ⊢
    omega
  obtain ⟨low, high, hlow, hhigh, hmedian⟩ := median_eq hne hnums
  obtain ⟨low', high', hlow', hhigh', hmedian'⟩ := median_eq hdne hdens
  rw [← hlength] at hlow' hhigh'
  refine ⟨low, high, low', high', hlow, hhigh, hlow', hhigh', ?_⟩
  have hnonneg : ∀ {values : List Int} {i : ℕ} {v : Int}, (∀ v ∈ values, 0 ≤ v ∧ v < 2 ^ 52) →
      (sorted values)[i]? = some v → 0 ≤ v := by
    intro values i v hcounts hv
    exact (hcounts v (mem_sorted.mp (List.mem_of_getElem? hv))).1
  rw [medianNOf, if_neg hne, hmedian, hmedian']
  simp only [Py.ok_bind]
  rw [truncate_half (add_nonneg (hnonneg hnums hlow) (hnonneg hnums hhigh)),
    truncate_half (add_nonneg (hnonneg hdens hlow') (hnonneg hdens hhigh'))]
  rfl

/-! ## The three rates -/

inductive Rate where
  | inconclusive
  | refusal
  | coverageUnsatisfiable
deriving DecidableEq

def Rate.key : Rate → String
  | .inconclusive => "inconclusive_rate"
  | .refusal => "refusal_rate"
  | .coverageUnsatisfiable => "coverage_unsatisfiable_rate"

def Rate.of (record : NodeExpectationRecord) : Rate → Int
  | .inconclusive => record.inconclusiveOf
  | .refusal => record.refusalOf
  | .coverageUnsatisfiable => record.coverageUnsatisfiableOf

def Rate.denominator (record : NodeExpectationRecord) : Rate → Int
  | .inconclusive => record.inconclusiveDenominator
  | .refusal => record.refusalDenominator
  | .coverageUnsatisfiable => record.coverageUnsatisfiableDenominator

/-- Each count is a natural number below `2 ^ 52`, and no greater than its denominator. -/
def NodeExpectationRecord.Counted (record : NodeExpectationRecord) : Prop :=
  ∀ rate : Rate, 0 ≤ rate.of record ∧ rate.of record ≤ rate.denominator record ∧
    rate.denominator record < 2 ^ 52

/-- Between the least and the greatest of some values. -/
def Within (values : List Int) (v : Int) : Prop :=
  (∃ low ∈ values, low ≤ v) ∧ ∃ high ∈ values, v ≤ high

theorem within_middle {values : List Int} {i j : ℕ} {low high : Int} (hij : i ≤ j)
    (hlow : (sorted values)[i]? = some low) (hhigh : (sorted values)[j]? = some high) :
    Within values ((low + high) / 2) := by
  have hle : low ≤ high := by
    obtain ⟨hi, rfl⟩ := List.getElem?_eq_some_iff.mp hlow
    obtain ⟨hj, rfl⟩ := List.getElem?_eq_some_iff.mp hhigh
    exact (sorted_pairwise values).rel_get_of_le (a := ⟨i, hi⟩) (b := ⟨j, hj⟩) hij
  refine ⟨⟨low, mem_sorted.mp (List.mem_of_getElem? hlow), by omega⟩,
    ⟨high, mem_sorted.mp (List.mem_of_getElem? hhigh), by omega⟩⟩

/-- One median of counted records: a proper fraction within its population. -/
theorem medianNOf_counted {records : List NodeExpectationRecord} (hne : records ≠ [])
    (hcounted : ∀ record ∈ records, record.Counted) (rate : Rate) :
    ∃ m, medianNOf (records.map (Rate.of · rate)) (records.map (Rate.denominator · rate)) = .ok m ∧
      m.medianOf ≤ m.denominator ∧ Within (records.map (Rate.of · rate)) m.medianOf ∧
      Within (records.map (Rate.denominator · rate)) m.denominator := by
  have hnums : ∀ v ∈ records.map (Rate.of · rate), 0 ≤ v ∧ v < 2 ^ 52 := by
    intro v hv
    obtain ⟨record, hrecord, rfl⟩ := List.mem_map.mp hv
    obtain ⟨hnonneg, hle, hlt⟩ := hcounted record hrecord rate
    exact ⟨hnonneg, by omega⟩
  have hdens : ∀ v ∈ records.map (Rate.denominator · rate), 0 ≤ v ∧ v < 2 ^ 52 := by
    intro v hv
    obtain ⟨record, hrecord, rfl⟩ := List.mem_map.mp hv
    obtain ⟨hnonneg, hle, hlt⟩ := hcounted record hrecord rate
    exact ⟨by omega, hlt⟩
  have hbelow : List.Forall₂ (· ≤ ·) (records.map (Rate.of · rate))
      (records.map (Rate.denominator · rate)) := by
    rw [List.forall₂_map_left_iff, List.forall₂_map_right_iff, List.forall₂_same]
    exact fun record hrecord => (hcounted record hrecord rate).2.1
  have hmapne : records.map (Rate.of · rate) ≠ [] := by simpa using hne
  obtain ⟨low, high, low', high', hlow, hhigh, hlow', hhigh', hmedian⟩ :=
    medianNOf_eq hmapne (by simp) hnums hdens
  have hlowle := sorted_getElem_le hbelow hlow hlow'
  have hhighle := sorted_getElem_le hbelow hhigh hhigh'
  refine ⟨_, hmedian, ?_, within_middle (by omega) hlow hhigh,
    within_middle (by omega) hlow' hhigh'⟩
  change (low + high) / 2 ≤ (low' + high') / 2
  omega

theorem median_perm {these those : List Int} (h : these.Perm those) :
    median these = median those := by
  unfold median
  rw [sorted_congr h]

theorem medianNOf_perm {nums nums' dens dens' : List Int} (hnums : nums.Perm nums')
    (hdens : dens.Perm dens') : medianNOf nums dens = medianNOf nums' dens' := by
  unfold medianNOf
  rw [median_perm hnums, median_perm hdens]
  by_cases hne : nums = []
  · subst hne
    rw [List.nil_perm.mp hnums]
  · have hne' : nums' ≠ [] := by
      rintro rfl
      exact hne (List.perm_nil.mp hnums)
    rw [if_neg hne, if_neg hne']

theorem buildPopulationSummary_eq_ok {records : List NodeExpectationRecord} (hne : records ≠ [])
    {summary : PopulationExpectationSummary} :
    buildPopulationSummary records = .ok summary ↔ ∃ medians : Rate → MedianNOf,
      (∀ rate : Rate, medianNOf (records.map (Rate.of · rate))
        (records.map (Rate.denominator · rate)) = .ok (medians rate)) ∧
      summary = { nodeCount := records.length, nodes := records, peerMedians :=
        [Rate.inconclusive, .refusal, .coverageUnsatisfiable].map fun rate =>
          (rate.key, medians rate) } := by
  rw [buildPopulationSummary, if_neg hne]
  constructor
  · intro h
    obtain ⟨inconclusive, hinconclusive, h⟩ := Py.bind_eq_ok.mp h
    obtain ⟨refusal, hrefusal, h⟩ := Py.bind_eq_ok.mp h
    obtain ⟨coverage, hcoverage, h⟩ := Py.bind_eq_ok.mp h
    refine ⟨fun rate => match rate with
      | .inconclusive => inconclusive
      | .refusal => refusal
      | .coverageUnsatisfiable => coverage, ?_, (Except.ok.inj h).symm⟩
    intro rate
    cases rate with
    | inconclusive => exact hinconclusive
    | refusal => exact hrefusal
    | coverageUnsatisfiable => exact hcoverage
  · rintro ⟨medians, hmedians, rfl⟩
    have hinconclusive := hmedians .inconclusive
    have hrefusal := hmedians .refusal
    have hcoverage := hmedians .coverageUnsatisfiable
    simp only [Rate.of, Rate.denominator] at hinconclusive hrefusal hcoverage
    rw [hinconclusive, Py.ok_bind, hrefusal, Py.ok_bind, hcoverage]
    rfl

/-- The median of each rate of a population of counted records is published and is a proper
fraction within its values, and the order of the records does not matter. -/
theorem peerMedians_proper (records : List NodeExpectationRecord) (hne : records ≠ [])
    (hcounted : ∀ record ∈ records, record.Counted) :
    ∃ summary, buildPopulationSummary records = .ok summary ∧
      summary.peerMedians.map Prod.fst =
        [Rate.inconclusive, .refusal, .coverageUnsatisfiable].map Rate.key ∧
      (∀ key m, (key, m) ∈ summary.peerMedians → ∃ rate : Rate, rate.key = key ∧
        m.medianOf ≤ m.denominator ∧ Within (records.map (Rate.of · rate)) m.medianOf ∧
        Within (records.map (Rate.denominator · rate)) m.denominator) ∧
      ∀ records' : List NodeExpectationRecord, records'.Perm records →
        ∃ summary', buildPopulationSummary records' = .ok summary' ∧
          summary'.peerMedians = summary.peerMedians := by
  choose medians hmedians hproper using medianNOf_counted hne hcounted
  refine ⟨_, (buildPopulationSummary_eq_ok hne).mpr ⟨medians, hmedians, rfl⟩, ?_, ?_, ?_⟩
  · rw [List.map_map]
    simp only [Function.comp_def]
  · intro key m hm
    obtain ⟨rate, -, hrate⟩ := List.mem_map.mp hm
    obtain ⟨rfl, rfl⟩ := Prod.mk.inj hrate
    exact ⟨rate, rfl, hproper rate⟩
  · intro records' hperm
    have hne' : records' ≠ [] := by
      rintro rfl
      exact hne (List.nil_perm.mp hperm)
    refine ⟨_, (buildPopulationSummary_eq_ok hne').mpr ⟨medians, ?_, rfl⟩, rfl⟩
    intro rate
    rw [medianNOf_perm (hperm.map _) (hperm.map _), hmedians]

def countedNode (nodeId : String) (n m : Int) : NodeExpectationRecord where
  nodeId := nodeId
  inconclusiveOf := n
  inconclusiveDenominator := m
  refusalOf := 0
  refusalDenominator := m
  coverageUnsatisfiableOf := 0
  coverageUnsatisfiableDenominator := 0
  reconciledPeerCount := 0

/-- Two nodes, one of two inconclusive and four of five. -/
theorem peerMedians_proper_pair :
    ∃ summary, buildPopulationSummary [countedNode "a" 1 2, countedNode "b" 4 5] = .ok summary ∧
      ∀ key m, (key, m) ∈ summary.peerMedians → m.medianOf ≤ m.denominator := by
  obtain ⟨summary, hsummary, -, hproper, -⟩ :=
    peerMedians_proper [countedNode "a" 1 2, countedNode "b" 4 5] (List.cons_ne_nil _ _) (by
      intro record hrecord rate
      obtain rfl | rfl : record = countedNode "a" 1 2 ∨ record = countedNode "b" 4 5 := by
        simpa using hrecord
      · cases rate <;> decide
      · cases rate <;> decide)
  refine ⟨summary, hsummary, ?_⟩
  intro key m hm
  obtain ⟨rate, -, hle, -⟩ := hproper key m hm
  exact hle

end CapsuleMesh.MeshExpectation
