import CapsuleMesh.Library.TieBand
import CapsuleMesh.Python.Json
import Mathlib.Algebra.Order.Ring.Rat

/-!
# Selecting a referee

`select_referee` of `twin_selection.py`: the peers that serve the twins' weights, without those of
a twin's owner where any other is left, are scored for independence; one is drawn from the tie band
of the best, again while the history check rejects the drawn one.
-/

namespace CapsuleMesh.Adjudication.Selection

open Library Python

/-- The floating-point operations that the scores are made with.  No divisor of the scores is
zero, and an integer among the numbers counts as its float. -/
structure Floats where
  F : Type
  lit : ℚ → F
  order : ScoreOrder F
  eq : F → F → Bool
  add : F → F → F
  mul : F → F → F
  div : F → F → F
  sum : List F → F

/-- Differences by a width that is not negative keep the order. -/
def Floats.Lawful (fl : Floats) : Prop :=
  ∀ width, fl.order.ge width (fl.lit 0) = true → fl.order.Lawful width

structure PeerInfo (F : Type) where
  peerId : String
  state : String := "serving"
  weightsDigest : Option String := none
  rttMs : Option F := none
  latencySource : Option String := none
  ownerId : Option String := none
  ownerVerified : Bool := false
  hostname : Option String := none
  gpus : Option (List String) := none
  isSoc : Option Bool := none
  firstJoinedMeshTs : Option F := none
deriving DecidableEq

structure SelectionPolicy (F : Type) where
  weightNetworkDistance : F
  weightOwnerDiversity : F
  weightFleetDiversity : F
  weightTenure : F
  tieBandWidth : F
  rttSaturationMs : F

/-- The band has a width and the saturation may be divided by. -/
structure SelectionPolicy.Valid {fl : Floats} (policy : SelectionPolicy fl.F) : Prop where
  width : fl.order.ge policy.tieBandWidth (fl.lit 0) = true
  saturation : fl.order.gt policy.rttSaturationMs (fl.lit 0) = true

structure HistorySanityResult where
  ok : Bool
  reason : String

structure IndependenceBreakdown (F : Type) where
  peerId : String
  networkDistance : F
  ownerDiversity : F
  fleetDiversity : F
  tenure : F
  independence : F
  notes : List String

def REASON_NO_COMPARABLE_TWIN : String := "no_comparable_twin"
def REASON_NO_CANDIDATE_PASSED_HISTORY_CHECK : String := "no_twin_passed_history_check"

structure SelectionResult (F : Type) where
  chosenPeerId : Option String
  reason : Option String
  targetWeightsDigest : Option String
  breakdown : List (String × IndependenceBreakdown F)
  tieBandPeerIds : List String
  policy : SelectionPolicy F
  ownerDiversityLimited : Bool

section

variable (fl : Floats)

/-! ## The score -/

/-- A component of a score with its note. -/
abbrev Component (F : Type) := F × Option String

/-- `max(0.0, min(x, 1.0))`. -/
def clampUnit (x : fl.F) : fl.F :=
  let capped := if fl.order.gt x (fl.lit 1) then fl.lit 1 else x
  if fl.order.gt capped (fl.lit 0) then capped else fl.lit 0

def networkDistanceComponent (candidate : PeerInfo fl.F) (policy : SelectionPolicy fl.F) :
    Component fl.F :=
  if candidate.latencySource = some "relay" then (fl.lit 1, none)
  else
    match candidate.rttMs with
    | some rtt => (clampUnit fl (fl.div rtt policy.rttSaturationMs), none)
    | none => (fl.lit (1 / 2), some "network_distance_unknown")

/-- The least component over the other parties, or the unknown one when there is none. -/
def worstComponent (unknown : String) (component : PeerInfo fl.F → Component fl.F)
    (others : List (PeerInfo fl.F)) : Component fl.F :=
  if others = [] then (fl.lit (1 / 2), some unknown)
  else
    others.foldl (fun worst other =>
      if fl.order.gt worst.1 (component other).1 then component other else worst) (fl.lit 1, none)

def ownerComponent (candidate other : PeerInfo fl.F) : Component fl.F :=
  match candidate.ownerId, other.ownerId with
  | some owner, some otherOwner =>
      if owner = otherOwner then (fl.lit 0, some ("same_owner_as:" ++ other.peerId))
      else if candidate.ownerVerified then (fl.lit 1, none)
      else (fl.lit (7 / 10), some "owner_claim_unverified")
  | _, _ => (fl.lit (1 / 2), some "owner_unknown")

def ownerDiversityComponent (candidate : PeerInfo fl.F) (others : List (PeerInfo fl.F)) :
    Component fl.F :=
  worstComponent fl "owner_unknown" (ownerComponent fl candidate) others

def fleetComponent (candidate other : PeerInfo fl.F) : Component fl.F :=
  match candidate.hostname, other.hostname with
  | some host, some otherHost =>
      if host = otherHost then (fl.lit 0, some ("same_hostname_as:" ++ other.peerId))
      else (fl.lit 1, none)
  | _, _ =>
      match candidate.gpus, other.gpus, candidate.isSoc, other.isSoc with
      | some gpus, some otherGpus, some soc, some otherSoc =>
        if gpus = otherGpus ∧ soc = otherSoc then
          (fl.lit (3 / 10), some ("same_hardware_class_as:" ++ other.peerId))
        else if gpus = otherGpus ∨ soc = otherSoc then
          (fl.lit (6 / 10), some ("similar_hardware_class_as:" ++ other.peerId))
        else (fl.lit 1, none)
      | _, _, _, _ => (fl.lit (1 / 2), some "fleet_signal_unknown")

def fleetDiversityComponent (candidate : PeerInfo fl.F) (others : List (PeerInfo fl.F)) :
    Component fl.F :=
  worstComponent fl "fleet_signal_unknown" (fleetComponent fl candidate) others

/-- `min` of a list with a first element. -/
def pyMin (first : fl.F) (rest : List fl.F) : fl.F :=
  rest.foldl (fun m x => if fl.order.gt m x then x else m) first

/-- The entry of a candidate in `_tenure_components`. -/
def tenureComponent (candidates : List (PeerInfo fl.F)) (candidate : PeerInfo fl.F) :
    Component fl.F :=
  let flat := (fl.lit (1 / 2),
    if candidate.firstJoinedMeshTs = none then some "tenure_unknown"
    else some "tenure_indistinguishable")
  match candidates.filterMap PeerInfo.firstJoinedMeshTs with
  | first :: second :: rest =>
      let tsMax := fl.order.max first (second :: rest)
      let tsMin := pyMin fl first (second :: rest)
      if fl.eq tsMax tsMin then flat
      else
        match candidate.firstJoinedMeshTs with
        | none => (fl.lit (1 / 2), some "tenure_unknown")
        | some ts => (fl.div (fl.order.sub tsMax ts) (fl.order.sub tsMax tsMin), none)
  | _ => flat

def breakdownFor (candidate : PeerInfo fl.F) (others : List (PeerInfo fl.F))
    (policy : SelectionPolicy fl.F) (tenure : Component fl.F) : IndependenceBreakdown fl.F :=
  let network := networkDistanceComponent fl candidate policy
  let owner := ownerDiversityComponent fl candidate others
  let fleet := fleetDiversityComponent fl candidate others
  let sum := fl.sum [policy.weightNetworkDistance, policy.weightOwnerDiversity,
    policy.weightFleetDiversity, policy.weightTenure]
  let totalWeight := if fl.eq sum (fl.lit 0) then fl.lit 1 else sum
  let weighted := fl.add (fl.add (fl.add (fl.mul policy.weightNetworkDistance network.1)
    (fl.mul policy.weightOwnerDiversity owner.1)) (fl.mul policy.weightFleetDiversity fleet.1))
    (fl.mul policy.weightTenure tenure.1)
  { peerId := candidate.peerId
    networkDistance := network.1
    ownerDiversity := owner.1
    fleetDiversity := fleet.1
    tenure := tenure.1
    independence := fl.div weighted totalWeight
    notes := [network.2, owner.2, fleet.2, tenure.2].filterMap id }

/-- The score of a candidate in its pool. -/
def independence (candidates others : List (PeerInfo fl.F)) (policy : SelectionPolicy fl.F)
    (candidate : PeerInfo fl.F) : fl.F :=
  (breakdownFor fl candidate others policy (tenureComponent fl candidates candidate)).independence

/-! ## The pools -/

variable {fl}

def comparableCandidates (peers : List (PeerInfo fl.F)) (targetWeightsDigest : String)
    (excludePeerIds : List String) : List (PeerInfo fl.F) :=
  peers.filter fun p => p.state = "serving" ∧ p.weightsDigest = some targetWeightsDigest ∧
    p.peerId ∉ excludePeerIds

def ownerIndependentCandidates (candidates : List (PeerInfo fl.F)) (twinA twinB : PeerInfo fl.F) :
    List (PeerInfo fl.F) :=
  let excludedOwnerIds := [twinA.ownerId, twinB.ownerId].filterMap id
  if excludedOwnerIds = [] then candidates
  else
    candidates.filter fun c =>
      match c.ownerId with
      | none => true
      | some owner => owner ∉ excludedOwnerIds

/-! ## The pick -/

variable (fl)

/-- `rng.choice` takes the place that `choose` gives for the round and the length of the band. -/
def pick (candidates others : List (PeerInfo fl.F)) (policy : SelectionPolicy fl.F)
    (choose : ℕ → (n : ℕ) → Fin (n + 1))
    (historyCheck : Option (PeerInfo fl.F → HistorySanityResult)) :
    Py (Option String × Option String × List String ×
      List (String × IndependenceBreakdown fl.F)) :=
  let breakdown := candidates.map fun c =>
    (c.peerId, breakdownFor fl c others policy (tenureComponent fl candidates c))
  if candidates = [] then .ok (none, some REASON_NO_COMPARABLE_TWIN, [], breakdown)
  else
    match drawFrom PeerInfo.peerId fl.order (independence fl candidates others policy)
        policy.tieBandWidth choose (historyCheck.map fun check c => (check c).ok) 0 candidates with
    | .error _ => .error .indexError
    | .ok none => .ok (none, some REASON_NO_CANDIDATE_PASSED_HISTORY_CHECK, [], breakdown)
    | .ok (some (chosen, band)) =>
        .ok (some chosen.peerId, none, band.map PeerInfo.peerId, breakdown)

def selectReferee (twinA twinB : PeerInfo fl.F) (peers : List (PeerInfo fl.F))
    (policy : SelectionPolicy fl.F) (choose : ℕ → (n : ℕ) → Fin (n + 1))
    (historyCheck : Option (PeerInfo fl.F → HistorySanityResult)) : Py (SelectionResult fl.F) :=
  match twinA.weightsDigest with
  | none => .ok ⟨none, some REASON_NO_COMPARABLE_TWIN, none, [], [], policy, false⟩
  | some target =>
      if some target ≠ twinB.weightsDigest then
        .ok ⟨none, some REASON_NO_COMPARABLE_TWIN, none, [], [], policy, false⟩
      else do
        let candidates := comparableCandidates peers target [twinA.peerId, twinB.peerId]
        let independentCandidates := ownerIndependentCandidates candidates twinA twinB
        let ownerDiversityLimited := !candidates.isEmpty && independentCandidates.isEmpty
        let pickPool := if ownerDiversityLimited then candidates else independentCandidates
        let (chosen, reason, tieBand, breakdown) ←
          pick fl pickPool [twinA, twinB] policy choose historyCheck
        return ⟨chosen, reason, some target, breakdown, tieBand, policy, ownerDiversityLimited⟩

/-! ## Who may be drawn -/

section

variable {F : Type}

/-- The peer serves the weights of both twins and is neither of them. -/
structure Comparable (twinA twinB p : PeerInfo F) : Prop where
  serving : p.state = "serving"
  weights : ∃ digest, p.weightsDigest = some digest ∧ twinA.weightsDigest = some digest ∧
    twinB.weightsDigest = some digest
  distinct : p.peerId ≠ twinA.peerId ∧ p.peerId ≠ twinB.peerId

def SharesOwner (twinA twinB p : PeerInfo F) : Prop :=
  ∃ owner, p.ownerId = some owner ∧ (twinA.ownerId = some owner ∨ twinB.ownerId = some owner)

/-- A comparable peer of another owner than the twins', or any comparable one when there are
none. -/
structure Eligible (peers : List (PeerInfo F)) (twinA twinB p : PeerInfo F) : Prop where
  mem : p ∈ peers
  comparable : Comparable twinA twinB p
  independent : SharesOwner twinA twinB p →
    ∀ q ∈ peers, Comparable twinA twinB q → SharesOwner twinA twinB q

end

variable {fl}
variable {twinA twinB : PeerInfo fl.F} {peers : List (PeerInfo fl.F)}

/-- The pool that the referee is drawn from. -/
def refereePool (twinA twinB : PeerInfo fl.F) (peers : List (PeerInfo fl.F)) :
    List (PeerInfo fl.F) :=
  match twinA.weightsDigest with
  | none => []
  | some target =>
      if some target ≠ twinB.weightsDigest then []
      else
        let candidates := comparableCandidates peers target [twinA.peerId, twinB.peerId]
        let independentCandidates := ownerIndependentCandidates candidates twinA twinB
        if !candidates.isEmpty && independentCandidates.isEmpty then candidates
        else independentCandidates

theorem mem_comparableCandidates {target : String} (hA : twinA.weightsDigest = some target)
    (hB : twinB.weightsDigest = some target) {p : PeerInfo fl.F} :
    p ∈ comparableCandidates peers target [twinA.peerId, twinB.peerId] ↔
      p ∈ peers ∧ Comparable twinA twinB p := by
  rw [comparableCandidates, List.mem_filter, decide_eq_true_eq]
  apply and_congr_right
  intro _
  simp only [List.mem_cons, List.not_mem_nil, or_false, not_or]
  constructor
  · rintro ⟨hserving, hweights, hdistinct⟩
    exact ⟨hserving, ⟨target, hweights, hA, hB⟩, hdistinct⟩
  · rintro ⟨hserving, ⟨digest, hweights, hdigest, -⟩, hdistinct⟩
    cases hA.symm.trans hdigest
    exact ⟨hserving, hweights, hdistinct⟩

theorem mem_ownerIndependentCandidates {candidates : List (PeerInfo fl.F)} {p : PeerInfo fl.F} :
    p ∈ ownerIndependentCandidates candidates twinA twinB ↔
      p ∈ candidates ∧ ¬ SharesOwner twinA twinB p := by
  have hmem : ∀ owner, owner ∈ [twinA.ownerId, twinB.ownerId].filterMap id ↔
      twinA.ownerId = some owner ∨ twinB.ownerId = some owner := by
    intro owner
    simp [List.mem_filterMap, eq_comm]
  rw [ownerIndependentCandidates]
  split_ifs with hempty
  · refine ⟨fun hp => ⟨hp, ?_⟩, And.left⟩
    rintro ⟨owner, -, howner⟩
    rw [← hmem, hempty] at howner
    cases howner
  · rw [List.mem_filter]
    apply and_congr_right
    intro _
    cases howner : p.ownerId with
    | none =>
        refine iff_of_true rfl ?_
        rintro ⟨owner, hsome, -⟩
        cases howner.symm.trans hsome
    | some owner =>
        rw [decide_eq_true_eq, hmem]
        apply not_congr
        constructor
        · exact fun h => ⟨owner, howner, h⟩
        · rintro ⟨owner', hsome, h⟩
          cases howner.symm.trans hsome
          exact h

theorem mem_refereePool {p : PeerInfo fl.F} :
    p ∈ refereePool twinA twinB peers ↔ Eligible peers twinA twinB p := by
  rw [refereePool]
  cases hA : twinA.weightsDigest with
  | none =>
      refine iff_of_false List.not_mem_nil ?_
      rintro ⟨-, ⟨-, ⟨digest, -, hdigest, -⟩, -⟩, -⟩
      cases hA.symm.trans hdigest
  | some target =>
      by_cases hB : some target ≠ twinB.weightsDigest
      · simp only [if_pos hB]
        refine iff_of_false List.not_mem_nil ?_
        rintro ⟨-, ⟨-, ⟨digest, -, hdigest, hdigest'⟩, -⟩, -⟩
        cases hA.symm.trans hdigest
        exact hB hdigest'.symm
      · have hcandidates : ∀ q, q ∈ comparableCandidates peers target
            [twinA.peerId, twinB.peerId] ↔ q ∈ peers ∧ Comparable twinA twinB q :=
          fun q => mem_comparableCandidates hA (not_not.mp hB).symm
        simp only [if_neg hB]
        generalize comparableCandidates peers target [twinA.peerId, twinB.peerId] = candidates
          at *
        split_ifs with hlimited
        · rw [Bool.and_eq_true, List.isEmpty_iff, Bool.not_eq_true', List.isEmpty_eq_false_iff]
            at hlimited
          have hall : ∀ q ∈ candidates, SharesOwner twinA twinB q := by
            intro q hq
            by_contra hno
            have hmem := mem_ownerIndependentCandidates.mpr ⟨hq, hno⟩
            rw [hlimited.2] at hmem
            cases hmem
          rw [hcandidates]
          constructor
          · rintro ⟨hp, hcomparable⟩
            exact ⟨hp, hcomparable, fun _ q hq hq' => hall q ((hcandidates q).mpr ⟨hq, hq'⟩)⟩
          · rintro ⟨hp, hcomparable, -⟩
            exact ⟨hp, hcomparable⟩
        · rw [mem_ownerIndependentCandidates, hcandidates]
          constructor
          · rintro ⟨⟨hp, hcomparable⟩, hindependent⟩
            exact ⟨hp, hcomparable, fun hshares => absurd hshares hindependent⟩
          · rintro ⟨hp, hcomparable, hshared⟩
            refine ⟨⟨hp, hcomparable⟩, fun hshares => hlimited ?_⟩
            have hall := hshared hshares
            rw [Bool.and_eq_true, List.isEmpty_iff, Bool.not_eq_true', List.isEmpty_eq_false_iff]
            refine ⟨List.ne_nil_of_mem ((hcandidates p).mpr ⟨hp, hcomparable⟩), ?_⟩
            apply List.eq_nil_iff_forall_not_mem.mpr
            intro q hq
            obtain ⟨hq, hno⟩ := mem_ownerIndependentCandidates.mp hq
            obtain ⟨hq, hq'⟩ := (hcandidates q).mp hq
            exact hno (hall q hq hq')

/-! ## The selection -/

variable {policy : SelectionPolicy fl.F} {choose : ℕ → (n : ℕ) → Fin (n + 1)}
  {check : Option (PeerInfo fl.F → HistorySanityResult)}

variable (fl twinA twinB peers policy) in
/-- The scores that the referee is drawn by. -/
def refereeScore : PeerInfo fl.F → fl.F :=
  independence fl (refereePool twinA twinB peers) [twinA, twinB] policy

/-- Whether the drawn peer passes. -/
def passing {F : Type} (check : Option (PeerInfo F → HistorySanityResult)) :
    Option (PeerInfo F → Bool) :=
  check.map fun check c => (check c).ok

/-- A chosen referee is eligible, shares an owner with a twin only when the diversity is reported
limited, and is drawn within the tie band of the best peer that was not rejected; none is chosen
exactly when no eligible peer passes. -/
structure RefereeLaw (twinA twinB : PeerInfo fl.F) (peers : List (PeerInfo fl.F))
    (policy : SelectionPolicy fl.F) (check : Option (PeerInfo fl.F → HistorySanityResult))
    (result : SelectionResult fl.F) : Prop where
  chosen : ∀ id, result.chosenPeerId = some id → ∃ p, p.peerId = id ∧
    Eligible peers twinA twinB p ∧
    (SharesOwner twinA twinB p → result.ownerDiversityLimited = true ∧
      ∀ q ∈ peers, Comparable twinA twinB q → SharesOwner twinA twinB q) ∧
    DrawnFrom fl.order (refereeScore fl twinA twinB peers policy) policy.tieBandWidth
      (passing check) (refereePool twinA twinB peers) p
  none_iff : result.chosenPeerId = none ↔
    ∀ p, Eligible peers twinA twinB p → Fails (passing check) p

theorem refereePool_sublist : (refereePool twinA twinB peers).Sublist peers := by
  have hindependent : ∀ candidates : List (PeerInfo fl.F),
      (ownerIndependentCandidates candidates twinA twinB).Sublist candidates := by
    intro candidates
    rw [ownerIndependentCandidates]
    split_ifs
    · exact List.Sublist.refl _
    · exact List.filter_sublist
  rw [refereePool]
  cases twinA.weightsDigest with
  | none => exact List.nil_sublist _
  | some target =>
      simp only
      split_ifs
      · exact List.nil_sublist _
      · exact List.filter_sublist
      · exact (hindependent _).trans List.filter_sublist

variable (fl twinA twinB peers policy choose check) in
/-- The draw from the pool. -/
def drawReferee : Except Unit (Option (PeerInfo fl.F × List (PeerInfo fl.F))) :=
  drawFrom PeerInfo.peerId fl.order (refereeScore fl twinA twinB peers policy)
    policy.tieBandWidth choose (passing check) 0 (refereePool twinA twinB peers)

/-- The pick is the draw, whose failure is that of `rng.choice`. -/
theorem pick_of_draw {candidates others : List (PeerInfo fl.F)}
    {draw : Except Unit (Option (PeerInfo fl.F × List (PeerInfo fl.F)))}
    (hdraw : drawFrom PeerInfo.peerId fl.order (independence fl candidates others policy)
      policy.tieBandWidth choose (passing check) 0 candidates = draw) :
    (draw = .error () → pick fl candidates others policy choose check = .error .indexError) ∧
      ∀ drawn, draw = .ok drawn → ∃ reason band breakdown,
        pick fl candidates others policy choose check =
          .ok (drawn.map fun d => d.1.peerId, reason, band, breakdown) := by
  by_cases hempty : candidates = []
  · rw [hempty, drawFrom, if_pos rfl] at hdraw
    rw [pick, if_pos hempty]
    refine ⟨fun herror => ?_, fun drawn hok => ?_⟩
    · cases hdraw.trans herror
    · cases hdraw.trans hok
      exact ⟨_, _, _, rfl⟩
  · rw [pick, if_neg hempty]
    rw [passing] at hdraw
    rw [hdraw]
    refine ⟨fun herror => ?_, fun drawn hok => ?_⟩
    · rw [herror]
    · rw [hok]
      cases drawn with
      | none => exact ⟨_, _, _, rfl⟩
      | some d => exact ⟨_, _, _, rfl⟩

/-- What a selection returns for each outcome of the draw. -/
structure Follows (twinA twinB : PeerInfo fl.F) (pool : List (PeerInfo fl.F))
    (draw : Except Unit (Option (PeerInfo fl.F × List (PeerInfo fl.F))))
    (selection : Py (SelectionResult fl.F)) : Prop where
  error : draw = .error () → selection = .error .indexError
  ok : ∀ drawn, draw = .ok drawn → ∃ result, selection = .ok result ∧
    (result.chosenPeerId = drawn.map fun d => d.1.peerId) ∧
    (result.ownerDiversityLimited = false → ∀ p ∈ pool, ¬ SharesOwner twinA twinB p)

theorem follows_of_no_target
    (hpool : refereePool twinA twinB peers = [])
    (hselect : selectReferee fl twinA twinB peers policy choose check =
      .ok ⟨none, some REASON_NO_COMPARABLE_TWIN, none, [], [], policy, false⟩) :
    Follows twinA twinB (refereePool twinA twinB peers)
      (drawReferee fl twinA twinB peers policy choose check)
      (selectReferee fl twinA twinB peers policy choose check) := by
  have hdraw : drawReferee fl twinA twinB peers policy choose check = .ok none := by
    rw [drawReferee, hpool, drawFrom, if_pos rfl]
  rw [hdraw, hselect, hpool]
  constructor
  · intro h
    cases h
  · intro drawn h
    cases h
    exact ⟨_, rfl, rfl, fun _ p hp => absurd hp List.not_mem_nil⟩

theorem selectReferee_follows :
    Follows twinA twinB (refereePool twinA twinB peers)
      (drawReferee fl twinA twinB peers policy choose check)
      (selectReferee fl twinA twinB peers policy choose check) := by
  cases hA : twinA.weightsDigest with
  | none =>
      apply follows_of_no_target
      · rw [refereePool, hA]
      · rw [selectReferee, hA]
  | some target =>
      by_cases hB : some target ≠ twinB.weightsDigest
      · apply follows_of_no_target
        · rw [refereePool, hA]
          exact if_pos hB
        · rw [selectReferee, hA]
          exact if_pos hB
      · have hdraw : drawReferee fl twinA twinB peers policy choose check =
            drawReferee fl twinA twinB peers policy choose check := rfl
        obtain ⟨herror, hok⟩ := pick_of_draw hdraw
        have hselect : ∃ limited,
            (limited = false → ∀ p ∈ refereePool twinA twinB peers, ¬ SharesOwner twinA twinB p) ∧
            selectReferee fl twinA twinB peers policy choose check =
              pick fl (refereePool twinA twinB peers) [twinA, twinB] policy choose check >>=
                fun r => .ok ⟨r.1, r.2.1, some target, r.2.2.2, r.2.2.1, policy, limited⟩ := by
          rw [selectReferee, refereePool, hA]
          simp only [if_neg hB]
          generalize comparableCandidates peers target [twinA.peerId, twinB.peerId] = candidates
          refine ⟨_, fun hlimited => ?_, rfl⟩
          rw [if_neg (Bool.not_eq_true _ ▸ hlimited)]
          exact fun p hp => (mem_ownerIndependentCandidates.mp hp).2
        obtain ⟨limited, hlimited, hselect⟩ := hselect
        rw [hselect]
        constructor
        · intro h
          rw [herror h]
          rfl
        · intro drawn h
          obtain ⟨reason, band, breakdown, hpick⟩ := hok drawn h
          rw [hpick]
          exact ⟨_, rfl, rfl, hlimited⟩

/-- Whatever is drawn and checked, the selection obeys its law exactly when each peer of the pool
is within the tie band of its own score. -/
theorem refereeLaw_iff (hfl : fl.Lawful) (hpolicy : policy.Valid)
    (hids : (peers.map PeerInfo.peerId).Nodup) :
    (∀ choose check, ∃ result, selectReferee fl twinA twinB peers policy choose check = .ok result ∧
        RefereeLaw twinA twinB peers policy check result) ↔
      SelfBanded fl.order (refereeScore fl twinA twinB peers policy) policy.tieBandWidth
        (refereePool twinA twinB peers) := by
  have hO := hfl _ hpolicy.width
  have hkeys : ((refereePool twinA twinB peers).map PeerInfo.peerId).Nodup :=
    hids.sublist (refereePool_sublist.map _)
  constructor
  · intro h p hp
    by_contra hout
    obtain ⟨result, hselect, -⟩ := h (fun _ _ => 0) (some fun _ => ⟨false, ""⟩)
    have hdraw : drawReferee fl twinA twinB peers policy (fun _ _ => 0)
        (some fun _ => ⟨false, ""⟩) = .error () :=
      drawFrom_error hO 0 hkeys hp hout
    cases hselect.symm.trans (selectReferee_follows.error hdraw)
  · intro hself choose check
    rcases (drawFrom_spec hO 0 hkeys hself : (∃ p band,
        drawReferee fl twinA twinB peers policy choose check = .ok (some (p, band)) ∧ _) ∨ _)
      with ⟨p, band, hdraw, hdrawn⟩ | ⟨hdraw, hall⟩
    · obtain ⟨result, hselect, hchosen, hlimited⟩ := selectReferee_follows.ok _ hdraw
      have heligible := mem_refereePool.mp hdrawn.mem
      refine ⟨result, hselect, fun id hid ↦ ⟨p, ?_, heligible, fun hshares ↦ ⟨?_, ?_⟩, hdrawn⟩, ?_⟩
      · exact Option.some.inj (hchosen.symm.trans hid)
      · by_contra hno
        exact hlimited (Bool.not_eq_true _ ▸ hno) p hdrawn.mem hshares
      · exact heligible.independent hshares
      · rw [hchosen]
        refine iff_of_false (Option.some_ne_none _) fun hall => ?_
        obtain ⟨passes, hpasses, hfails⟩ := hall p heligible
        cases (hdrawn.passes passes hpasses).symm.trans hfails
    · obtain ⟨result, hselect, hchosen, -⟩ := selectReferee_follows.ok _ hdraw
      refine ⟨result, hselect, fun id hid => ?_, ?_⟩
      · cases hchosen.symm.trans hid
      · exact iff_of_true hchosen fun p hp => hall p (mem_refereePool.mpr hp)

end

/-! ## Arithmetic without rounding -/

/-- The rationals with the infinities and what is not a number. -/
inductive ExtendedRational where
  | nan
  | negInf
  | fin (q : ℚ)
  | posInf
deriving DecidableEq

namespace ExtendedRational

def ge : ExtendedRational → ExtendedRational → Bool
  | nan, _ | _, nan => false
  | posInf, _ | _, negInf => true
  | negInf, _ | _, posInf => false
  | fin a, fin b => b ≤ a

def gt (a b : ExtendedRational) : Bool := ge a a && ge b b && !ge b a

def neg : ExtendedRational → ExtendedRational
  | nan => nan
  | negInf => posInf
  | fin q => fin (-q)
  | posInf => negInf

def add : ExtendedRational → ExtendedRational → ExtendedRational
  | nan, _ | _, nan | posInf, negInf | negInf, posInf => nan
  | posInf, _ | _, posInf => posInf
  | negInf, _ | _, negInf => negInf
  | fin a, fin b => fin (a + b)

def sub (a b : ExtendedRational) : ExtendedRational := add a (neg b)

/-- The infinity of the sign of `q`. -/
def signed (q : ℚ) : ExtendedRational :=
  if q = 0 then nan else if 0 < q then posInf else negInf

def mul : ExtendedRational → ExtendedRational → ExtendedRational
  | nan, _ | _, nan => nan
  | posInf, posInf | negInf, negInf => posInf
  | posInf, negInf | negInf, posInf => negInf
  | posInf, fin q | fin q, posInf => signed q
  | negInf, fin q | fin q, negInf => signed (-q)
  | fin a, fin b => fin (a * b)

def div (a : ExtendedRational) : ExtendedRational → ExtendedRational
  | fin q => mul a (fin q⁻¹)
  | nan => nan
  | posInf | negInf => mul a (fin 0)

theorem ge_trans {a b c : ExtendedRational} (hab : ge a b = true) (hbc : ge b c = true) :
    ge a c = true := by
  cases a <;> cases b <;> cases c <;> simp_all [ge]
  exact le_trans hbc hab

theorem ge_total {a b : ExtendedRational} (ha : ge a a = true) (hb : ge b b = true) :
    ge a b = true ∨ ge b a = true := by
  cases a <;> cases b <;> simp_all [ge]
  exact le_total _ _

theorem sub_mono {a b width : ExtendedRational} (h : ge a b = true)
    (ha : ge (sub a width) (sub a width) = true) (hwidth : ge width (fin 0) = true) :
    ge (sub a width) (sub b width) = true := by
  cases a <;> cases b <;> cases width <;> simp_all [ge, sub, add, neg]

end ExtendedRational

open ExtendedRational in
def exactFloats : Floats where
  F := ExtendedRational
  lit := fin
  order := ⟨ge, gt, sub⟩
  eq := fun a b => ge a b && ge b a
  add := add
  mul := mul
  div := div
  sum := fun l => l.foldl add (fin 0)

open ExtendedRational in
theorem exactFloats_lawful : exactFloats.Lawful := by
  intro width hwidth
  refine ⟨?_, ?_, ge_trans, ?_, ge_total, ?_, fun h ha => sub_mono h ha hwidth⟩
  · intro a b h
    cases a <;> cases b <;> simp_all [exactFloats, ge]
  · intro a b h
    cases a <;> cases b <;> simp_all [exactFloats, ge]
  · intro a b
    simp [exactFloats, gt, and_assoc]
  · intro a h
    cases a <;> cases width <;> simp_all [exactFloats, ge, sub, add, neg]

/-! ## Two selections -/

namespace Sample

open ExtendedRational

def policy : SelectionPolicy ExtendedRational :=
  ⟨fin (1 / 4), fin (1 / 4), fin (1 / 4), fin (1 / 4), fin (1 / 8), fin 250⟩

/-- A relayed peer that serves the weights, joined at a time. -/
def peer (peerId : String) (joined : Option ExtendedRational) : PeerInfo ExtendedRational :=
  { peerId := peerId, weightsDigest := some "w", latencySource := some "relay",
    firstJoinedMeshTs := joined }

def twinA : PeerInfo ExtendedRational := peer "a" none
def twinB : PeerInfo ExtendedRational := peer "b" none

/-- Two candidates; the first one says it joined at infinity. -/
def endless : List (PeerInfo ExtendedRational) := [peer "c" (some posInf), peer "d" (some (fin 5))]

def joined : List (PeerInfo ExtendedRational) := [peer "c" (some (fin 2)), peer "d" (some (fin 5))]

/-- A check that the peer `c` does not pass. -/
def notFirst (candidate : PeerInfo ExtendedRational) : HistorySanityResult :=
  ⟨decide (candidate.peerId ≠ "c"), "unverified"⟩

theorem policy_valid : @SelectionPolicy.Valid exactFloats policy :=
  ⟨by decide +kernel, by decide +kernel⟩

end Sample

open Sample in
/-- The history check turns the first candidate down. -/
theorem joined_refereeLaw : ∃ result,
    selectReferee exactFloats twinA twinB joined policy (fun _ _ ↦ 0) (some notFirst) = .ok result ∧
      result.chosenPeerId = some "d" ∧
      @RefereeLaw exactFloats twinA twinB joined policy (some notFirst) result := by
  have hself : SelfBanded exactFloats.order (refereeScore exactFloats twinA twinB joined policy)
      policy.tieBandWidth (@refereePool exactFloats twinA twinB joined) := by
    unfold SelfBanded
    decide +kernel
  obtain ⟨result, hselect, hlaw⟩ :=
    (refereeLaw_iff exactFloats_lawful policy_valid (by decide)).mpr hself (fun _ _ => 0)
      (some notFirst)
  have hchosen : (selectReferee exactFloats twinA twinB joined policy (fun _ _ => 0)
      (some notFirst)).toOption.bind SelectionResult.chosenPeerId = some "d" := by decide +kernel
  rw [hselect] at hchosen
  exact ⟨result, hselect, hchosen, hlaw⟩

open Sample in
/-- Neither candidate has a score that is a number. -/
theorem endless_raises :
    (endless.map PeerInfo.peerId).Nodup ∧
      selectReferee exactFloats twinA twinB endless policy (fun _ _ => 0) none =
        .error .indexError ∧
      ¬ ∃ result,
        selectReferee exactFloats twinA twinB endless policy (fun _ _ => 0) none = .ok result ∧
          @RefereeLaw exactFloats twinA twinB endless policy none result := by
  have hraises : selectReferee exactFloats twinA twinB endless policy (fun _ _ => 0) none =
      .error .indexError := by
    apply selectReferee_follows.error
    apply drawFrom_of_band_nil
    · decide +kernel
    · decide +kernel
  refine ⟨by decide, hraises, ?_⟩
  rintro ⟨result, hok, -⟩
  cases hraises.symm.trans hok

end CapsuleMesh.Adjudication.Selection
