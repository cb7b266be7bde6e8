import Mathlib.Algebra.Order.Ring.Int
import Mathlib.Data.List.Induction
import Mathlib.Data.List.ReduceOption
import CapsuleMesh.Python.Bytes
import CapsuleMesh.Sequence.Counter

/-!
# Pair continuity of a ledger

`extract_pair_seq` and `verify_pair_continuity` of `sequence_counter.py`.  The
walk keeps four dictionaries; seen at one pair key they form a single cell that
only that pair's records change.  On that cell the two facts the verifier is for
are proved: gaps and surviving records add up to the last number, and every
regression is reported.
-/

namespace CapsuleMesh.Sequence

open Python Library

/-! ## Reading a sealed record -/

def pocBlock (capsule : Json) : Py Json := do
  let attestation ← capsule.getD "model_attestation" (.obj [])
  let compute ← attestation.getD "compute_attestation" (.obj [])
  let poc ← compute.getD "x-mesh-poc-v1" (.obj [])
  return poc.or (.obj [])

/-- The two ends a record names, own end first. -/
def pairEnds (role servedByNodeId requestingParty : Json) : Json × Json :=
  match role with
  | .str "requester" => (requestingParty, servedByNodeId)
  | _ => (servedByNodeId, requestingParty)

def PrevSeq.ofJson : Json → PrevSeq
  | .null => .issued none
  | .int n => .issued (some n)
  | .bool b => .bool b
  | .float repr => .float repr
  | value => .other value.pyRepr

@[simp] theorem PrevSeq.ofJson_ofInt? (o : Option Int) :
    PrevSeq.ofJson (.ofInt? o) = .issued o := by
  cases o <;> rfl

/-- `extract_pair_seq`: `none` for a record that carries no `seq`.  The ids are read as the
text that they are in a pair key. -/
def extractPairSeq (capsule : Json) : Py (Option PairSeq) := do
  let poc ← pocBlock capsule
  let provenance := (← poc.get "serving_provenance").or (.obj [])
  let seq ← provenance.get "seq"
  if seq.isNull then
    return none
  else
    let role ← provenance.getD "role" (.str "provider")
    let servedByNodeId ← provenance.get "served_by_node_id"
    let requestingParty ← provenance.get "requesting_party"
    let (selfId, counterpartyId) := pairEnds role servedByNodeId requestingParty
    let selfId := (selfId.or (.str UNKNOWN_COUNTERPARTY)).pyStr
    let counterpartyId := (counterpartyId.or (.str UNKNOWN_COUNTERPARTY)).pyStr
    let seq ← seq.toInt
    let prevSeq ← provenance.get "prev_seq"
    return some ⟨selfId, counterpartyId, seq, .ofJson prevSeq⟩

/-! ## The walk -/

/-- A count of gaps.  One that began with a float is kept as that float and what was added to
it. -/
inductive Gaps where
  | int (n : Int)
  | float (repr : String) (added : List Int)
deriving DecidableEq

def Gaps.add : Gaps → Int → Gaps
  | .int m, n => .int (m + n)
  | .float repr added, n => .float repr (added ++ [n])

structure PairContinuity where
  pair : String
  continuity : String
  gapsDetected : Gaps
  recordsChecked : ℕ
  counterpartyAuthenticated : Bool
deriving DecidableEq

/-- The four dictionaries of the walk. -/
structure Walk where
  lastSeq : Dict String Int
  gaps : Dict String Gaps
  broken : Dict String String
  counts : Dict String ℕ

def Walk.empty : Walk := ⟨∅, ∅, ∅, ∅⟩

def PrevSeq.repr : PrevSeq → String
  | .issued (some n) => toString n
  | .issued none => "None"
  | .bool b => (Json.bool b).pyRepr
  | .float repr => repr
  | .other repr => repr

/-- The integer that it is equal to. -/
def PrevSeq.toInt? : PrevSeq → Option Int
  | .issued prev => prev
  | .bool b => some (if b then 1 else 0)
  | .float repr => (Json.float repr).asInt
  | .other _ => none

def PairSeq.selfConsistent (r : PairSeq) : Bool :=
  match r.prevSeq with
  | .issued none => decide (r.seq ≤ 1)
  | prev => decide (prev.toInt? = some (r.seq - 1))

/-- `f"broken at seq={seq}: {reason}"`. -/
def brokenAt (seq : Int) (reason : String) : String :=
  "broken at seq=" ++ (toString seq ++ ": " ++ reason)

def inconsistentText (r : PairSeq) : String :=
  brokenAt r.seq ("prev_seq=" ++ r.prevSeq.repr ++ " does not precede it")

def regressionText (r : PairSeq) (prior : Int) : String :=
  brokenAt r.seq ("not greater than prior seq=" ++ toString prior)

/-- `d.setdefault(key, text)`. -/
def setDefault (d : Dict String String) (key text : String) : Dict String String :=
  match d.lookup key with
  | some _ => d
  | none => d.insert key text

/-- `gaps.get(key, 0) + prev_seq`, for the first record of a pair, which has no gaps yet. -/
def Gaps.start (gaps : Gaps) : PrevSeq → Gaps
  | .issued (some p) => gaps.add p
  | .bool b => gaps.add (if b then 1 else 0)
  | .float repr => .float repr []
  | _ => gaps

/-- The gaps after one record that follows the number `prior`. -/
def Gaps.after (gaps : Gaps) (prior : Option Int) (r : PairSeq) : Gaps :=
  match prior with
  | none => gaps.start r.prevSeq
  | some q => if r.seq > q + 1 then gaps.add (r.seq - q - 1) else gaps

/-- `gaps.get(key, 0)`. -/
def gapsAt (d : Dict String Gaps) (key : String) : Gaps := (d.lookup key).getD (.int 0)

def Walk.step (w : Walk) (r : PairSeq) : Walk :=
  let key := r.key
  let counts := w.counts.insert key ((w.counts.lookup key).getD 0 + 1)
  let prior := w.lastSeq.lookup key
  let broken := if r.selfConsistent then w.broken else setDefault w.broken key (inconsistentText r)
  let lastSeq := w.lastSeq.insert key (max (prior.getD 0) r.seq)
  let gaps := w.gaps.insert key ((gapsAt w.gaps key).after prior r)
  match prior with
  | none => ⟨lastSeq, gaps, broken, counts⟩
  | some q =>
      if r.seq ≤ q then ⟨lastSeq, gaps, setDefault broken key (regressionText r q), counts⟩
      else ⟨lastSeq, gaps, broken, counts⟩

/-- What cannot be added to a number raises when its record is the first of its pair. -/
def PrevSeq.adds : PrevSeq → Bool
  | .other _ => false
  | _ => true

/-- The loop over the records, for any extractor. -/
def Walk.over {α : Type} (pairExtractor : α → Py (Option PairSeq)) (w : Walk) : List α → Py Walk
  | [] => .ok w
  | capsule :: capsules => do
      match ← pairExtractor capsule with
      | none => w.over pairExtractor capsules
      | some r =>
        if (w.lastSeq.lookup r.key).isNone && !r.prevSeq.adds then throw .typeError
        else (w.step r).over pairExtractor capsules

def Walk.total (w : Walk) : ℕ := (w.counts.entries.map Sigma.snd).sum

/-- The verdict text of one pair. -/
def Walk.continuityOf (w : Walk) (covered : Option ℕ) (key : String) : String :=
  match w.broken.lookup key with
  | some text => text
  | none =>
      match covered with
      | some n =>
        if w.total < n then
          "broken: checkpoint covers " ++ toString n ++
            " pair-sequenced records but only " ++ toString w.total ++ " were presented"
        else "unbroken"
      | none => "unbroken"

def Walk.report (w : Walk) (covered : Option ℕ) : List PairContinuity :=
  w.counts.entries.map fun entry =>
    { pair := entry.1
      continuity := w.continuityOf covered entry.1
      gapsDetected := gapsAt w.gaps entry.1
      recordsChecked := entry.2
      counterpartyAuthenticated := pairCounterpartyAuthenticated entry.1 }

/-- `verify_pair_continuity`, for any extractor.  The dictionary it returns is
given by its values, each of which carries its own key. -/
def verifyPairContinuity {α : Type} (pairExtractor : α → Py (Option PairSeq))
    (covered : Option ℕ) (capsules : List α) : Py (List PairContinuity) := do
  return (← Walk.empty.over pairExtractor capsules).report covered

/-! ## One pair's cell -/

/-- What the walk holds for one pair. -/
structure PairCell where
  prior : Option Int
  gaps : Gaps
  broken : Option String
  count : ℕ
deriving DecidableEq

def Walk.cell (w : Walk) (k : String) : PairCell :=
  ⟨w.lastSeq.lookup k, gapsAt w.gaps k, w.broken.lookup k, (w.counts.lookup k).getD 0⟩

def PairCell.start : PairCell := ⟨none, .int 0, none, 0⟩

/-- The gap that a record with an issued number adds after the number `prior`. -/
def gapOf (prior : Option Int) (r : PairSeq) : Int :=
  match prior with
  | none => r.prevSeq.toInt?.getD 0
  | some q => if r.seq > q + 1 then r.seq - q - 1 else 0

/-- The reason for which one record breaks the pair, if it does. -/
def breakOf (prior : Option Int) (r : PairSeq) : Option String :=
  if r.selfConsistent then
    match prior with
    | none => none
    | some q => if r.seq ≤ q then some (regressionText r q) else none
  else some (inconsistentText r)

def PairCell.step (c : PairCell) (r : PairSeq) : PairCell :=
  ⟨some (max (c.prior.getD 0) r.seq), c.gaps.after c.prior r, c.broken.or (breakOf c.prior r),
    c.count + 1⟩

theorem lookup_setDefault_same (d : Dict String String) (key text : String) :
    (setDefault d key text).lookup key = (d.lookup key).or (some text) := by
  unfold setDefault
  cases h : d.lookup key with
  | none => simp
  | some t => simp [h]

theorem lookup_setDefault_ne (d : Dict String String) {key k : String} (text : String)
    (h : key ≠ k) : (setDefault d key text).lookup k = d.lookup k := by
  unfold setDefault
  cases d.lookup key with
  | none => simp [AList.lookup_insert_ne (Ne.symm h)]
  | some t => rfl

theorem Walk.cell_step_ne (w : Walk) (r : PairSeq) (k : String) (h : r.key ≠ k) :
    (w.step r).cell k = w.cell k := by
  have hk := Ne.symm h
  unfold Walk.step
  dsimp only
  cases w.lastSeq.lookup r.key with
  | none =>
      cases r.selfConsistent <;>
        simp [Walk.cell, gapsAt, AList.lookup_insert_ne hk, lookup_setDefault_ne _ _ h]
  | some q =>
      dsimp only
      split_ifs <;>
        simp [Walk.cell, gapsAt, AList.lookup_insert_ne hk, lookup_setDefault_ne _ _ h]

theorem Walk.cell_step_same (w : Walk) (r : PairSeq) :
    (w.step r).cell r.key = (w.cell r.key).step r := by
  unfold Walk.step
  dsimp only
  cases hprior : w.lastSeq.lookup r.key with
  | none =>
      cases hcons : r.selfConsistent <;>
        simp [Walk.cell, PairCell.step, gapsAt, breakOf, hprior, hcons, lookup_setDefault_same]
  | some q =>
      by_cases hle : r.seq ≤ q <;> cases hcons : r.selfConsistent <;>
        simp [Walk.cell, PairCell.step, gapsAt, breakOf, hprior, hcons, hle, lookup_setDefault_same]

/-- The walk seen at one pair is the walk over that pair's records. -/
theorem Walk.cell_foldl (rs : List PairSeq) (k : String) :
    (rs.foldl Walk.step Walk.empty).cell k =
      (ofKey PairSeq.key k rs).foldl PairCell.step PairCell.start :=
  foldl_view Walk.cell PairCell.step Walk.cell_step_same Walk.cell_step_ne Walk.empty rs k

/-! ## What the cell tells about its records -/

@[simp] theorem PairCell.foldl_count (rs : List PairSeq) (c : PairCell) :
    (rs.foldl PairCell.step c).count = c.count + rs.length := by
  induction rs generalizing c with
  | nil => simp
  | cons r rs ih =>
      rw [List.foldl_cons, ih]
      simp only [PairCell.step, List.length_cons]
      omega

theorem PairCell.foldl_broken_of_some {c : PairCell} {text : String}
    (h : c.broken = some text) (rs : List PairSeq) :
    (rs.foldl PairCell.step c).broken = some text := by
  induction rs generalizing c with
  | nil => exact h
  | cons r rs ih => exact ih (by simp [PairCell.step, h])

/-- A record that breaks the pair where it stands leaves the pair broken. -/
theorem PairCell.foldl_broken_of_breakOf (c : PairCell) (a b : List PairSeq) {r : PairSeq}
    (h : breakOf (a.foldl PairCell.step c).prior r ≠ none) :
    ((a ++ r :: b).foldl PairCell.step c).broken ≠ none := by
  obtain ⟨text, htext⟩ := Option.ne_none_iff_exists'.mp h
  rw [List.foldl_append, List.foldl_cons]
  have hstep : ∃ t, ((a.foldl PairCell.step c).step r).broken = some t := by
    cases hb : (a.foldl PairCell.step c).broken with
    | none => exact ⟨text, by simp [PairCell.step, hb, htext]⟩
    | some t => exact ⟨t, by simp [PairCell.step, hb]⟩
  obtain ⟨t, ht⟩ := hstep
  rw [PairCell.foldl_broken_of_some ht]
  simp

/-- The number kept is at least every number seen. -/
theorem PairCell.le_prior_of_mem {rs : List PairSeq} {x : PairSeq} (hx : x ∈ rs)
    (c : PairCell) : ∃ q, (rs.foldl PairCell.step c).prior = some q ∧ x.seq ≤ q := by
  induction rs using List.reverseRecOn with
  | nil => simp at hx
  | append_singleton rs r ih =>
      rw [List.foldl_concat]
      refine ⟨max ((rs.foldl PairCell.step c).prior.getD 0) r.seq, rfl, ?_⟩
      rcases List.mem_append.mp hx with hx | hx
      · obtain ⟨q, hq, hle⟩ := ih hx
        rw [hq]
        exact le_trans hle (le_max_left _ _)
      · rw [List.mem_singleton.mp hx]
        exact le_max_right _ _

theorem PairCell.foldl_broken_of_regression {a b : List PairSeq} {r x : PairSeq}
    (hx : x ∈ a) (hle : r.seq ≤ x.seq) (c : PairCell) :
    ((a ++ r :: b).foldl PairCell.step c).broken ≠ none := by
  refine PairCell.foldl_broken_of_breakOf c a b ?_
  obtain ⟨q, hq, hxq⟩ := PairCell.le_prior_of_mem hx c
  have hreg : r.seq ≤ q := le_trans hle hxq
  rw [hq, breakOf]
  split_ifs <;> simp

theorem PairCell.foldl_broken_of_inconsistent {a b : List PairSeq} {r : PairSeq}
    (h : r.selfConsistent = false) (c : PairCell) :
    ((a ++ r :: b).foldl PairCell.step c).broken ≠ none := by
  refine PairCell.foldl_broken_of_breakOf c a b ?_
  simp [breakOf, h]

/-- A pair is only ever broken at a record. -/
theorem PairCell.foldl_broken_text {rs : List PairSeq} {text : String}
    (h : (rs.foldl PairCell.step PairCell.start).broken = some text) :
    ∃ reason, text = "broken at seq=" ++ reason := by
  induction rs using List.reverseRecOn generalizing text with
  | nil => simp [PairCell.start] at h
  | append_singleton rs r ih =>
      rw [List.foldl_concat] at h
      simp only [PairCell.step, Option.or_eq_some_iff] at h
      rcases h with h | ⟨-, h⟩
      · exact ih h
      · unfold breakOf at h
        split_ifs at h
        · split at h
          · simp at h
          · split_ifs at h
            obtain rfl := Option.some.inj h
            exact ⟨_, rfl⟩
        · obtain rfl := Option.some.inj h
          exact ⟨_, rfl⟩

/-! ## Honest records -/

theorem PairSeq.Honest.selfConsistent {r : PairSeq} (h : r.Honest) : r.selfConsistent = true := by
  obtain ⟨hpos, hprev⟩ := h
  unfold PairSeq.selfConsistent
  rw [hprev]
  split_ifs with h1
  · simp [h1]
  · simp [PrevSeq.toInt?]

theorem PairSeq.Honest.prevSeq_getD {r : PairSeq} (h : r.Honest) :
    r.prevSeq.toInt?.getD 0 = r.seq - 1 := by
  obtain ⟨hpos, hprev⟩ := h
  rw [hprev]
  split_ifs with h1
  · simp [h1, PrevSeq.toInt?]
  · rfl

theorem PairSeq.Honest.adds {r : PairSeq} (h : r.Honest) : r.prevSeq.adds = true := by
  rw [h.2]
  rfl

theorem PairSeq.Honest.gaps_after {r : PairSeq} (h : r.Honest) (n : Int) (prior : Option Int) :
    (Gaps.int n).after prior r = .int (n + gapOf prior r) := by
  cases prior with
  | none =>
      rw [Gaps.after, gapOf, h.2]
      split_ifs
      · rw [PrevSeq.toInt?, Option.getD_none, add_zero]
        rfl
      · rfl
  | some q =>
      rw [Gaps.after, gapOf]
      split_ifs
      · rfl
      · rw [add_zero]

/-- Honest records in increasing order: nothing is broken, and the gaps and the
records together make up the last number. -/
theorem PairCell.foldl_increasing {rs : List PairSeq} (hhonest : ∀ r ∈ rs, r.Honest)
    (hinc : rs.Pairwise fun a b => a.seq < b.seq) :
    let c := rs.foldl PairCell.step PairCell.start
    c.prior = rs.getLast?.map PairSeq.seq ∧ c.broken = none ∧
      c.gaps = .int (c.prior.getD 0 - c.count) := by
  induction rs using List.reverseRecOn with
  | nil => simp [PairCell.start]
  | append_singleton rs r ih =>
      obtain ⟨hinc', -, hlt⟩ := List.pairwise_append.mp hinc
      obtain ⟨hprior, hbroken, hsum⟩ :=
        ih (fun t ht => hhonest t (List.mem_append_left _ ht)) hinc'
      have hr : r.Honest := hhonest r (by simp)
      rw [List.foldl_concat]
      generalize rs.foldl PairCell.step PairCell.start = c at hprior hbroken hsum
      cases hlast : rs.getLast? with
      | none =>
        rw [hlast, Option.map_none] at hprior
        have hpos := hr.1
        simp only [PairCell.step, hprior, hbroken, hsum, hr.gaps_after, gapOf, breakOf,
          hr.selfConsistent, hr.prevSeq_getD, List.getLast?_concat, Option.map_some]
        simp only [Option.getD_none, Option.getD_some]
        refine ⟨?_, by simp, ?_⟩
        · simp; omega
        · simp; omega
      | some x =>
        rw [hlast, Option.map_some] at hprior
        have hxr : x.seq < r.seq := hlt x (List.mem_of_getLast? hlast) r (by simp)
        have hpos := hr.1
        simp only [PairCell.step, hprior, hbroken, hsum, hr.gaps_after, gapOf, breakOf,
          hr.selfConsistent, List.getLast?_concat, Option.map_some]
        have hmax : max x.seq r.seq = r.seq := max_eq_right hxr.le
        refine ⟨by simp [hmax], by simp [hxr], ?_⟩
        simp only [Option.getD_some, hmax, Gaps.int.injEq]
        split_ifs <;> push_cast <;> omega

theorem PairSeq.Honest.gapOf_nonneg {r : PairSeq} (h : r.Honest) (prior : Option Int) :
    0 ≤ gapOf prior r := by
  have hpos := h.1
  cases prior with
  | none => simp only [gapOf, h.prevSeq_getD]; omega
  | some q =>
      simp only [gapOf]
      split_ifs <;> omega

/-- An honest record neither breaks the pair nor adds a gap exactly when it
follows the number before it by one. -/
theorem PairSeq.Honest.follows_iff {r : PairSeq} (h : r.Honest) {prior : Option Int}
    (hprior : ∀ q, prior = some q → 1 ≤ q) :
    (breakOf prior r = none ∧ gapOf prior r = 0) ↔
      r.prevSeq = .issued prior ∧ r.seq = prior.getD 0 + 1 := by
  obtain ⟨hpos, hprev⟩ := id h
  cases prior with
  | none =>
      have hgapOf : gapOf none r = r.seq - 1 := h.prevSeq_getD
      rw [hgapOf, Option.getD_none]
      constructor
      · rintro ⟨-, hgap⟩
        have h1 : r.seq = 1 := by omega
        exact ⟨by rw [hprev, if_pos h1], h1⟩
      · rintro ⟨-, hseq⟩
        exact ⟨by simp [breakOf, h.selfConsistent], by omega⟩
  | some q =>
      have hq := hprior q rfl
      simp only [breakOf, h.selfConsistent, gapOf, Option.getD_some, hprev, if_true]
      constructor
      · rintro ⟨hbreak, hgap⟩
        have hgt : q < r.seq := by
          by_contra hle
          simp [not_lt.mp hle] at hbreak
        have hseq : r.seq = q + 1 := by
          split_ifs at hgap <;> omega
        refine ⟨?_, hseq⟩
        rw [if_neg (by omega), hseq]
        simp
      · rintro ⟨-, hseq⟩
        simp [hseq]

theorem PairCell.gaps_nonneg {rs : List PairSeq} (hhonest : ∀ r ∈ rs, r.Honest) :
    ∃ n, 0 ≤ n ∧ (rs.foldl PairCell.step PairCell.start).gaps = .int n := by
  induction rs using List.reverseRecOn with
  | nil => exact ⟨0, le_rfl, rfl⟩
  | append_singleton rs r ih =>
      obtain ⟨n, hn, hgaps⟩ := ih fun t ht => hhonest t (List.mem_append_left _ ht)
      have hr : r.Honest := hhonest r (by simp)
      rw [List.foldl_concat]
      generalize rs.foldl PairCell.step PairCell.start = c at hgaps ⊢
      refine ⟨n + gapOf c.prior r, add_nonneg hn (hr.gapOf_nonneg _), ?_⟩
      rw [PairCell.step, hgaps]
      exact hr.gaps_after n _

/-- On honest records the pair is clean exactly when its numbers are `1, 2, 3, ...`. -/
theorem PairCell.clean_iff_consecutive {rs : List PairSeq} (hhonest : ∀ r ∈ rs, r.Honest) :
    ((rs.foldl PairCell.step PairCell.start).broken = none ∧
      (rs.foldl PairCell.step PairCell.start).gaps = .int 0) ↔ Consecutive none rs := by
  induction rs using List.reverseRecOn with
  | nil => simp [PairCell.start, Consecutive]
  | append_singleton rs r ih =>
      have hhonest' : ∀ t ∈ rs, t.Honest := fun t ht => hhonest t (List.mem_append_left _ ht)
      have hr : r.Honest := hhonest r (by simp)
      obtain ⟨n, hnonneg, hgaps⟩ := PairCell.gaps_nonneg hhonest'
      have ih := ih hhonest'
      have hprior : Consecutive none rs →
          (rs.foldl PairCell.step PairCell.start).prior = rs.getLast?.map PairSeq.seq :=
        fun h => (PairCell.foldl_increasing hhonest' h.pairwise).1
      rw [List.foldl_concat, consecutive_append, ← ih]
      rw [← ih] at hprior
      generalize rs.foldl PairCell.step PairCell.start = c at hgaps hprior ⊢
      have hstep : ((c.step r).broken = none ∧ (c.step r).gaps = .int 0) ↔
          (c.broken = none ∧ c.gaps = .int 0) ∧ breakOf c.prior r = none ∧ gapOf c.prior r = 0 := by
        have hgap := hr.gapOf_nonneg c.prior
        have hsum : n + gapOf c.prior r = 0 ↔ n = 0 ∧ gapOf c.prior r = 0 := by
          omega
        simp only [PairCell.step, Option.or_eq_none_iff, hgaps, hr.gaps_after, Gaps.int.injEq, hsum]
        exact and_and_and_comm
      rw [hstep]
      refine and_congr_right fun hclean => ?_
      rw [hprior hclean]
      have hlast : ∀ q, rs.getLast?.map PairSeq.seq = some q → 1 ≤ q := by
        intro q hq
        obtain ⟨x, hx, rfl⟩ := Option.map_eq_some_iff.mp hq
        exact (hhonest' x (List.mem_of_getLast? hx)).1
      simpa [Consecutive] using hr.follows_iff hlast

/-! ## The report -/

/-- `report[k]`. -/
def entryOf (report : List PairContinuity) (k : String) : Option PairContinuity :=
  report.find? fun p => decide (p.pair = k)

/-- Every pair unbroken and without gaps. -/
def Clean (report : List PairContinuity) : Prop :=
  ∀ p ∈ report, p.continuity = "unbroken" ∧ p.gapsDetected = .int 0

/-- The verdict names the record at which the pair broke. -/
def PairContinuity.Broken (p : PairContinuity) : Prop :=
  ∃ reason, p.continuity = "broken at seq=" ++ reason

/-- The records that the extractor tells. -/
def extractedFrom {α : Type} (pairExtractor : α → Py (Option PairSeq)) (capsules : List α) :
    List PairSeq :=
  capsules.filterMap fun capsule => (pairExtractor capsule).toOption.join

/-- The first record of each pair that has no cell yet states what can be added. -/
def Startable (w : Walk) (rs : List PairSeq) : Prop :=
  ∀ k, w.lastSeq.lookup k = none → ∀ r ∈ (ofKey PairSeq.key k rs).head?, r.prevSeq.adds = true

theorem Walk.lastSeq_step (w : Walk) (r : PairSeq) (k : String) :
    (w.step r).lastSeq.lookup k = none ↔ w.lastSeq.lookup k = none ∧ r.key ≠ k := by
  by_cases hk : r.key = k
  · have hcell : ((w.step r).cell r.key).prior ≠ none := by
      rw [Walk.cell_step_same]
      exact Option.some_ne_none _
    subst hk
    exact iff_of_false hcell fun h => h.2 rfl
  · have hcell := congrArg PairCell.prior (w.cell_step_ne r k hk)
    exact ⟨fun h => ⟨hcell.symm.trans h, hk⟩, fun h => hcell.trans h.1⟩

theorem startable_cons {w : Walk} {r : PairSeq} {rs : List PairSeq} :
    Startable w (r :: rs) ↔
      (w.lastSeq.lookup r.key = none → r.prevSeq.adds = true) ∧ Startable (w.step r) rs := by
  constructor
  · intro h
    refine ⟨fun hnone => h r.key hnone r (by rw [ofKey_cons_same rfl]; rfl), fun k hk x hx => ?_⟩
    obtain ⟨hnone, hne⟩ := (w.lastSeq_step r k).mp hk
    exact h k hnone x (by rwa [ofKey_cons_ne hne])
  · rintro ⟨hfirst, hrest⟩ k hk x hx
    by_cases hne : r.key = k
    · rw [ofKey_cons_same hne] at hx
      obtain rfl := Option.some.inj hx
      exact hfirst (hne ▸ hk)
    · rw [ofKey_cons_ne hne] at hx
      exact hrest k ((w.lastSeq_step r k).mpr ⟨hk, hne⟩) x hx

/-- The walk returns where every record can be read and every pair can be started. -/
theorem Walk.over_eq_ok {α : Type} {pairExtractor : α → Py (Option PairSeq)} {capsules : List α}
    {w w' : Walk} :
    w.over pairExtractor capsules = .ok w' ↔
      (∀ c ∈ capsules, ∃ found, pairExtractor c = .ok found) ∧
        Startable w (extractedFrom pairExtractor capsules) ∧
        w' = (extractedFrom pairExtractor capsules).foldl Walk.step w := by
  induction capsules generalizing w with
  | nil =>
      have hstart : Startable w [] := fun k _ r hr => by cases hr
      simp only [Walk.over, extractedFrom, List.filterMap_nil, List.foldl_nil, Except.ok.injEq, hstart,
        List.not_mem_nil, false_imp_iff, implies_true, true_and]
      exact eq_comm
  | cons c cs ih =>
      rw [Walk.over, List.forall_mem_cons]
      cases hc : pairExtractor c with
      | error e => simp
      | ok found =>
        cases found with
        | none =>
          have hsame : extractedFrom pairExtractor (c :: cs) =
              extractedFrom pairExtractor cs := by simp [extractedFrom, hc, Except.toOption]
          rw [hsame]
          simpa using ih
        | some r =>
          have hmore : extractedFrom pairExtractor (c :: cs) =
              r :: extractedFrom pairExtractor cs := by simp [extractedFrom, hc, Except.toOption]
          rw [hmore, startable_cons, List.foldl_cons, Py.ok_bind]
          dsimp only
          cases hprior : w.lastSeq.lookup r.key <;> cases hadds : r.prevSeq.adds
          · simp
          all_goals simpa using ih

theorem verifyPairContinuity_eq_ok {α : Type} {pairExtractor : α → Py (Option PairSeq)}
    {capsules : List α} {covered : Option ℕ} {report : List PairContinuity} :
    verifyPairContinuity pairExtractor covered capsules = .ok report ↔
      (∀ c ∈ capsules, ∃ found, pairExtractor c = .ok found) ∧
        Startable .empty (extractedFrom pairExtractor capsules) ∧
        report = ((extractedFrom pairExtractor capsules).foldl Walk.step .empty).report covered := by
  rw [verifyPairContinuity, Py.bind_eq_ok]
  simp only [Walk.over_eq_ok, Py.pure_eq_ok, Except.ok.injEq]
  constructor
  · rintro ⟨w, ⟨hread, hstart, rfl⟩, rfl⟩
    exact ⟨hread, hstart, rfl⟩
  · rintro ⟨hread, hstart, rfl⟩
    exact ⟨_, ⟨hread, hstart, rfl⟩, rfl⟩

theorem extractedFrom_of_mapM {α : Type} {pairExtractor : α → Py (Option PairSeq)}
    {capsules : List α} {extracted : List (Option PairSeq)}
    (h : capsules.mapM pairExtractor = .ok extracted) :
    extractedFrom pairExtractor capsules = extracted.reduceOption := by
  have hall := Py.forall₂_of_map_eq (Py.mapM_eq_ok.mp h)
  clear h
  induction hall with
  | nil => rfl
  | @cons c found cs rest hfound _ ih =>
      cases found with
      | none => simpa [extractedFrom, hfound, Except.toOption] using ih
      | some r => simpa [extractedFrom, hfound, Except.toOption] using ih

theorem startable_of_honest {rs : List PairSeq} (h : ∀ r ∈ rs, r.Honest) (w : Walk) :
    Startable w rs := by
  intro k _ r hr
  exact (h r (mem_ofKey.mp (List.mem_of_head? hr)).1).adds

theorem verifyPairContinuity_ok {α : Type} {pairExtractor : α → Py (Option PairSeq)}
    {capsules : List α} {extracted : List (Option PairSeq)}
    (h : capsules.mapM pairExtractor = .ok extracted)
    (hhonest : ∀ r ∈ extracted.reduceOption, r.Honest) (covered : Option ℕ) :
    verifyPairContinuity pairExtractor covered capsules =
      .ok ((extracted.reduceOption.foldl Walk.step Walk.empty).report covered) := by
  rw [verifyPairContinuity_eq_ok, extractedFrom_of_mapM h]
  exact ⟨Py.mapM_returns.mp ⟨extracted, h⟩, startable_of_honest hhonest _, rfl⟩

theorem find?_entries {ν β : Type} (d : Dict String ν) (k : String) (f : String → ν → β)
    (name : β → String) (hname : ∀ a b, name (f a b) = a) :
    (d.entries.map fun e => f e.1 e.2).find? (fun b => decide (name b = k)) =
      (d.lookup k).map (f k) := by
  simp only [AList.lookup]
  induction d.entries with
  | nil => simp
  | cons e es ih =>
      obtain ⟨a, b⟩ := e
      simp only [List.map_cons, List.find?_cons, hname]
      by_cases hk : a = k
      · subst hk
        simp
      · rw [List.dlookup_cons_ne _ _ (Ne.symm hk), ← ih]
        simp [hk]

theorem entryOf_report (w : Walk) (covered : Option ℕ) (k : String) :
    entryOf (w.report covered) k = (w.counts.lookup k).map fun count =>
      ⟨k, w.continuityOf covered k, gapsAt w.gaps k, count, pairCounterpartyAuthenticated k⟩ :=
  find?_entries w.counts k
    (fun k count => PairContinuity.mk k (w.continuityOf covered k) (gapsAt w.gaps k) count
      (pairCounterpartyAuthenticated k))
    PairContinuity.pair fun _ _ => rfl

theorem mem_of_entryOf {report : List PairContinuity} {k : String} {p : PairContinuity}
    (h : entryOf report k = some p) : p ∈ report ∧ p.pair = k :=
  ⟨List.mem_of_find?_eq_some h, by simpa using List.find?_some h⟩

theorem Walk.counts_step (w : Walk) (r : PairSeq) :
    (w.step r).counts = w.counts.insert r.key ((w.counts.lookup r.key).getD 0 + 1) := by
  unfold Walk.step
  dsimp only
  repeat' split
  all_goals rfl

/-- The report has an entry for exactly the pairs that have a record. -/
theorem Walk.counts_foldl (rs : List PairSeq) (k : String) :
    (rs.foldl Walk.step Walk.empty).counts.lookup k =
      if ofKey PairSeq.key k rs = [] then none
      else some (ofKey PairSeq.key k rs).length := by
  have hsame : ∀ (w : Walk) (r : PairSeq),
      (w.step r).counts.lookup r.key = some ((w.counts.lookup r.key).getD 0 + 1) := by
    intro w r
    rw [Walk.counts_step, AList.lookup_insert]
  have hother : ∀ (w : Walk) (r : PairSeq) (k : String), r.key ≠ k →
      (w.step r).counts.lookup k = w.counts.lookup k := by
    intro w r k hk
    rw [Walk.counts_step, AList.lookup_insert_ne (Ne.symm hk)]
  have hview := foldl_view (fun w k => w.counts.lookup k)
    (fun (o : Option ℕ) (_ : PairSeq) => some (o.getD 0 + 1)) hsame hother Walk.empty rs k
  rw [hview]
  induction ofKey PairSeq.key k rs using List.reverseRecOn with
  | nil => simp [Walk.empty]
  | append_singleton ts t ih =>
      rw [List.foldl_concat, ih]
      by_cases hts : ts = []
      · simp [hts]
      · simp [hts]

/-- The entry of a pair, by the walk over the pair's own records. -/
theorem entryOf_walk {rs : List PairSeq} {k : String} (hne : ofKey PairSeq.key k rs ≠ [])
    (covered : Option ℕ) :
    let c := (ofKey PairSeq.key k rs).foldl PairCell.step PairCell.start
    ∃ p, entryOf ((rs.foldl Walk.step Walk.empty).report covered) k = some p ∧
      p.gapsDetected = c.gaps ∧ p.recordsChecked = c.count ∧
      (∀ text, c.broken = some text → p.continuity = text) ∧
      (c.broken = none → covered = none → p.continuity = "unbroken") := by
  intro c
  have hcell : (rs.foldl Walk.step Walk.empty).cell k = c := Walk.cell_foldl rs k
  have hcounts := Walk.counts_foldl rs k
  rw [if_neg hne] at hcounts
  rw [entryOf_report, hcounts]
  refine ⟨_, rfl, congrArg PairCell.gaps hcell, by simp [c, PairCell.start], ?_, ?_⟩
  · intro text htext
    have hbroken : (rs.foldl Walk.step Walk.empty).broken.lookup k = some text :=
      (congrArg PairCell.broken hcell).trans htext
    simp [Walk.continuityOf, hbroken]
  · intro hnone hcovered
    have hbroken : (rs.foldl Walk.step Walk.empty).broken.lookup k = none :=
      (congrArg PairCell.broken hcell).trans hnone
    simp [Walk.continuityOf, hbroken, hcovered]

theorem ofKey_ne_nil_of_mem_report {rs : List PairSeq} {p : PairContinuity}
    {covered : Option ℕ} (h : p ∈ (rs.foldl Walk.step Walk.empty).report covered) :
    ofKey PairSeq.key p.pair rs ≠ [] ∧
      entryOf ((rs.foldl Walk.step Walk.empty).report covered) p.pair = some p := by
  obtain ⟨⟨k, count⟩, hmem, rfl⟩ := List.mem_map.mp h
  have hcount : (rs.foldl Walk.step Walk.empty).counts.lookup k = some count :=
    AList.mem_lookup_iff.mpr hmem
  refine ⟨?_, by rw [entryOf_report, hcount]; rfl⟩
  intro hnil
  rw [Walk.counts_foldl, if_pos hnil] at hcount
  simp at hcount

/-- A ledger of honest records is clean exactly when each pair counts
`1, 2, 3, ...`. -/
theorem clean_report_iff {rs : List PairSeq} (hhonest : ∀ r ∈ rs, r.Honest) :
    Clean ((rs.foldl Walk.step Walk.empty).report none) ↔
      ∀ k, Consecutive none (ofKey PairSeq.key k rs) := by
  have hpair : ∀ k, ∀ r ∈ ofKey PairSeq.key k rs, r.Honest :=
    fun k r hr => hhonest r (mem_ofKey.mp hr).1
  constructor
  · intro hclean k
    by_cases hne : ofKey PairSeq.key k rs = []
    · rw [hne]
      trivial
    · obtain ⟨p, hp, hgaps, -, hbroken, -⟩ := entryOf_walk hne none
      obtain ⟨hunbroken, hzero⟩ := hclean p (mem_of_entryOf hp).1
      refine (PairCell.clean_iff_consecutive (hpair k)).1 ⟨?_, hgaps ▸ hzero⟩
      rw [Option.eq_none_iff_forall_ne_some]
      intro text htext
      obtain ⟨reason, rfl⟩ := PairCell.foldl_broken_text htext
      have hcontra := congrArg (fun s : String => s.toList.head?)
        ((hbroken _ htext).symm.trans hunbroken)
      simp at hcontra
  · intro hcons p hp
    obtain ⟨hne, hentry⟩ := ofKey_ne_nil_of_mem_report hp
    obtain ⟨q, hq, hgaps, -, -, hunbroken⟩ := entryOf_walk hne none
    obtain rfl := Option.some.inj (hentry.symm.trans hq)
    obtain ⟨hnone, hzero⟩ := (PairCell.clean_iff_consecutive (hpair _)).2 (hcons _)
    exact ⟨hunbroken hnone rfl, hgaps.trans hzero⟩

/-- The verifier accepts the ledger: every pair unbroken and without gaps. -/
def PassesContinuity (ledger : List Json) : Prop :=
  ∃ report, verifyPairContinuity extractPairSeq none ledger = .ok report ∧ Clean report

theorem passesContinuity_iff {ledger : List Json} {extracted : List (Option PairSeq)}
    (hextracted : ledger.mapM extractPairSeq = .ok extracted)
    (hhonest : ∀ r ∈ extracted.reduceOption, r.Honest) :
    PassesContinuity ledger ↔
      ∀ k, Consecutive none (ofKey PairSeq.key k extracted.reduceOption) := by
  rw [← clean_report_iff hhonest]
  constructor
  · rintro ⟨report, hreport, hclean⟩
    rw [verifyPairContinuity_ok hextracted hhonest] at hreport
    exact Except.ok.inj hreport ▸ hclean
  · exact fun hclean => ⟨_, verifyPairContinuity_ok hextracted hhonest none, hclean⟩

end CapsuleMesh.Sequence
