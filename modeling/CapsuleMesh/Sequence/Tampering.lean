import CapsuleMesh.Sequence.Continuity

/-!
# Dropped, repeated, reordered and reset records

The verifier is handed the records of many pairs, of which one pair's stream was
honestly issued from an empty store.  Dropping records of that pair is a count:
gaps and survivors make up the last surviving number.  Repeating a record, moving
it before an earlier one or resetting its number breaks the pair.  The records of
the other pairs may keep the verifier from reporting at all, and nothing else.
-/

namespace CapsuleMesh.Sequence

open Python Library

/-- One record of a pair's stream was interfered with.  A reset takes a record
back to a number already passed, whatever it then claims to follow; a renumbered
record keeps the `prev_seq` it was sealed with. -/
inductive Tampered : List PairSeq → List PairSeq → Prop
  | duplicated (a b c : List PairSeq) (x : PairSeq) :
      Tampered (a ++ x :: b ++ c) (a ++ x :: b ++ x :: c)
  | moved (a b c : List PairSeq) (x y : PairSeq) :
      Tampered (a ++ x :: b ++ y :: c) (a ++ y :: x :: b ++ c)
  | reset (a b : List PairSeq) (x y : PairSeq) (m : Int) (p : PrevSeq)
      (hy : y ∈ a) (hm : m ≤ y.seq) :
      Tampered (a ++ x :: b) (a ++ { x with seq := m, prevSeq := p } :: b)
  | renumbered (a b : List PairSeq) (x : PairSeq) (m : Int) (hm : 1 ≤ m) (hne : m ≠ x.seq) :
      Tampered (a ++ x :: b) (a ++ { x with seq := m } :: b)

theorem Tampered.ne_nil {survivors present : List PairSeq} (h : Tampered survivors present) :
    present ≠ [] := by
  cases h <;> simp

/-- An honest record that is given another number contradicts its own `prev_seq`. -/
theorem PairSeq.Honest.selfConsistent_renumbered {x : PairSeq} (h : x.Honest) {m : Int}
    (hm : 1 ≤ m) (hne : m ≠ x.seq) :
    PairSeq.selfConsistent { x with seq := m } = false := by
  obtain ⟨hpos, hprev⟩ := h
  simp only [PairSeq.selfConsistent, hprev]
  split_ifs with h1
  · simp only [decide_eq_false_iff_not]
    omega
  · simp only [PrevSeq.toInt?, Option.some.injEq, decide_eq_false_iff_not]
    omega

theorem PairSeq.Honest.head_adds {rs : List PairSeq} (h : ∀ r ∈ rs, r.Honest) :
    ∀ r ∈ rs.head?, r.prevSeq.adds = true :=
  fun r hr => (h r (List.mem_of_head? hr)).adds

/-- The record that is reset is not the first of its pair. -/
theorem Tampered.head_adds {survivors present : List PairSeq} (h : Tampered survivors present)
    (hhonest : ∀ r ∈ survivors, r.Honest) : ∀ r ∈ present.head?, r.prevSeq.adds = true := by
  intro r hr
  cases h with
  | duplicated a b c x =>
      apply (hhonest r _).adds
      cases a <;> simp_all
  | moved a b c x y =>
      apply (hhonest r _).adds
      cases a <;> simp_all
  | reset a b x y m p hy hm =>
      apply (hhonest r _).adds
      cases a <;> simp_all
  | renumbered a b x m hm hne =>
      cases a with
      | nil =>
        obtain rfl := Option.some.inj hr
        exact (hhonest x (by simp)).adds
      | cons z a =>
        apply (hhonest r _).adds
        simp_all

theorem Tampered.foldl_broken {survivors present : List PairSeq}
    (h : Tampered survivors present) (hhonest : ∀ r ∈ survivors, r.Honest)
    (hinc : survivors.Pairwise fun a b => a.seq < b.seq) :
    (present.foldl PairCell.step PairCell.start).broken ≠ none := by
  cases h with
  | duplicated a b c x => exact PairCell.foldl_broken_of_regression (x := x) (by simp) le_rfl _
  | moved a b c x y =>
      have hxy : x.seq < y.seq := (List.pairwise_append.mp hinc).2.2 x (by simp) y (by simp)
      have happ : a ++ y :: x :: b ++ c = (a ++ [y]) ++ x :: (b ++ c) := by simp
      rw [happ]
      exact PairCell.foldl_broken_of_regression (x := y) (by simp) hxy.le _
  | reset a b x y m p hy hm => exact PairCell.foldl_broken_of_regression hy hm _
  | renumbered a b x m hm hne =>
      have hx : x.Honest := hhonest x (by simp)
      exact PairCell.foldl_broken_of_inconsistent (hx.selfConsistent_renumbered hm hne) _

/-- The records can be read, and none that is the first of another pair states as its `prev_seq`
what cannot be added to a number. -/
def OthersStart {α : Type} (pairExtractor : α → Py (Option PairSeq)) (capsules : List α)
    (k : String) : Prop :=
  (∀ c ∈ capsules, ∃ found, pairExtractor c = .ok found) ∧
    ∀ k' ≠ k, ∀ r ∈ (ofKey PairSeq.key k' (extractedFrom pairExtractor capsules)).head?,
      r.prevSeq.adds = true

theorem othersStart_iff {α : Type} {pairExtractor : α → Py (Option PairSeq)} {capsules : List α}
    {k : String} (hadds : ∀ r ∈ (ofKey PairSeq.key k (extractedFrom pairExtractor capsules)).head?,
      r.prevSeq.adds = true) (covered : Option ℕ) :
    OthersStart pairExtractor capsules k ↔
      verifyPairContinuity pairExtractor covered capsules =
        .ok (((extractedFrom pairExtractor capsules).foldl Walk.step .empty).report covered) := by
  rw [verifyPairContinuity_eq_ok]
  constructor
  · rintro ⟨hread, hothers⟩
    refine ⟨hread, fun k' _ r hr => ?_, rfl⟩
    by_cases hk : k' = k
    · subst hk
      exact hadds r hr
    · exact hothers k' hk r hr
  · rintro ⟨hread, hstart, -⟩
    exact ⟨hread, fun k' _ r hr => hstart k' rfl r hr⟩

theorem othersStart_of_report {α : Type} {pairExtractor : α → Py (Option PairSeq)}
    {capsules : List α} {k : String} {covered : Option ℕ} {report : List PairContinuity}
    (h : verifyPairContinuity pairExtractor covered capsules = .ok report) :
    OthersStart pairExtractor capsules k := by
  obtain ⟨hread, hstart, -⟩ := verifyPairContinuity_eq_ok.mp h
  exact ⟨hread, fun k' _ r hr => hstart k' rfl r hr⟩

/-- Dropping records of an honestly issued pair leaves it unbroken with every missing number
counted, and tampering with what is left of it breaks it, exactly where the records of the other
pairs let the verifier report. -/
theorem drops_add_up_and_tampering_breaks {α : Type} (pairExtractor : α → Py (Option PairSeq))
    (capsules : List α) (calls : List (String × Option String)) (k : String) :
    let present := ofKey PairSeq.key k (extractedFrom pairExtractor capsules)
    let stream := ofKey PairSeq.key k (issued calls)
    (∀ last, present.getLast? = some last → present.Sublist stream →
      ((∃ report p, verifyPairContinuity pairExtractor none capsules = .ok report ∧
        entryOf report k = some p ∧ p.continuity = "unbroken" ∧
        ∃ n, p.gapsDetected = .int n ∧ n + p.recordsChecked = last.seq) ↔
      OthersStart pairExtractor capsules k)) ∧
    (∀ survivors, survivors.Sublist stream → Tampered survivors present → ∀ covered,
      ((∃ report p, verifyPairContinuity pairExtractor covered capsules = .ok report ∧
        entryOf report k = some p ∧ p.Broken) ↔
      OthersStart pairExtractor capsules k)) := by
  intro present stream
  have hstream : Consecutive none stream := consecutive_issued calls k
  constructor
  · intro last hlast hsub
    have hhonest : ∀ r ∈ present, r.Honest := fun r hr => hstream.honest r (hsub.subset hr)
    have hne : present ≠ [] := by
      intro hnil
      simp [hnil] at hlast
    obtain ⟨p, hp, hgaps, hcount, -, hunbroken⟩ := entryOf_walk hne none
    obtain ⟨hprior, hbroken, hsum⟩ :=
      PairCell.foldl_increasing hhonest (hstream.pairwise.sublist hsub)
    constructor
    · rintro ⟨report, p, hreport, -⟩
      exact othersStart_of_report hreport
    · intro hothers
      have hreport := (othersStart_iff (PairSeq.Honest.head_adds hhonest) none).mp hothers
      refine ⟨_, p, hreport, hp, hunbroken hbroken rfl, _, hgaps.trans hsum, ?_⟩
      rw [hcount, Int.sub_add_cancel, hprior, hlast]
      rfl
  · intro survivors hsub htampered covered
    have hhonest : ∀ r ∈ survivors, r.Honest := fun r hr => hstream.honest r (hsub.subset hr)
    obtain ⟨p, hp, -, -, hbroken, -⟩ := entryOf_walk htampered.ne_nil covered
    have hfold := htampered.foldl_broken hhonest (hstream.pairwise.sublist hsub)
    obtain ⟨text, htext⟩ := Option.ne_none_iff_exists'.mp hfold
    obtain ⟨reason, hreason⟩ := PairCell.foldl_broken_text htext
    constructor
    · rintro ⟨report, p, hreport, -⟩
      exact othersStart_of_report hreport
    · intro hothers
      have hreport := (othersStart_iff (htampered.head_adds hhonest) covered).mp hothers
      exact ⟨_, p, hreport, hp, reason, (hbroken text htext).trans hreason⟩

/-- A sealed record of the pair of `n` and `party`. -/
def sealedFor (party : String) (seq : Int) (prevSeq : Json) : Json :=
  .obj [("model_attestation", .obj [("compute_attestation", .obj [("x-mesh-poc-v1",
    .obj [("serving_provenance", .obj [("served_by_node_id", .str "n"),
      ("requesting_party", .str party), ("seq", .int seq), ("prev_seq", prevSeq)])])])])]

/-- Of `1, 2, 3` for one client the second is dropped.  With a record of another client in
between the gap is counted, unless that record states a text as its `prev_seq`. -/
theorem text_prev_seq_raises :
    let stream := ofKey PairSeq.key "n::a" (issued [("n", some "a"), ("n", some "a"), ("n", some "a")])
    let kept (prevSeq : Json) := [sealedFor "a" 1 .null, sealedFor "b" 7 prevSeq,
      sealedFor "a" 3 (.int 2)]
    (∀ prevSeq, ofKey PairSeq.key "n::a" (extractedFrom extractPairSeq (kept prevSeq)) =
        [⟨"n", "a", 1, .issued none⟩, ⟨"n", "a", 3, .issued (some 2)⟩]) ∧
      List.Sublist [PairSeq.mk "n" "a" 1 (.issued none), ⟨"n", "a", 3, .issued (some 2)⟩] stream ∧
      verifyPairContinuity extractPairSeq none (kept (.int 6)) =
        .ok [⟨"n::a", "unbroken", .int 1, 2, true⟩, ⟨"n::b", "unbroken", .int 6, 1, true⟩] ∧
      verifyPairContinuity extractPairSeq none (kept (.str "6")) = .error .typeError := by
  intro stream kept
  refine ⟨fun prevSeq => rfl, by decide, rfl, rfl⟩

end CapsuleMesh.Sequence
