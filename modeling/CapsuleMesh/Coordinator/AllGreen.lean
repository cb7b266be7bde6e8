import CapsuleMesh.Coordinator.Command

/-!
# When the command exits green

The exit code is read off the stages alone.  It is compared with what an all-green report should
stand on, which includes the verification of the receipt itself.
-/

namespace CapsuleMesh.Coordinator

open Python Lifecycle

/-! ## The exit code -/

theorem countP_le_iff_of_imp {α : Type} {p q : α → Bool} {as : List α}
    (h : ∀ a ∈ as, p a = true → q a = true) :
    as.countP q ≤ as.countP p ↔ ∀ a ∈ as, q a = true → p a = true := by
  induction as with
  | nil => simp
  | cons a as ih =>
      have htail : ∀ b ∈ as, p b = true → q b = true := fun b hb => h b (List.mem_cons_of_mem a hb)
      have hle : as.countP p ≤ as.countP q := List.countP_mono_left htail
      have ih := ih htail
      rw [List.forall_mem_cons]
      cases hp : p a with
      | true =>
        have hq : q a = true := h a List.mem_cons_self hp
        rw [List.countP_cons_of_pos hp, List.countP_cons_of_pos hq, Nat.add_le_add_iff_right, ih]
        simp [hq]
      | false =>
        have hcount : (a :: as).countP p = as.countP p :=
          List.countP_cons_of_neg (by rw [hp]; exact Bool.false_ne_true)
        rw [hcount]
        cases hq : q a with
        | true =>
          rw [List.countP_cons_of_pos hq]
          apply iff_of_false
          · omega
          · simp
        | false =>
          rw [List.countP_cons_of_neg (by rw [hq]; exact Bool.false_ne_true), ih]
          simp

/-- The exit code is zero where no stage is a mismatch, some stage is present and there are as many
green stages as present ones. -/
theorem summarize_zero_iff (verdict : ReceiptVerdict) :
    (summarize verdict).2 = 0 ↔
      verdict.mismatchCount = 0 ∧ 0 < verdict.presentCount ∧
        verdict.presentCount ≤ verdict.greenCount := by
  unfold summarize
  split
  · simp only [one_ne_zero, false_iff]
    omega
  split
  · simp only [OfNat.ofNat_ne_zero, false_iff]
    omega
  split
  · simp only [OfNat.ofNat_ne_zero, false_iff]
    omega
  · simp only [true_iff]
    omega

/-! ## One stage -/

section

variable (sha256 : Sha256) (verify : Json → Py VerifyResult) (runId : Json) (index : Dict Key Json)
  (bundles : Dict String StageBundle)

/-- The inner identity of a bundle's record, as the ledger keys it. -/
def innerKeyOf (bundle : StageBundle) : Py (Option (Key × Key)) :=
  innerKey (innerRecordIdentity bundle.stageCapsule).1 (innerRecordIdentity bundle.stageCapsule).2

/-- The receipt has no entry for the hop. -/
def NoEntry (hopId : Json) : Prop := ∃ key, hopId.key = .ok key ∧ index.lookup key = none

/-- The entry of the hop says that its stage disclosed nothing. -/
def Hole (hopId : Json) : Prop :=
  ∃ key stage claimed, hopId.key = .ok key ∧ index.lookup key = some stage ∧
    stage.item "bundle" = .ok claimed ∧ claimed ≠ .str "present"

/-- The entry of the hop cites a bundle that was disclosed and is a record of the hop. -/
structure Bound (hopId : Json) (backing : String × StageBundle) : Prop where
  hopId_eq : hopId = .str backing.1
  supplied : bundles.lookup backing.1 = some backing.2
  own : OwnRecord verify runId backing.1 backing.2
  cites : Cites index backing.1 (bundleDigest sha256 backing.2)
  keyed : ∃ key, innerKeyOf backing.2 = .ok key

/-- Two bundles hold one record: by the digest, or by the identity inside. -/
def SameRecord (b b' : StageBundle) : Prop :=
  bundleDigest sha256 b = bundleDigest sha256 b' ∨
    ∃ key, innerKeyOf b = .ok (some key) ∧ innerKeyOf b' = .ok (some key)

/-- A hop with its stage, where nothing is wrong with what the stage says it disclosed. -/
inductive Judged (hopId : Json) : Option (String × StageBundle) → StageVerdict → Prop
  | noEntry {stage : StageVerdict} (hindex : NoEntry index hopId) (hstatus : stage.status = .mismatch)
      (hclaimed : stage.present = false) : Judged hopId none stage
  | hole {stage : StageVerdict} (hindex : Hole index hopId) (hstatus : stage.status = .gap)
      (hclaimed : stage.present = false) : Judged hopId none stage
  | bound {stage : StageVerdict} {backing : String × StageBundle}
      (hbound : Bound sha256 verify runId index bundles hopId backing)
      (hstatus : stage.status = .green) (hclaimed : stage.present = true) :
      Judged hopId (some backing) stage

/-- Nothing is wrong with what the stage of the hop says it disclosed. -/
inductive Accounted (hopId : Json) : Option (String × StageBundle) → Prop
  | noEntry (hindex : NoEntry index hopId) : Accounted hopId none
  | hole (hindex : Hole index hopId) : Accounted hopId none
  | bound {backing : String × StageBundle}
      (hbound : Bound sha256 verify runId index bundles hopId backing) :
      Accounted hopId (some backing)

theorem Accounted.keyed {hopId : Json} {backing : String × StageBundle}
    (h : Accounted sha256 verify runId index bundles hopId (some backing)) :
    ∃ key, innerKeyOf backing.2 = .ok key := by
  cases h with
  | bound hbound => exact hbound.keyed

/-- The bundles of the stages that are bound. -/
def boundBundles (backing : List (Option (String × StageBundle))) : List StageBundle :=
  backing.filterMap fun b => b.map Prod.snd

/-- The bundles hold different records, none of which is already filed. -/
structure Unshared (done new : List StageBundle) : Prop where
  within : new.Pairwise fun b b' => ¬SameRecord sha256 b b'
  across : ∀ b ∈ done, ∀ b' ∈ new, ¬SameRecord sha256 b b'

/-- The ledgers hold these records and no others. -/
structure Remembers (seen : Seen) (done : List StageBundle) : Prop where
  digests : ∀ digest, seen.digests.lookup digest = none ↔ ∀ b ∈ done, bundleDigest sha256 b ≠ digest
  innerIds : ∀ key, seen.innerIds.lookup key = none ↔ ∀ b ∈ done, innerKeyOf b ≠ .ok (some key)

theorem remembers_nothing : Remembers sha256 ⟨∅, ∅⟩ [] where
  digests := by simp
  innerIds := by simp

end

section

variable {sha256 : Sha256} {verify : Json → Py VerifyResult} {runId : Json} {index : Dict Key Json}
  {bundles : Dict String StageBundle} {seen seen' : Seen} {done : List StageBundle}

theorem Remembers.reuse_iff (h : Remembers sha256 seen done) {bundle : StageBundle} :
    seen.reuse (bundleDigest sha256 bundle) (innerRecordIdentity bundle.stageCapsule).1
        (innerRecordIdentity bundle.stageCapsule).2 = .ok none ↔
      (∃ key, innerKeyOf bundle = .ok key) ∧ ∀ b ∈ done, ¬SameRecord sha256 b bundle := by
  rw [Seen.reuse_eq_none_iff, h.digests]
  change (_ ∧ ∃ key, innerKeyOf bundle = .ok key ∧ _) ↔ _
  constructor
  · rintro ⟨hdigests, key, hkey, hunseen⟩
    refine ⟨⟨key, hkey⟩, ?_⟩
    rintro b hb (hsame | ⟨shared, hshared, hshared'⟩)
    · exact hdigests b hb hsame
    · obtain rfl := Except.ok.inj (hkey.symm.trans hshared')
      exact (h.innerIds shared).mp hunseen b hb hshared
  · rintro ⟨⟨key, hkey⟩, hdistinct⟩
    refine ⟨fun b hb hsame => hdistinct b hb (Or.inl hsame), key, hkey, ?_⟩
    cases key with
    | none => rfl
    | some key =>
        apply (h.innerIds key).mpr
        intro b hb hsame
        exact hdistinct b hb (Or.inr ⟨key, hsame, hkey⟩)

/-- A record that is filed with a green stage. -/
theorem Remembers.record (h : Remembers sha256 seen done) {hop : String} {bundle : StageBundle}
    (hrecord : seen.record sha256 hop bundle = .ok seen') :
    Remembers sha256 seen' (done ++ [bundle]) := by
  obtain ⟨key, hkey, hrecord⟩ := Py.bind_eq_ok.mp hrecord
  obtain rfl := Except.ok.inj hrecord
  have hkey : innerKeyOf bundle = .ok key := hkey
  constructor
  · intro digest
    rw [List.forall_mem_append, List.forall_mem_singleton, ← h.digests]
    by_cases hsame : digest = bundleDigest sha256 bundle
    · simp [hsame]
    · rw [AList.lookup_insert_ne hsame]
      simp [Ne.symm hsame]
  · intro other
    rw [List.forall_mem_append, List.forall_mem_singleton, ← h.innerIds, hkey]
    cases key with
    | none => simp
    | some key =>
        by_cases hsame : other = key
        · simp [hsame]
        · change (seen.innerIds.insert key hop).lookup other = none ↔ _
          rw [AList.lookup_insert_ne hsame]
          simp [Ne.symm hsame]

theorem Seen.record_returns (seen : Seen) (hop : String) {bundle : StageBundle}
    (h : ∃ key, innerKeyOf bundle = .ok key) : ∃ seen', seen.record sha256 hop bundle = .ok seen' := by
  obtain ⟨key, hkey⟩ := h
  have hkey : innerKey (innerRecordIdentity bundle.stageCapsule).1
      (innerRecordIdentity bundle.stageCapsule).2 = .ok key := hkey
  unfold Seen.record
  simp only [hkey]
  exact ⟨_, rfl⟩

theorem present_eq_false {stage : StageVerdict} (h : stage.claimedBundle ≠ .str "present") :
    stage.present = false := by
  rw [← Bool.not_eq_true]
  exact fun hpresent => h (Json.eq_str_of_pyEq hpresent)

theorem present_eq_true {stage : StageVerdict} (h : stage.claimedBundle = .str "present") :
    stage.present = true := by
  rw [StageVerdict.present, h]
  simp [Json.pyEq]

/-- All that a turn can do: where it does not leave a present stage that is not green, the hop is
accounted for. -/
theorem judgeStage_inversion {topo : Json × Json} {stage : StageVerdict}
    (h : judgeStage sha256 verify runId index bundles seen topo = .ok (stage, seen')) :
    (stage.present = true ∧ stage.status ≠ .green) ∨
      (Judged sha256 verify runId index bundles topo.2 none stage ∧ seen' = seen) ∨
      ∃ backing, Judged sha256 verify runId index bundles topo.2 (some backing) stage ∧
        seen.reuse (bundleDigest sha256 backing.2)
          (innerRecordIdentity backing.2.stageCapsule).1
          (innerRecordIdentity backing.2.stageCapsule).2 = .ok none ∧
        seen.record sha256 backing.1 backing.2 = .ok seen' := by
  obtain ⟨seq, hopId⟩ := topo
  obtain ⟨key, hkey, h⟩ := Py.bind_eq_ok.mp h
  split at h
  next hmissing =>
      obtain ⟨rfl, rfl⟩ := Prod.mk.inj (Except.ok.inj h)
      exact Or.inr (Or.inl ⟨.noEntry ⟨key, hkey, hmissing⟩ rfl
        (present_eq_false fun hclaimed => absurd (Json.str.inj hclaimed) (by decide)), rfl⟩)
  next entry hentry =>
      obtain ⟨claimed, hclaimed, h⟩ := Py.bind_eq_ok.mp h
      split at h
      next habsent =>
          obtain ⟨rfl, rfl⟩ := Prod.mk.inj (Except.ok.inj h)
          have hne : claimed ≠ .str "present" := by
            rintro rfl
            simp [Json.pyEq] at habsent
          exact Or.inr (Or.inl ⟨.hole ⟨key, entry, claimed, hkey, hentry, hclaimed, hne⟩ rfl
            (present_eq_false hne), rfl⟩)
      next hpresent =>
          obtain rfl := Json.eq_str_of_pyEq (by simpa using hpresent)
          obtain ⟨ref, href, h⟩ := Py.bind_eq_ok.mp h
          obtain ⟨committed, hcommitted, h⟩ := Py.bind_eq_ok.mp h
          split at h
          next =>
              obtain ⟨rfl, rfl⟩ := Prod.mk.inj (Except.ok.inj h)
              exact Or.inl ⟨present_eq_true rfl, StageStatus.noConfusion⟩
          next hop bundle hdisclosed =>
              obtain ⟨rfl, hbundle⟩ := disclosedTo_eq_some hdisclosed
              obtain ⟨detail, hdetail, h⟩ := Py.bind_eq_ok.mp h
              cases detail with
              | some detail =>
                obtain ⟨rfl, rfl⟩ := Prod.mk.inj (Except.ok.inj h)
                exact Or.inl ⟨present_eq_true rfl, StageStatus.noConfusion⟩
              | none =>
                obtain ⟨after, hafter, h⟩ := Py.bind_eq_ok.mp h
                obtain ⟨rfl, rfl⟩ := Prod.mk.inj (Except.ok.inj h)
                obtain ⟨rfl, hown, hreuse⟩ := violation_eq_none_iff.mp hdetail
                obtain rfl := Except.ok.inj hkey
                obtain ⟨-, inner, hinner, -⟩ := Seen.reuse_eq_none_iff.mp hreuse
                refine Or.inr (Or.inr ⟨(hop, bundle), .bound ⟨rfl, hbundle, hown, ?_, inner, hinner⟩
                  rfl (present_eq_true rfl), hreuse, hafter⟩)
                exact ⟨entry, ref, hentry, hclaimed, href, hcommitted⟩

theorem judgeStage_noEntry {seq hopId : Json} {key : Key} (hkey : hopId.key = .ok key)
    (hmissing : index.lookup key = none) :
    judgeStage sha256 verify runId index bundles seen (seq, hopId) =
      .ok (⟨hopId, seq, .str "missing", .mismatch, "no stages[] entry for this hop"⟩, seen) := by
  simp only [judgeStage, hkey, Py.ok_bind, hmissing]
  rfl

theorem judgeStage_hole {seq hopId entry claimed : Json} {key : Key} (hkey : hopId.key = .ok key)
    (hentry : index.lookup key = some entry) (hclaimed : entry.item "bundle" = .ok claimed)
    (hne : claimed ≠ .str "present") :
    judgeStage sha256 verify runId index bundles seen (seq, hopId) =
      .ok (⟨hopId, seq, claimed, .gap, "stage disclosed nothing (" ++ claimed.pyStr ++ ")"⟩,
        seen) := by
  have hpresent : claimed.pyEq (.str "present") = false := by
    rw [← Bool.not_eq_true]
    exact fun hequal => hne (Json.eq_str_of_pyEq hequal)
  simp only [judgeStage, hkey, Py.ok_bind, hentry, hclaimed, hpresent]
  rfl

theorem judgeStage_bound {seq hopId : Json} {backing : String × StageBundle}
    (h : Bound sha256 verify runId index bundles hopId backing)
    (hreuse : seen.reuse (bundleDigest sha256 backing.2)
      (innerRecordIdentity backing.2.stageCapsule).1
      (innerRecordIdentity backing.2.stageCapsule).2 = .ok none)
    (hrecord : seen.record sha256 backing.1 backing.2 = .ok seen') :
    judgeStage sha256 verify runId index bundles seen (seq, hopId) =
      .ok (⟨hopId, seq, .str "present", .green, greenDetail sha256 backing.1 backing.2⟩, seen') := by
  obtain ⟨hop, bundle⟩ := backing
  obtain ⟨rfl, hsupplied, hown, ⟨entry, ref, hentry, hclaimed, href, hcommitted⟩, -⟩ := h
  have hpresent : (Json.str "present").pyEq (.str "present") = true := by simp [Json.pyEq]
  have hdisclosed : disclosedTo bundles (.str hop) = some (hop, bundle) := by
    rw [disclosedTo, hsupplied, Option.map_some]
  have hviolation : violation sha256 verify runId (.str (bundleDigest sha256 bundle)) seen hop bundle =
      .ok none := violation_eq_none_iff.mpr ⟨rfl, hown, hreuse⟩
  simp only [judgeStage, Json.key_str, Py.ok_bind, hentry, hclaimed, hpresent, href, hcommitted,
    hdisclosed, hviolation, hrecord]
  rfl

/-- A hop that is accounted for is judged so, where its record is not filed yet. -/
theorem judgeStage_of_accounted {topo : Json × Json} {backing : Option (String × StageBundle)}
    (h : Accounted sha256 verify runId index bundles topo.2 backing)
    (hreuse : ∀ b, backing = some b → seen.reuse (bundleDigest sha256 b.2)
      (innerRecordIdentity b.2.stageCapsule).1 (innerRecordIdentity b.2.stageCapsule).2 = .ok none) :
    ∃ stage seen', judgeStage sha256 verify runId index bundles seen topo = .ok (stage, seen') ∧
      Judged sha256 verify runId index bundles topo.2 backing stage ∧
      (backing = none ∧ seen' = seen ∨
        ∃ b, backing = some b ∧ seen.record sha256 b.1 b.2 = .ok seen') := by
  obtain ⟨seq, hopId⟩ := topo
  cases h with
  | noEntry hindex =>
      obtain ⟨key, hkey, hmissing⟩ := hindex
      refine ⟨_, seen, judgeStage_noEntry hkey hmissing, ?_, Or.inl ⟨rfl, rfl⟩⟩
      apply Judged.noEntry ⟨key, hkey, hmissing⟩ rfl
      exact present_eq_false fun hclaimed => absurd (Json.str.inj hclaimed) (by decide)
  | hole hindex =>
      obtain ⟨key, entry, claimed, hkey, hentry, hclaimed, hne⟩ := hindex
      refine ⟨_, seen, judgeStage_hole hkey hentry hclaimed hne, ?_, Or.inl ⟨rfl, rfl⟩⟩
      exact .hole ⟨key, entry, claimed, hkey, hentry, hclaimed, hne⟩ rfl (present_eq_false hne)
  | bound hbound =>
      rename_i b
      obtain ⟨after, hafter⟩ := seen.record_returns b.1 hbound.keyed
      refine ⟨_, after, judgeStage_bound hbound (hreuse b rfl) hafter, ?_, Or.inr ⟨b, rfl, hafter⟩⟩
      exact .bound hbound rfl (present_eq_true rfl)

namespace Judged

variable {hopId : Json} {backing : Option (String × StageBundle)} {stage : StageVerdict}

theorem green_iff (h : Judged sha256 verify runId index bundles hopId backing stage) :
    stage.present = true ↔ stage.status = .green := by
  cases h with
  | noEntry _ hstatus hclaimed => simp [hstatus, hclaimed]
  | hole _ hstatus hclaimed => simp [hstatus, hclaimed]
  | bound _ hstatus hclaimed => simp [hstatus, hclaimed]

theorem present_iff (h : Judged sha256 verify runId index bundles hopId backing stage) :
    stage.present = true ↔ backing.isSome = true := by
  cases h with
  | noEntry _ _ hclaimed => simp [hclaimed]
  | hole _ _ hclaimed => simp [hclaimed]
  | bound _ _ hclaimed => simp [hclaimed]

theorem accounted (h : Judged sha256 verify runId index bundles hopId backing stage) :
    Accounted sha256 verify runId index bundles hopId backing := by
  cases h with
  | noEntry hindex => exact .noEntry hindex
  | hole hindex => exact .hole hindex
  | bound hbound => exact .bound hbound

theorem mismatch_iff (h : Judged sha256 verify runId index bundles hopId backing stage) :
    stage.status = .mismatch ↔ NoEntry index hopId := by
  cases h with
  | noEntry hindex hstatus => simp [hstatus, hindex]
  | hole hindex hstatus =>
      obtain ⟨key, entry, claimed, hkey, hentry, -⟩ := hindex
      apply iff_of_false (by simp [hstatus])
      rintro ⟨key', hkey', hmissing⟩
      obtain rfl := Except.ok.inj (hkey.symm.trans hkey')
      cases hentry.symm.trans hmissing
  | bound hbound hstatus =>
      obtain ⟨entry, ref, hentry, -⟩ := hbound.cites
      apply iff_of_false (by simp [hstatus])
      rintro ⟨key', hkey', hmissing⟩
      rw [hbound.hopId_eq, Json.key_str] at hkey'
      obtain rfl := Except.ok.inj hkey'
      cases hentry.symm.trans hmissing

end Judged

/-! ## All stages -/

theorem Unshared.nil_new (sha256 : Sha256) (done : List StageBundle) : Unshared sha256 done [] where
  within := .nil
  across := by simp

theorem distinct_cons_iff {bundle : StageBundle} {new : List StageBundle} :
    Unshared sha256 done (bundle :: new) ↔
      (∀ b ∈ done, ¬SameRecord sha256 b bundle) ∧ Unshared sha256 (done ++ [bundle]) new := by
  constructor
  · intro h
    obtain ⟨hhead, htail⟩ := List.pairwise_cons.mp h.within
    refine ⟨fun b hb => h.across b hb bundle List.mem_cons_self, htail, ?_⟩
    intro b hb b' hb'
    rcases List.mem_append.mp hb with hb | hb
    · exact h.across b hb b' (List.mem_cons_of_mem bundle hb')
    · obtain rfl := List.mem_singleton.mp hb
      exact hhead b' hb'
  · rintro ⟨hhead, htail⟩
    constructor
    · apply List.pairwise_cons.mpr
      exact ⟨fun b' hb' ↦ htail.across bundle (List.mem_append_right done List.mem_cons_self) b' hb',
        htail.within⟩
    · intro b hb b' hb'
      rcases List.mem_cons.mp hb' with rfl | hb'
      · exact hhead b hb
      · exact htail.across b (List.mem_append_left _ hb) b' hb'

theorem present_of_green {topology : List (Json × Json)} {stages : List StageVerdict}
    (h : judgeStages sha256 verify runId index bundles seen topology = .ok stages) :
    ∀ s ∈ stages, s.status = .green → s.present = true := by
  induction topology generalizing seen stages with
  | nil =>
      obtain rfl := Except.ok.inj h
      simp
  | cons topo topology ih =>
      obtain ⟨⟨stage, after⟩, hstage, h⟩ := Py.bind_eq_ok.mp h
      obtain ⟨rest, hrest, h⟩ := Py.bind_eq_ok.mp h
      obtain rfl := Except.ok.inj h
      rw [List.forall_mem_cons]
      refine ⟨?_, ih hrest⟩
      rcases judgeStage_inversion hstage with ⟨hpresent, -⟩ | ⟨hjudged, -⟩ | ⟨b, hjudged, -⟩
      · exact fun _ => hpresent
      · exact hjudged.green_iff.mpr
      · exact hjudged.green_iff.mpr

/-- Where every present stage is green, every hop is accounted for, on different records. -/
theorem judged_of_judgeStages {topology : List (Json × Json)} {stages : List StageVerdict}
    (hremembers : Remembers sha256 seen done)
    (h : judgeStages sha256 verify runId index bundles seen topology = .ok stages)
    (hgreen : ∀ s ∈ stages, s.present = true → s.status = .green) :
    ∃ judged : List (Option (String × StageBundle) × StageVerdict), judged.map Prod.snd = stages ∧
      List.Forall₂ (fun topo j => Judged sha256 verify runId index bundles topo.2 j.1 j.2)
        topology judged ∧
      Unshared sha256 done (boundBundles (judged.map Prod.fst)) := by
  induction topology generalizing seen done stages with
  | nil =>
      obtain rfl := Except.ok.inj h
      exact ⟨[], rfl, .nil, .nil_new sha256 done⟩
  | cons topo topology ih =>
      obtain ⟨⟨stage, after⟩, hstage, h⟩ := Py.bind_eq_ok.mp h
      obtain ⟨rest, hrest, h⟩ := Py.bind_eq_ok.mp h
      obtain rfl := Except.ok.inj h
      rw [List.forall_mem_cons] at hgreen
      rcases judgeStage_inversion hstage with ⟨hpresent, hstatus⟩ | ⟨hjudged, rfl⟩ |
        ⟨b, hjudged, hreuse, hrecord⟩
      · exact absurd (hgreen.1 hpresent) hstatus
      · obtain ⟨judged, rfl, hall, hdistinct⟩ := ih hremembers hrest hgreen.2
        exact ⟨(none, stage) :: judged, rfl, .cons hjudged hall, hdistinct⟩
      · obtain ⟨judged, rfl, hall, hdistinct⟩ := ih (hremembers.record hrecord) hrest hgreen.2
        refine ⟨(some b, stage) :: judged, rfl, .cons hjudged hall, ?_⟩
        apply distinct_cons_iff.mpr
        exact ⟨(hremembers.reuse_iff.mp hreuse).2, hdistinct⟩

/-- Hops that are accounted for on different records are all judged so. -/
theorem judgeStages_of_accounted {topology : List (Json × Json)}
    {backing : List (Option (String × StageBundle))} (hremembers : Remembers sha256 seen done)
    (h : List.Forall₂ (fun topo b => Accounted sha256 verify runId index bundles topo.2 b)
      topology backing)
    (hdistinct : Unshared sha256 done (boundBundles backing)) :
    ∃ judged : List (Option (String × StageBundle) × StageVerdict), judged.map Prod.fst = backing ∧
      judgeStages sha256 verify runId index bundles seen topology = .ok (judged.map Prod.snd) ∧
      List.Forall₂ (fun topo j => Judged sha256 verify runId index bundles topo.2 j.1 j.2)
        topology judged := by
  induction h generalizing seen done with
  | nil => exact ⟨[], rfl, rfl, .nil⟩
  | cons hhead htail ih =>
      rename_i topo b topology backing
      have hnew : ∀ c, b = some c →
          (∀ d ∈ done, ¬SameRecord sha256 d c.2) ∧
            Unshared sha256 (done ++ [c.2]) (boundBundles backing) := by
        rintro c rfl
        exact distinct_cons_iff.mp hdistinct
      obtain ⟨stage, after, hstage, hjudged, hafter⟩ := judgeStage_of_accounted hhead
        fun c hc => hremembers.reuse_iff.mpr ⟨(hc ▸ hhead).keyed, (hnew c hc).1⟩
      obtain ⟨judged, rfl, hrest, hall⟩ : ∃ judged : List (Option (String × StageBundle) × StageVerdict),
          judged.map Prod.fst = backing ∧
          judgeStages sha256 verify runId index bundles after topology = .ok (judged.map Prod.snd) ∧
          List.Forall₂ (fun topo j => Judged sha256 verify runId index bundles topo.2 j.1 j.2)
            topology judged := by
        rcases hafter with ⟨rfl, rfl⟩ | ⟨c, hc, hrecord⟩
        · exact ih hremembers hdistinct
        · exact ih (hremembers.record hrecord) (hnew c hc).2
      refine ⟨(b, stage) :: judged, rfl, ?_, .cons hjudged hall⟩
      simp only [judgeStages, hstage, Py.ok_bind, hrest]
      rfl

/-- A stage says which hop it is about. -/
theorem judgeStage_echo {topo : Json × Json} {stage : StageVerdict}
    (h : judgeStage sha256 verify runId index bundles seen topo = .ok (stage, seen')) :
    stage.seq = topo.1 ∧ stage.hopId = topo.2 := by
  obtain ⟨seq, hopId⟩ := topo
  obtain ⟨key, -, h⟩ := Py.bind_eq_ok.mp h
  split at h
  · obtain ⟨rfl, -⟩ := Prod.mk.inj (Except.ok.inj h)
    exact ⟨rfl, rfl⟩
  obtain ⟨claimed, -, h⟩ := Py.bind_eq_ok.mp h
  split at h
  · obtain ⟨rfl, -⟩ := Prod.mk.inj (Except.ok.inj h)
    exact ⟨rfl, rfl⟩
  obtain ⟨ref, -, h⟩ := Py.bind_eq_ok.mp h
  obtain ⟨committed, -, h⟩ := Py.bind_eq_ok.mp h
  split at h
  · obtain ⟨rfl, -⟩ := Prod.mk.inj (Except.ok.inj h)
    exact ⟨rfl, rfl⟩
  obtain ⟨detail, -, h⟩ := Py.bind_eq_ok.mp h
  cases detail with
  | some detail =>
      obtain ⟨rfl, -⟩ := Prod.mk.inj (Except.ok.inj h)
      exact ⟨rfl, rfl⟩
  | none =>
      obtain ⟨after, -, h⟩ := Py.bind_eq_ok.mp h
      obtain ⟨rfl, -⟩ := Prod.mk.inj (Except.ok.inj h)
      exact ⟨rfl, rfl⟩

theorem judgeStages_echo {topology : List (Json × Json)} {stages : List StageVerdict}
    (h : judgeStages sha256 verify runId index bundles seen topology = .ok stages) :
    stages.map (fun s => (s.seq, s.hopId)) = topology := by
  induction topology generalizing seen stages with
  | nil =>
      obtain rfl := Except.ok.inj h
      rfl
  | cons topo topology ih =>
      obtain ⟨⟨stage, after⟩, hstage, h⟩ := Py.bind_eq_ok.mp h
      obtain ⟨rest, hrest, h⟩ := Py.bind_eq_ok.mp h
      obtain rfl := Except.ok.inj h
      obtain ⟨hseq, hhop⟩ := judgeStage_echo hstage
      rw [List.map_cons, ih hrest, hseq, hhop]

section

variable {topology : List (Json × Json)}
  {judged : List (Option (String × StageBundle) × StageVerdict)}
  (h : List.Forall₂ (fun topo j => Judged sha256 verify runId index bundles topo.2 j.1 j.2)
    topology judged)
include h

theorem green_iff_present : ∀ s ∈ judged.map Prod.snd, s.present = true ↔ s.status = .green := by
  induction h with
  | nil => simp
  | cons hhead htail ih =>
      rw [List.map_cons, List.forall_mem_cons]
      exact ⟨hhead.green_iff, ih⟩

theorem mismatch_iff_noEntry :
    (∀ s ∈ judged.map Prod.snd, s.status ≠ .mismatch) ↔ ∀ topo ∈ topology, ¬NoEntry index topo.2 := by
  induction h with
  | nil => simp
  | cons hhead htail ih =>
      rw [List.map_cons, List.forall_mem_cons, List.forall_mem_cons, ih, ne_eq, hhead.mismatch_iff]

theorem present_iff_bound :
    (∃ s ∈ judged.map Prod.snd, s.present = true) ↔ boundBundles (judged.map Prod.fst) ≠ [] := by
  induction h with
  | nil => simp [boundBundles]
  | cons hhead htail ih =>
      rename_i topo j topology judged
      rw [List.map_cons, List.exists_mem_cons_iff, ih, hhead.present_iff, List.map_cons]
      cases hbacking : j.1 <;> simp [boundBundles]

theorem accounted_of_judged : List.Forall₂
    (fun topo b => Accounted sha256 verify runId index bundles topo.2 b) topology
    (judged.map Prod.fst) := by
  induction h with
  | nil => exact .nil
  | cons hhead htail ih => exact .cons hhead.accounted ih

end

end

/-! ## The report -/

section

variable {T : GradeTools} {sha256 : Sha256} {verify : Json → Py VerifyResult} {runId : Json}
  {index : Dict Key Json} {bundles : Dict String StageBundle} {topology : List (Json × Json)}
  {backing : List (Option (String × StageBundle))}

/-- What is printed can be printed: the hops are texts, they are ordered by `seq` once more, and
each bound bundle is graded. -/
structure Printable (T : GradeTools) (topology : List (Json × Json))
    (backing : List (Option (String × StageBundle))) : Prop where
  hops : ∀ topo ∈ topology, ∃ hop, topo.2 = .str hop
  sorts : ∃ sorted, sortedByKey topology = .ok sorted
  graded : ∀ b ∈ boundBundles backing, ∃ lines, grades T b = .ok lines

theorem toStr_returns_iff {j : Json} : (∃ s, j.toStr = .ok s) ↔ ∃ s, j = .str s := by
  cases j <;> simp [Json.toStr]

theorem map_returns {α β : Type} {f : α → β} {x : Py α} :
    (∃ b, x.map f = .ok b) ↔ ∃ a, x = .ok a := by
  cases x <;> simp [Except.map]

/-- A sort reads nothing but the keys. -/
theorem sorts_iff {α β : Type} {as : List (Json × α)} {bs : List (Json × β)}
    (h : as.map Prod.fst = bs.map Prod.fst) :
    (∃ sorted, sortedByKey as = .ok sorted) ↔ ∃ sorted, sortedByKey bs = .ok sorted := by
  have hkeys : as.map (fun a => (a.1, ())) = bs.map (fun b => (b.1, ())) := by
    have hpair := congrArg (List.map fun key : Json => (key, ())) h
    rwa [List.map_map, List.map_map] at hpair
  rw [← map_returns, ← sortedByKey_map (fun _ => ()) as, hkeys,
    sortedByKey_map (fun _ => ()) bs, map_returns]

theorem Judged.stageLines_returns {hopId : Json} {b : Option (String × StageBundle)}
    {stage : StageVerdict} (h : Judged sha256 verify runId index bundles hopId b stage)
    (hecho : stage.hopId = hopId) :
    (∃ lines, stageLines T bundles stage = .ok lines) ↔
      ∀ c, b = some c → ∃ lines, grades T c.2 = .ok lines := by
  cases h with
  | noEntry _ hstatus => simp [stageLines, hstatus]
  | hole _ hstatus => simp [stageLines, hstatus]
  | bound hbound hstatus hclaimed =>
      rename_i c
      have hdisclosed : disclosedTo bundles stage.hopId = some c := by
        rw [hecho, hbound.hopId_eq, disclosedTo, hbound.supplied, Option.map_some]
      simp only [stageLines, hstatus, ne_eq, not_true_eq_false, ite_false, hdisclosed,
        Option.some.injEq, forall_eq']
      constructor
      · rintro ⟨lines, hlines⟩
        obtain ⟨four, hfour, -⟩ := Py.bind_eq_ok.mp hlines
        exact ⟨four, hfour⟩
      · rintro ⟨four, hfour⟩
        rw [hfour]
        exact ⟨_, rfl⟩

theorem stages_printed {judged : List (Option (String × StageBundle) × StageVerdict)}
    (h : List.Forall₂ (fun topo j => Judged sha256 verify runId index bundles topo.2 j.1 j.2)
      topology judged)
    (hecho : (judged.map Prod.snd).map (fun s => (s.seq, s.hopId)) = topology) :
    (∀ s ∈ judged.map Prod.snd, ∃ lines, stageLines T bundles s = .ok lines) ↔
      ∀ b ∈ boundBundles (judged.map Prod.fst), ∃ lines, grades T b = .ok lines := by
  induction h with
  | nil => simp [boundBundles]
  | cons hhead htail ih =>
      rename_i topo j topology judged
      simp only [List.map_cons, List.cons.injEq] at hecho
      rw [List.map_cons, List.forall_mem_cons, ih hecho.2,
        hhead.stageLines_returns (congrArg Prod.snd hecho.1), List.map_cons]
      cases hbacking : j.1 <;> simp [boundBundles]

/-- The report is printed where its parts are. -/
theorem printReport_returns_iff {verdict : ReceiptVerdict}
    {judged : List (Option (String × StageBundle) × StageVerdict)}
    (h : List.Forall₂ (fun topo j => Judged sha256 verify runId index bundles topo.2 j.1 j.2)
      topology judged)
    (hecho : (judged.map Prod.snd).map (fun s => (s.seq, s.hopId)) = topology)
    (hstages : verdict.stages = judged.map Prod.snd)
    (hhops : verdict.orderedHops = topology.map Prod.snd) :
    (∃ lines, printReport T verdict bundles = .ok lines) ↔
      Printable T topology (judged.map Prod.fst) := by
  have horder : (∃ order, verdict.orderedHops.mapM Json.toStr = .ok order) ↔
      ∀ topo ∈ topology, ∃ hop, topo.2 = .str hop := by
    rw [Py.mapM_returns, hhops, List.forall_mem_map]
    simp only [toStr_returns_iff]
  have hsorts : (∃ sorted, sortedByKey (verdict.stages.map fun s => (s.seq, s)) = .ok sorted) ↔
      ∃ sorted, sortedByKey topology = .ok sorted := by
    apply sorts_iff
    rw [hstages, ← hecho]
    simp only [List.map_map]
    rfl
  have hlines : ∀ sorted, sortedByKey (verdict.stages.map fun s => (s.seq, s)) = .ok sorted →
      ((∃ lines, sorted.mapM (fun s => stageLines T bundles s.2) = .ok lines) ↔
        ∀ b ∈ boundBundles (judged.map Prod.fst), ∃ lines, grades T b = .ok lines) := by
    intro sorted hsorted
    rw [← stages_printed h hecho, ← hstages, Py.mapM_returns]
    have hmem := fun s => (sortedByKey_perm hsorted).mem_iff (a := s)
    constructor
    · intro hall s hs
      exact hall (s.seq, s) ((hmem _).mpr (List.mem_map_of_mem hs))
    · intro hall s hs
      obtain ⟨t, ht, rfl⟩ := List.mem_map.mp ((hmem s).mp hs)
      exact hall t ht
  constructor
  · rintro ⟨lines, hprint⟩
    obtain ⟨order, hord, hprint⟩ := Py.bind_eq_ok.mp hprint
    obtain ⟨sorted, hsorted, hprint⟩ := Py.bind_eq_ok.mp hprint
    obtain ⟨each, heach, -⟩ := Py.bind_eq_ok.mp hprint
    exact ⟨horder.mp ⟨order, hord⟩, hsorts.mp ⟨sorted, hsorted⟩, (hlines sorted hsorted).mp ⟨each, heach⟩⟩
  · rintro ⟨htexts, hsorted, hgraded⟩
    obtain ⟨order, hord⟩ := horder.mpr htexts
    obtain ⟨sorted, hsorted⟩ := hsorts.mpr hsorted
    obtain ⟨each, heach⟩ := (hlines sorted hsorted).mpr hgraded
    unfold printReport
    simp only [hord, hsorted, heach, Py.ok_bind]
    exact ⟨_, rfl⟩

end

/-! ## What an all-green exit stands on -/

/-- What the verifier reads of a receipt before it judges a stage. -/
structure Reads (receipt runId : Json) (topology : List (Json × Json)) (index : Dict Key Json)
    (block : Json) (stages : List Json) : Prop where
  block_eq : readReceiptBlock receipt = .ok block
  runId_eq : block.getD "run_id" (.str "") = .ok runId
  topology_eq : orderedTopology block = .ok topology
  stages_eq : blockStages block = .ok stages
  index_eq : stageIndex ∅ stages = .ok index

/-- Every stage that the receipt marks present is bound to its hop by a record of its own, and there
is one. -/
structure AllPresentBound (sha256 : Sha256) (verify : Json → Py VerifyResult) (receipt : Json)
    (bundles : Dict String StageBundle) (topology : List (Json × Json)) (index : Dict Key Json)
    (backing : List (Option (String × StageBundle))) : Prop where
  reads : ∃ block runId stages, Reads receipt runId topology index block stages ∧
    List.Forall₂ (fun topo b ↦ Accounted sha256 verify runId index bundles topo.2 b) topology backing
  distinct : Unshared sha256 [] (boundBundles backing)
  some_bound : boundBundles backing ≠ []

/-- The receipt has an entry for each of its hops. -/
def EveryHopEntered (topology : List (Json × Json)) (index : Dict Key Json) : Prop :=
  ∀ topo ∈ topology, ¬NoEntry index topo.2

/-- There is no receipt-level error but the verification of the receipt itself: each hop that the
receipt orders has an entry in its stages. -/
def EntersItsHops (receipt : Json) : Prop :=
  ∀ block runId topology stages index, Reads receipt runId topology index block stages →
    EveryHopEntered topology index

/-- The verdict, as an all-green exit should stand on it. -/
structure AllGreen (verify : Json → Py VerifyResult) (receipt : Json) (verdict : ReceiptVerdict) :
    Prop where
  verifies : ∃ result, verify receipt = .ok result ∧ result.ok = true
  errors : verdict.errors = []
  some_present : ∃ s ∈ verdict.stages, s.present = true
  all_green : ∀ s ∈ verdict.stages, s.present = true → s.status = .green

section

variable {sha256 : Sha256} {verify : Json → Py VerifyResult} {T : GradeTools} {receipt : Json}
  {bundles : Dict String StageBundle}

/-- A verdict is read off a receipt and the stages that were judged. -/
theorem verify_eq_ok_iff {verdict : ReceiptVerdict} :
    verifyCoordinatorReceipt sha256 verify receipt bundles = .ok verdict ↔
      ∃ result block runId topology stages index verdicts, verify receipt = .ok result ∧
        Reads receipt runId topology index block stages ∧
        judgeStages sha256 verify runId index bundles ⟨∅, ∅⟩ topology = .ok verdicts ∧
        verdict =
          { ok := (if result.ok then [] else ["coordinator receipt capsule failed verification: " ++
                reprTexts result.errors]).isEmpty && verdicts.all fun s => s.status ≠ .mismatch
            runId := runId
            orderedHops := topology.map Prod.snd
            stages := verdicts
            errors := if result.ok then [] else
              ["coordinator receipt capsule failed verification: " ++ reprTexts result.errors] } := by
  constructor
  · intro h
    obtain ⟨result, hresult, h⟩ := Py.bind_eq_ok.mp h
    obtain ⟨block, hblock, h⟩ := Py.bind_eq_ok.mp h
    obtain ⟨runId, hrun, h⟩ := Py.bind_eq_ok.mp h
    obtain ⟨topology, htopology, h⟩ := Py.bind_eq_ok.mp h
    obtain ⟨stages, hstages, h⟩ := Py.bind_eq_ok.mp h
    obtain ⟨index, hindex, h⟩ := Py.bind_eq_ok.mp h
    obtain ⟨verdicts, hverdicts, h⟩ := Py.bind_eq_ok.mp h
    exact ⟨result, block, runId, topology, stages, index, verdicts, hresult,
      ⟨hblock, hrun, htopology, hstages, hindex⟩, hverdicts, (Except.ok.inj h).symm⟩
  · rintro ⟨result, block, runId, topology, stages, index, verdicts, hresult, hreads, hverdicts, rfl⟩
    simp only [verifyCoordinatorReceipt, hresult, hreads.block_eq, hreads.runId_eq,
      hreads.topology_eq, hreads.stages_eq, hreads.index_eq, hverdicts, Py.ok_bind]
    rfl

/-- A verdict on which all present stages are green comes from stages that are all bound, and the
other way round. -/
theorem allGreen_iff {result : VerifyResult} (hresult : verify receipt = .ok result) :
    (∃ verdict, verifyCoordinatorReceipt sha256 verify receipt bundles = .ok verdict ∧
        AllGreen verify receipt verdict) ↔
      result.ok = true ∧ ∃ topology index backing,
        AllPresentBound sha256 verify receipt bundles topology index backing := by
  constructor
  · rintro ⟨verdict, hverdict, hgreen⟩
    obtain ⟨result', block, runId, topology, stages, index, verdicts, hresult', hreads, hverdicts,
      rfl⟩ := verify_eq_ok_iff.mp hverdict
    obtain ⟨result'', hresult'', hok⟩ := hgreen.verifies
    obtain rfl := Except.ok.inj (hresult.symm.trans hresult'')
    obtain ⟨judged, rfl, hjudged, hdistinct⟩ :=
      judged_of_judgeStages (remembers_nothing sha256) hverdicts hgreen.all_green
    exact ⟨hok, topology, index, judged.map Prod.fst,
      ⟨block, runId, stages, hreads, accounted_of_judged hjudged⟩, hdistinct,
      (present_iff_bound hjudged).mp hgreen.some_present⟩
  · rintro ⟨hok, topology, index, backing, ⟨block, runId, stages, hreads, haccounted⟩, hdistinct,
      hbound⟩
    obtain ⟨judged, rfl, hverdicts, hjudged⟩ :=
      judgeStages_of_accounted (remembers_nothing sha256) haccounted hdistinct
    refine ⟨_, verify_eq_ok_iff.mpr ⟨result, block, runId, topology, stages, index, _, hresult,
      hreads, hverdicts, rfl⟩, ⟨result, hresult, hok⟩, ?_, ?_, ?_⟩
    · exact if_pos hok
    · exact (present_iff_bound hjudged).mpr hbound
    · exact fun s hs => ((green_iff_present hjudged) s hs).mp

/-- The command exits with zero where all is bound, every hop has an entry and the report is
printed; the verification of the receipt itself is not asked for. -/
theorem exit_zero_iff {sources : Sources} {args : Args}
    (hgather : gather sources args = .ok (receipt, bundles)) {result : VerifyResult}
    (hresult : verify receipt = .ok result) :
    main sha256 verify T sources args = .ok 0 ↔ ∃ topology index backing,
      AllPresentBound sha256 verify receipt bundles topology index backing ∧
        EveryHopEntered topology index ∧ Printable T topology backing := by
  constructor
  · intro hexit
    obtain ⟨⟨_, _⟩, hgathered, hexit⟩ := Py.bind_eq_ok.mp hexit
    obtain ⟨rfl, rfl⟩ := Prod.mk.inj (Except.ok.inj (hgather.symm.trans hgathered))
    obtain ⟨verdict, hverdict, hexit⟩ := Py.bind_eq_ok.mp hexit
    obtain ⟨lines, hprint, hexit⟩ := Py.bind_eq_ok.mp hexit
    obtain ⟨hmismatch, hpresent, hle⟩ :=
      (summarize_zero_iff verdict).mp (Except.ok.inj hexit)
    obtain ⟨result', block, runId, topology, stages, index, verdicts, hresult', hreads, hverdicts,
      rfl⟩ := verify_eq_ok_iff.mp hverdict
    have hgreen := (countP_le_iff_of_imp fun s hs hstatus =>
      present_of_green hverdicts s hs (of_decide_eq_true hstatus)).mp hle
    obtain ⟨judged, rfl, hjudged, hdistinct⟩ :=
      judged_of_judgeStages (remembers_nothing sha256) hverdicts
        fun s hs hspresent => of_decide_eq_true (hgreen s hs hspresent)
    refine ⟨topology, index, judged.map Prod.fst,
      ⟨⟨block, runId, stages, hreads, accounted_of_judged hjudged⟩, hdistinct, ?_⟩, ?_, ?_⟩
    · apply (present_iff_bound hjudged).mp
      exact List.countP_pos_iff.mp hpresent
    · apply (mismatch_iff_noEntry hjudged).mp
      intro s hs hstatus
      have hnone := List.countP_eq_zero.mp hmismatch s hs
      exact hnone (decide_eq_true hstatus)
    · refine (printReport_returns_iff hjudged (judgeStages_echo hverdicts) ?_ ?_).mp ⟨lines, hprint⟩
      · rfl
      · rfl
  · rintro ⟨topology, index, backing, ⟨⟨block, runId, stages, hreads, haccounted⟩, hdistinct,
      hbound⟩, hentered, hprintable⟩
    obtain ⟨judged, rfl, hverdicts, hjudged⟩ :=
      judgeStages_of_accounted (remembers_nothing sha256) haccounted hdistinct
    obtain ⟨verdict, hverdict, hstages, hhops⟩ : ∃ verdict,
        verifyCoordinatorReceipt sha256 verify receipt bundles = .ok verdict ∧
        verdict.stages = judged.map Prod.snd ∧ verdict.orderedHops = topology.map Prod.snd :=
      ⟨_, verify_eq_ok_iff.mpr ⟨result, block, runId, topology, stages, index, _, hresult, hreads,
        hverdicts, rfl⟩, rfl, rfl⟩
    obtain ⟨lines, hprint⟩ :=
      (printReport_returns_iff hjudged (judgeStages_echo hverdicts) hstages hhops).mpr hprintable
    unfold main
    simp only [hgather, hverdict, Py.ok_bind]
    rw [hprint]
    apply congrArg Except.ok
    apply (summarize_zero_iff verdict).mpr
    rw [ReceiptVerdict.mismatchCount, ReceiptVerdict.presentCount, ReceiptVerdict.greenCount, hstages]
    refine ⟨?_, ?_, ?_⟩
    · apply List.countP_eq_zero.mpr
      intro s hs hstatus
      exact (mismatch_iff_noEntry hjudged).mpr hentered s hs (of_decide_eq_true hstatus)
    · apply List.countP_pos_iff.mpr
      exact (present_iff_bound hjudged).mpr hbound
    · apply List.countP_mono_left
      intro s hs hpresent
      exact decide_eq_true ((green_iff_present hjudged s hs).mp hpresent)

theorem Reads.unique {runId runId' block block' : Json} {topology topology' : List (Json × Json)}
    {index index' : Dict Key Json} {stages stages' : List Json}
    (h : Reads receipt runId topology index block stages)
    (h' : Reads receipt runId' topology' index' block' stages') :
    runId = runId' ∧ topology = topology' ∧ index = index' := by
  obtain rfl := Except.ok.inj (h.block_eq.symm.trans h'.block_eq)
  obtain rfl := Except.ok.inj (h.stages_eq.symm.trans h'.stages_eq)
  exact ⟨Except.ok.inj (h.runId_eq.symm.trans h'.runId_eq),
    Except.ok.inj (h.topology_eq.symm.trans h'.topology_eq),
    Except.ok.inj (h.index_eq.symm.trans h'.index_eq)⟩

theorem Accounted.unique {runId hopId : Json} {index : Dict Key Json}
    {b b' : Option (String × StageBundle)}
    (h : Accounted sha256 verify runId index bundles hopId b)
    (h' : Accounted sha256 verify runId index bundles hopId b') : b = b' := by
  have hexclusive : ∀ {c : String × StageBundle}, Bound sha256 verify runId index bundles hopId c →
      ¬NoEntry index hopId ∧ ¬Hole index hopId := by
    intro c hc
    obtain ⟨entry, ref, hentry, hclaimed, -⟩ := hc.cites
    obtain rfl := hc.hopId_eq
    constructor
    · rintro ⟨key, hkey, hmissing⟩
      obtain rfl := Except.ok.inj hkey
      cases hentry.symm.trans hmissing
    · rintro ⟨key, entry', claimed, hkey, hentry', hclaimed', hne⟩
      obtain rfl := Except.ok.inj hkey
      obtain rfl := Option.some.inj (hentry.symm.trans hentry')
      exact hne (Except.ok.inj (hclaimed'.symm.trans hclaimed))
  cases h with
  | noEntry hindex =>
      cases h' with
      | noEntry => rfl
      | hole => rfl
      | bound hbound => exact absurd hindex (hexclusive hbound).1
  | hole hindex =>
      cases h' with
      | noEntry => rfl
      | hole => rfl
      | bound hbound => exact absurd hindex (hexclusive hbound).2
  | bound hbound =>
      cases h' with
      | noEntry hindex => exact absurd hindex (hexclusive hbound).1
      | hole hindex => exact absurd hindex (hexclusive hbound).2
      | bound hbound' =>
        have hhop := Json.str.inj (hbound.hopId_eq.symm.trans hbound'.hopId_eq)
        have hbundle := hbound.supplied.symm.trans (hhop ▸ hbound'.supplied)
        exact congrArg some (Prod.ext hhop (Option.some.inj hbundle))

theorem AllPresentBound.unique {topology topology' : List (Json × Json)} {index index' : Dict Key Json}
    {backing backing' : List (Option (String × StageBundle))}
    (h : AllPresentBound sha256 verify receipt bundles topology index backing)
    (h' : AllPresentBound sha256 verify receipt bundles topology' index' backing') :
    topology = topology' ∧ index = index' ∧ backing = backing' := by
  obtain ⟨block, runId, stages, hreads, haccounted⟩ := h.reads
  obtain ⟨block', runId', stages', hreads', haccounted'⟩ := h'.reads
  obtain ⟨rfl, rfl, rfl⟩ := hreads.unique hreads'
  refine ⟨rfl, rfl, ?_⟩
  clear h h' hreads hreads'
  induction haccounted generalizing backing' with
  | nil =>
      cases haccounted'
      rfl
  | cons hhead htail ih =>
      cases haccounted' with
      | cons hhead' htail' => rw [hhead.unique hhead', ih htail']

/-- The two ways in which the exit code and the verdict part: the receipt does not verify and the
report is green all the same, or the report on a good receipt cannot be printed. -/
def ExitFollowsReceipt (sha256 : Sha256) (verify : Json → Py VerifyResult) (T : GradeTools)
    (receipt : Json) (bundles : Dict String StageBundle) : Prop :=
  ∀ result topology index backing, verify receipt = .ok result →
    AllPresentBound sha256 verify receipt bundles topology index backing →
    EveryHopEntered topology index → (result.ok = true ↔ Printable T topology backing)

/-- A good receipt with all present stages bound has an entry for each of its hops. -/
def GoodReceiptsEnterHops (sha256 : Sha256) (verify : Json → Py VerifyResult) (receipt : Json)
    (bundles : Dict String StageBundle) : Prop :=
  ∀ result topology index backing, verify receipt = .ok result → result.ok = true →
    AllPresentBound sha256 verify receipt bundles topology index backing →
    EveryHopEntered topology index

theorem exit_of_bound {sources : Sources} {args : Args}
    (hgather : gather sources args = .ok (receipt, bundles)) {result : VerifyResult}
    (hresult : verify receipt = .ok result) {topology : List (Json × Json)} {index : Dict Key Json}
    {backing : List (Option (String × StageBundle))}
    (h : AllPresentBound sha256 verify receipt bundles topology index backing) :
    main sha256 verify T sources args = .ok 0 ↔
      EveryHopEntered topology index ∧ Printable T topology backing := by
  rw [exit_zero_iff hgather hresult]
  constructor
  · rintro ⟨topology', index', backing', h', hentered, hprintable⟩
    obtain ⟨rfl, rfl, rfl⟩ := h.unique h'
    exact ⟨hentered, hprintable⟩
  · rintro ⟨hentered, hprintable⟩
    exact ⟨topology, index, backing, h, hentered, hprintable⟩

/-- Nothing is returned on a receipt whose verification raises. -/
theorem main_raises {sources : Sources} {args : Args}
    (hgather : gather sources args = .ok (receipt, bundles)) {e : PyError}
    (hresult : verify receipt = .error e) : main sha256 verify T sources args = .error e := by
  unfold main verifyCoordinatorReceipt
  simp only [hgather, Py.ok_bind, hresult]
  rfl

section

variable {topology : List (Json × Json)} {index : Dict Key Json}
  {backing : List (Option (String × StageBundle))} {result : VerifyResult}
  (hresult : verify receipt = .ok result)
  (h : AllPresentBound sha256 verify receipt bundles topology index backing)
include h

theorem entersItsHops_iff : EntersItsHops receipt ↔ EveryHopEntered topology index := by
  obtain ⟨block, runId, stages, hreads, -⟩ := h.reads
  constructor
  · intro hall
    exact hall block runId topology stages index hreads
  · intro hentered block' runId' topology' stages' index' hreads'
    obtain ⟨-, rfl, rfl⟩ := hreads.unique hreads'
    exact hentered

include hresult

theorem allGreen_of_bound : (∃ verdict,
    verifyCoordinatorReceipt sha256 verify receipt bundles = .ok verdict ∧
      AllGreen verify receipt verdict) ↔ result.ok = true := by
  rw [allGreen_iff hresult]
  exact and_iff_left ⟨topology, index, backing, h⟩

theorem exitFollowsReceipt_iff : ExitFollowsReceipt sha256 verify T receipt bundles ↔
    (EveryHopEntered topology index → (result.ok = true ↔ Printable T topology backing)) := by
  constructor
  · intro hall
    exact hall result topology index backing hresult h
  · intro hone result' topology' index' backing' hresult' h'
    obtain rfl := Except.ok.inj (hresult.symm.trans hresult')
    obtain ⟨rfl, rfl, rfl⟩ := h.unique h'
    exact hone

theorem goodReceiptsEnterHops_iff : GoodReceiptsEnterHops sha256 verify receipt bundles ↔
    (result.ok = true → EveryHopEntered topology index) := by
  constructor
  · intro hall hok
    exact hall result topology index backing hresult hok h
  · intro hone result' topology' index' backing' hresult' hok h'
    obtain rfl := Except.ok.inj (hresult.symm.trans hresult')
    obtain ⟨rfl, rfl, rfl⟩ := h.unique h'
    exact hone hok

end

/-- Where something is not bound, the command does not exit with zero and no verdict is all green. -/
theorem neither_of_unbound {sources : Sources} {args : Args}
    (hgather : gather sources args = .ok (receipt, bundles))
    (h : ∀ result topology index backing, verify receipt = .ok result →
      ¬AllPresentBound sha256 verify receipt bundles topology index backing) :
    main sha256 verify T sources args ≠ .ok 0 ∧ ¬∃ verdict,
      verifyCoordinatorReceipt sha256 verify receipt bundles = .ok verdict ∧
        AllGreen verify receipt verdict := by
  cases hresult : verify receipt with
  | error e =>
      constructor
      · rw [main_raises hgather hresult]
        intro h
        cases h
      · rintro ⟨verdict, -, hgreen⟩
        obtain ⟨result, hok, -⟩ := hgreen.verifies
        cases hresult.symm.trans hok
  | ok result =>
      constructor
      · rw [ne_eq, exit_zero_iff hgather hresult]
        rintro ⟨topology, index, backing, hbound, -⟩
        exact h result topology index backing hresult hbound
      · rw [allGreen_iff hresult]
        rintro ⟨-, topology, index, backing, hbound⟩
        exact h result topology index backing hresult hbound

end

/-- The exit code is zero for all-green receipts alone exactly where it follows the verification of
the receipt.  A hop without an entry counts as an error of the receipt; where it does not, a good
receipt must have none. -/
theorem exit_exact_iff (sha256 : Sha256) (verify : Json → Py VerifyResult) (T : GradeTools)
    (sources : Sources) (args : Args) (receipt : Json) (bundles : Dict String StageBundle)
    (hgather : gather sources args = .ok (receipt, bundles)) :
    ((main sha256 verify T sources args = .ok 0 ↔ ∃ verdict,
        verifyCoordinatorReceipt sha256 verify receipt bundles = .ok verdict ∧
          AllGreen verify receipt verdict ∧ EntersItsHops receipt) ↔
      ExitFollowsReceipt sha256 verify T receipt bundles) ∧
    ((main sha256 verify T sources args = .ok 0 ↔ ∃ verdict,
        verifyCoordinatorReceipt sha256 verify receipt bundles = .ok verdict ∧
          AllGreen verify receipt verdict) ↔
      ExitFollowsReceipt sha256 verify T receipt bundles ∧
        GoodReceiptsEnterHops sha256 verify receipt bundles) := by
  by_cases hbound : ∃ result topology index backing, verify receipt = .ok result ∧
      AllPresentBound sha256 verify receipt bundles topology index backing
  · obtain ⟨result, topology, index, backing, hresult, hbound⟩ := hbound
    have hgreen := allGreen_of_bound hresult hbound
    have hentered : (∃ verdict, verifyCoordinatorReceipt sha256 verify receipt bundles = .ok verdict ∧
        AllGreen verify receipt verdict ∧ EntersItsHops receipt) ↔
          result.ok = true ∧ EveryHopEntered topology index := by
      rw [← entersItsHops_iff hbound, ← hgreen]
      simp only [← and_assoc, exists_and_right]
    rw [exit_of_bound hgather hresult hbound, hentered, hgreen, exitFollowsReceipt_iff hresult hbound,
      goodReceiptsEnterHops_iff hresult hbound]
    constructor <;> tauto
  · have hunbound : ∀ result topology index backing, verify receipt = .ok result →
        ¬AllPresentBound sha256 verify receipt bundles topology index backing :=
      fun result topology index backing hresult h =>
        hbound ⟨result, topology, index, backing, hresult, h⟩
    obtain ⟨hmain, hnone⟩ := neither_of_unbound hgather hunbound
    have hfollows : ExitFollowsReceipt sha256 verify T receipt bundles :=
      fun result topology index backing hresult h =>
        absurd h (hunbound result topology index backing hresult)
    have henters : GoodReceiptsEnterHops sha256 verify receipt bundles :=
      fun result topology index backing hresult _ h =>
        absurd h (hunbound result topology index backing hresult)
    refine ⟨iff_of_true (iff_of_false hmain ?_) hfollows,
      iff_of_true (iff_of_false hmain hnone) ⟨hfollows, henters⟩⟩
    rintro ⟨verdict, hverdict, hgreen, -⟩
    exact hnone ⟨verdict, hverdict, hgreen⟩

/-! ## A receipt that does not verify -/

def oneDigest : Sha256 where
  hexdigest _ := String.ofList (List.replicate 64 '0')
  isHexDigest_hexdigest _ := by decide

def noCrypto : Delegation.Crypto where
  PrivateKey := Unit
  publicBytes _ := []
  sign _ _ := []
  isPoint _ := false
  verify _ _ _ := false
  sha256Hex _ := ""
  parseCose _ := .error .typeError
  sigStructure _ := []
  excText _ := ""

def plainGradeTools : GradeTools where
  checks :=
    { crypto := noCrypto
      floatLe := fun _ _ => false
      floatRepr := id }
  clock := 0
  witnessRecord w := .ok w
  checkpointRecord _ := .error .typeError
  leafCount _ := .error .typeError
  madeAt _ := .malformed
  exceptionText _ := ""
  recordErrorText _ := ""

/-- A receipt that orders one hop and cites its record. -/
def oneHopReceipt : Json :=
  .obj [("model_attestation", .obj [("compute_attestation", .obj
    [("x-mesh-coordinator-receipt-v1", .obj
      [("kind", .str "mesh-coordinator-receipt"),
       ("run_id", .str "run-1"),
       ("topology", .arr [.obj [("seq", .int 0), ("hop_id", .str "hop-0")]]),
       ("stages", .arr [.obj [("hop_id", .str "hop-0"), ("bundle", .str "present"),
         ("bundle_ref", .obj [("digest", .str (String.ofList (List.replicate 64 '0')))])]])])])])]

def oneBundle : Json := .obj [("hop_id", .str "hop-0"), ("stage_capsule", .obj [])]

def oneHopSources : Sources where
  file path := if path = "receipt.json" then .ok oneHopReceipt else .ok oneBundle
  endpoint _ := .ok none

/-- Stage records verify; receipts verify or not. -/
def verifyAs (receiptOk : Bool) (capsule : Json) : Py VerifyResult :=
  match capsule with
  | .obj [] => .ok ⟨true, []⟩
  | _ => .ok ⟨receiptOk, []⟩

def oneHopArgs : Args := ⟨"receipt.json", [("hop-0", "bundle.json")], []⟩

def oneHopBundles : Dict String StageBundle :=
  (∅ : Dict String StageBundle).insert "hop-0" ⟨.str "hop-0", .obj [], .null⟩

theorem oneHop_gathered : gather oneHopSources oneHopArgs = .ok (oneHopReceipt, oneHopBundles) := rfl

/-- With a receipt that verifies, the exit code is zero and the verdict is all green. -/
theorem verified_receipt_follows :
    ((main oneDigest (verifyAs true) plainGradeTools oneHopSources oneHopArgs = .ok 0 ↔ ∃ verdict,
        verifyCoordinatorReceipt oneDigest (verifyAs true) oneHopReceipt oneHopBundles = .ok verdict ∧
          AllGreen (verifyAs true) oneHopReceipt verdict ∧ EntersItsHops oneHopReceipt) ↔
      ExitFollowsReceipt oneDigest (verifyAs true) plainGradeTools oneHopReceipt oneHopBundles) ∧
    ((main oneDigest (verifyAs true) plainGradeTools oneHopSources oneHopArgs = .ok 0 ↔ ∃ verdict,
        verifyCoordinatorReceipt oneDigest (verifyAs true) oneHopReceipt oneHopBundles = .ok verdict ∧
          AllGreen (verifyAs true) oneHopReceipt verdict) ↔
      ExitFollowsReceipt oneDigest (verifyAs true) plainGradeTools oneHopReceipt oneHopBundles ∧
        GoodReceiptsEnterHops oneDigest (verifyAs true) oneHopReceipt oneHopBundles) :=
  exit_exact_iff oneDigest (verifyAs true) plainGradeTools oneHopSources oneHopArgs oneHopReceipt
    oneHopBundles oneHop_gathered

/-- A receipt that does not verify exits green. -/
theorem unverified_receipt_exits_green :
    main oneDigest (verifyAs false) plainGradeTools oneHopSources oneHopArgs = .ok 0 ∧
      ¬(main oneDigest (verifyAs false) plainGradeTools oneHopSources oneHopArgs = .ok 0 ↔
        ∃ verdict, verifyCoordinatorReceipt oneDigest (verifyAs false) oneHopReceipt oneHopBundles =
            .ok verdict ∧ AllGreen (verifyAs false) oneHopReceipt verdict) := by
  have hexit : main oneDigest (verifyAs false) plainGradeTools oneHopSources oneHopArgs = .ok 0 := by
    decide +kernel
  refine ⟨hexit, ?_⟩
  intro hiff
  obtain ⟨verdict, -, hgreen⟩ := hiff.mp hexit
  obtain ⟨result, hresult, hok⟩ := hgreen.verifies
  obtain rfl := Except.ok.inj hresult
  cases hok

end CapsuleMesh.Coordinator
