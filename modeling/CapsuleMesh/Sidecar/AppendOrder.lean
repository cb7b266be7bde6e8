import CapsuleMesh.Sidecar.Threads

/-!
# Pair numbers under concurrent requests

A number is issued at build time and reaches the ledger later, so the order of a
pair's records is the order of the appends.  The ledger passes
`verify_pair_continuity` exactly as long as no record overtakes one of the same
pair with a smaller number, and no smaller number was lost to a failed request.
-/

namespace CapsuleMesh.Sidecar

open Python Sequence Library

/-- The number a request has taken. -/
def Phase.number : Phase → Option (Int × Option Int)
  | .ready => none
  | .sequenced number => some number
  | .headRead number _ => some number
  | .built number _ _ => some number
  | .appended number _ => some number
  | .finished number => some number
  | .failed number => some number
  | .stranded number _ => some number

theorem Phase.number_of_recorded {p : Phase} {number : Int × Option Int}
    (h : p.recorded = some number) : p.number = some number := by
  cases p <;> simp_all [Phase.recorded, Phase.number]

namespace Deployment

/-- The bucket in which thread `t` is counted. -/
def slot (d : Deployment) (t : ℕ) : String := orUnknown (some (counterpartyId d.cfg (d.requests t)))

/-- The key under which thread `t` takes its number. -/
def counterKey (d : Deployment) (t : ℕ) : String :=
  pairKey d.cfg.nodeId (some (counterpartyId d.cfg (d.requests t)))

/-- What the record of thread `t` tells the verifier. -/
def recordOf (d : Deployment) (t : ℕ) (number : Int × Option Int) : PairSeq :=
  ⟨orUnknown (some d.cfg.nodeId), d.slot t, number.1, .issued number.2⟩

theorem counterKey_eq_iff {d : Deployment} {t u : ℕ} :
    d.counterKey t = d.counterKey u ↔ d.slot t = d.slot u :=
  pairKey_right_inj

theorem recordOf_key_eq_iff {d : Deployment} {t u : ℕ} {n m : Int × Option Int} :
    (d.recordOf t n).key = (d.recordOf u m).key ↔ d.slot t = d.slot u := by
  simp only [PairSeq.key, recordOf, pairKey_right_inj, slot, orUnknown_orUnknown]

theorem SealedBy.extract {d : Deployment} {t : ℕ} {number : Int × Option Int}
    {prior : Option String} {capsule : Json} (h : d.SealedBy t number prior capsule) :
    extractPairSeq capsule = .ok (some (d.recordOf t number)) := by
  obtain ⟨head, h⟩ := h
  exact extractPairSeq_sealed d.contract h

theorem startup_extract (d : Deployment) {capsule : Json} (h : capsule ∈ d.startup) :
    extractPairSeq capsule = .ok none := by
  obtain ⟨args, hargs, hemit⟩ := d.exists_startupArgs h
  obtain ⟨members, hmembers, hpoc⟩ := d.startup_poc args hargs
  obtain ⟨fields, rfl, attestation, hmodel, hcompute⟩ := d.contract.compute hemit
  rw [hmembers] at hcompute
  simp [extractPairSeq, pocBlock, hmodel, hcompute, hpoc, Json.or, Json.isNull]

/-- If thread `i.1` is about to append, every request of its pair that holds a
smaller number has its record on the ledger. -/
def InIssueOrder (d : Deployment) (s : Sys) (i : ℕ × Bool) : Prop :=
  ∀ number prior capsule, s.phase i.1 = .built number prior capsule → i.2 = true →
    ∀ u smaller, d.slot u = d.slot i.1 → (s.phase u).number = some smaller →
      smaller.1 < number.1 → (s.phase u).recorded = some smaller

/-- How the counters, the numbers held and the records hang together in every run. -/
structure NumberInv (d : Deployment) (s : Sys) : Prop where
  counters : ∀ {k n}, s.counters.lookup k = some n → 1 ≤ n
  held : ∀ {t n}, (s.phase t).number = some n →
    (d.recordOf t n).Honest ∧ n.1 ≤ (s.counters.lookup (d.counterKey t)).getD 0
  unique : ∀ {t u n m}, (s.phase t).number = some n → (s.phase u).number = some m →
    d.slot t = d.slot u → n.1 = m.1 → t = u
  issued : ∀ {t j}, 1 ≤ j → j ≤ (s.counters.lookup (d.counterKey t)).getD 0 →
    ∃ u n, d.slot u = d.slot t ∧ (s.phase u).number = some n ∧ n.1 = j
  records : ∃ extracted, s.ledger.mapM extractPairSeq = .ok extracted ∧
    ∀ r, r ∈ extracted.reduceOption ↔ ∃ t n, (s.phase t).recorded = some n ∧ r = d.recordOf t n

theorem numberInv_boot (d : Deployment) : d.NumberInv d.boot where
  counters h := by simp [boot] at h
  held h := by simp [boot, Phase.number] at h
  unique h := by simp [boot, Phase.number] at h
  issued hpos hle := by
    simp only [boot, AList.lookup_empty, Option.getD_none] at hle
    omega
  records := by
    have general : ∀ records : List Json, (∀ c ∈ records, extractPairSeq c = .ok none) →
        records.mapM extractPairSeq = .ok (records.map fun _ => none) := by
      intro records
      induction records with
      | nil => intro _; rfl
      | cons c records ih =>
        intro h
        simp [List.mapM_cons, h c (by simp), ih fun c hc => h c (by simp [hc])]
    refine ⟨_, general d.startup fun c hc => d.startup_extract hc, ?_⟩
    intro r
    constructor
    · intro hr
      simp at hr
    · rintro ⟨t, n, h, -⟩
      simp [boot, Phase.recorded] at h

/-- A move that changes neither counters nor ledger nor what thread `t` holds. -/
theorem NumberInv.of_quiet {d : Deployment} {s s' : Sys} (h : d.NumberInv s) {t : ℕ} {p : Phase}
    (hledger : s'.ledger = s.ledger) (hcounters : s'.counters = s.counters)
    (hphase : s'.phase = Function.update s.phase t p)
    (hnumber : p.number = (s.phase t).number) (hrecorded : p.recorded = (s.phase t).recorded) :
    d.NumberInv s' := by
  have hnumber' : ∀ u, (s'.phase u).number = (s.phase u).number := by
    intro u
    by_cases hu : u = t
    · subst hu
      simp [hphase, hnumber]
    · simp [hphase, hu]
  have hrecorded' : ∀ u, (s'.phase u).recorded = (s.phase u).recorded := by
    intro u
    by_cases hu : u = t
    · subst hu
      simp [hphase, hrecorded]
    · simp [hphase, hu]
  constructor
  · rw [hcounters]
    exact h.counters
  · intro u n hu
    rw [hcounters]
    exact h.held (hnumber' u ▸ hu)
  · intro u v n m hu hv
    exact h.unique (hnumber' u ▸ hu) (hnumber' v ▸ hv)
  · intro u j hpos hle
    rw [hcounters] at hle
    obtain ⟨v, n, hslot, hv, hj⟩ := h.issued hpos hle
    exact ⟨v, n, hslot, (hnumber' v).trans hv, hj⟩
  · rw [hledger]
    simp only [hrecorded']
    exact h.records

/-- Taking a number: it is one more than the pair's last, and so nobody else's. -/
theorem NumberInv.take {d : Deployment} {s s' : Sys} (h : d.NumberInv s) {t : ℕ} {p : Phase}
    (hready : s.phase t = .ready)
    (hcounters : s'.counters = (takeNumber d.cfg (d.requests t) s.counters).2)
    (hledger : s'.ledger = s.ledger) (hphase : s'.phase = Function.update s.phase t p)
    (hp : p.number = some (takeNumber d.cfg (d.requests t) s.counters).1)
    (hrec : p.recorded = none) : d.NumberInv s' := by
  obtain ⟨number, hnumber⟩ : ∃ n, n = (takeNumber d.cfg (d.requests t) s.counters).1 := ⟨_, rfl⟩
  rw [← hnumber] at hp
  have hprev : number.2 = s.counters.lookup (d.counterKey t) := by
    rw [hnumber]
    rfl
  have hseq : number.1 = (s.counters.lookup (d.counterKey t)).getD 0 + 1 := by
    rw [hnumber]
    rfl
  have hsame : s'.counters.lookup (d.counterKey t) = some number.1 := by
    rw [hcounters, hseq]
    exact nextSeq_lookup_same _ _ _
  have hne : ∀ {k}, k ≠ d.counterKey t → s'.counters.lookup k = s.counters.lookup k := by
    intro k hk
    rw [hcounters]
    exact nextSeq_lookup_ne _ hk
  have hnonneg : 0 ≤ (s.counters.lookup (d.counterKey t)).getD 0 := by
    cases hlook : s.counters.lookup (d.counterKey t) with
    | none => simp
    | some n =>
        have := h.counters hlook
        simp only [Option.getD_some]
        omega
  -- the counter of a pair never goes down
  have hmono : ∀ u, (s.counters.lookup (d.counterKey u)).getD 0 ≤
      (s'.counters.lookup (d.counterKey u)).getD 0 := by
    intro u
    by_cases hu : d.counterKey u = d.counterKey t
    · rw [hu, hsame, Option.getD_some]
      omega
    · rw [hne hu]
  have hself : (s'.phase t).number = some number := by simp [hphase, hp]
  have hother : ∀ u, u ≠ t → s'.phase u = s.phase u := by
    intro u hu
    rw [hphase, Function.update_of_ne hu]
  have hnot : ∀ u m, u ≠ t → (s.phase u).number = some m → d.slot u = d.slot t →
      m.1 ≠ number.1 := by
    intro u m hu hm hslot
    have hle := (h.held hm).2
    rw [counterKey_eq_iff.mpr hslot] at hle
    omega
  constructor
  · intro k n hk
    by_cases hkt : k = d.counterKey t
    · subst hkt
      obtain rfl := Option.some.inj (hsame.symm.trans hk)
      omega
    · exact h.counters ((hne hkt).symm.trans hk)
  · intro u n hu
    by_cases hut : u = t
    · subst hut
      obtain rfl := Option.some.inj (hself.symm.trans hu)
      refine ⟨⟨?_, ?_⟩, by rw [hsame, Option.getD_some]⟩
      · simp only [recordOf]
        omega
      · simp only [recordOf, hprev, hseq]
        cases hlook : s.counters.lookup (d.counterKey u) with
        | none => simp
        | some m =>
          have := h.counters hlook
          simp only [Option.getD_some]
          rw [if_neg (by omega)]
          simp
    · obtain ⟨hhonest, hle⟩ := h.held (hother u hut ▸ hu)
      exact ⟨hhonest, hle.trans (hmono u)⟩
  · intro u v n m hu hv hslot hnm
    by_cases hut : u = t <;> by_cases hvt : v = t
    · rw [hut, hvt]
    · subst hut
      obtain rfl := Option.some.inj (hself.symm.trans hu)
      exact absurd hnm.symm (hnot v m hvt (hother v hvt ▸ hv) hslot.symm)
    · subst hvt
      obtain rfl := Option.some.inj (hself.symm.trans hv)
      exact absurd hnm (hnot u n hut (hother u hut ▸ hu) hslot)
    · exact h.unique (hother u hut ▸ hu) (hother v hvt ▸ hv) hslot hnm
  · intro u j hpos hle
    -- every number up to the old counter is held already, and `t` holds the new one
    have hold : j ≤ (s.counters.lookup (d.counterKey u)).getD 0 →
        ∃ v n, d.slot v = d.slot u ∧ (s'.phase v).number = some n ∧ n.1 = j := by
      intro hle
      obtain ⟨v, n, hslot, hv, hj⟩ := h.issued hpos hle
      have hvt : v ≠ t := by
        rintro rfl
        simp [hready, Phase.number] at hv
      exact ⟨v, n, hslot, (hother v hvt).symm ▸ hv, hj⟩
    by_cases hu : d.counterKey u = d.counterKey t
    · rw [hu, hsame, Option.getD_some] at hle
      rcases eq_or_lt_of_le hle with rfl | hlt
      · exact ⟨t, number, (counterKey_eq_iff.mp hu).symm, hself, rfl⟩
      · exact hold (by rw [hu]; omega)
    · rw [hne hu] at hle
      exact hold hle
  · have hrecorded : ∀ u, (s'.phase u).recorded = (s.phase u).recorded := by
      intro u
      by_cases hut : u = t
      · subst hut
        rw [hphase, Function.update_self, hrec, hready]
        rfl
      · rw [hother u hut]
    rw [hledger]
    simp only [hrecorded]
    exact h.records

/-- The extraction of a ledger one record longer. -/
theorem mapM_concat {ledger : List Json} {extracted : List (Option PairSeq)} {capsule : Json}
    {r : PairSeq} (h : ledger.mapM extractPairSeq = .ok extracted)
    (hr : extractPairSeq capsule = .ok (some r)) :
    (ledger ++ [capsule]).mapM extractPairSeq = .ok (extracted ++ [some r]) := by
  simp [List.mapM_append, h, hr]

theorem NumberInv.append {d : Deployment} {s : Sys} (hwf : d.Wf s) (h : d.NumberInv s)
    {t : ℕ} {number : Int × Option Int} {prior : Option String} {capsule : Json}
    (hphase : s.phase t = .built number prior capsule) :
    d.NumberInv { s.setPhase t (.appended number capsule) with
      ledger := s.ledger ++ [capsule] } := by
  have hnumber : ∀ u, (Function.update s.phase t (.appended number capsule) u).number =
      (s.phase u).number := by
    intro u
    by_cases hu : u = t
    · subst hu
      simp [hphase, Phase.number]
    · simp [hu]
  obtain ⟨extracted, hextracted, hmem⟩ := h.records
  constructor
  · exact h.counters
  · intro u n hu
    exact h.held (hnumber u ▸ hu)
  · intro u v n m hu hv
    exact h.unique (hnumber u ▸ hu) (hnumber v ▸ hv)
  · intro u j hpos hle
    obtain ⟨v, n, hslot, hv, hj⟩ := h.issued hpos hle
    exact ⟨v, n, hslot, (hnumber v).trans hv, hj⟩
  · refine ⟨_, mapM_concat hextracted (hwf.built hphase).extract, ?_⟩
    intro r
    rw [List.reduceOption_append, List.reduceOption_singleton, Option.toList_some,
      List.mem_append, hmem, List.mem_singleton]
    constructor
    · rintro (⟨u, n, hu, rfl⟩ | rfl)
      · have hut : u ≠ t := by
          rintro rfl
          simp [hphase, Phase.recorded] at hu
        exact ⟨u, n, by simpa [hut] using hu, rfl⟩
      · exact ⟨t, number, by simp [Phase.recorded], rfl⟩
    · rintro ⟨u, n, hu, rfl⟩
      by_cases hut : u = t
      · subst hut
        have hn : number = n := by simpa [Phase.recorded] using hu
        exact .inr (by rw [hn])
      · exact .inl ⟨u, n, by simpa [hut] using hu, rfl⟩

theorem NumberInv.step {d : Deployment} {s : Sys} (hwf : d.Wf s) (h : d.NumberInv s)
    (i : ℕ × Bool) : d.NumberInv (d.step s i) := by
  obtain ⟨t, ok⟩ := i
  have hstep := d.step_spec s t ok
  generalize d.step s (t, ok) = s' at hstep
  cases hstep with
  | idle => exact h
  | take hphase =>
      refine h.take hphase rfl rfl rfl ?_ ?_ <;> cases ok <;>
        simp [Phase.number, Phase.recorded]
  | readHead hphase =>
      exact h.of_quiet rfl rfl rfl (by simp [hphase, Phase.number])
        (by simp [hphase, Phase.recorded])
  | build hphase hemit =>
      exact h.of_quiet rfl rfl rfl (by simp [hphase, Phase.number])
        (by simp [hphase, Phase.recorded])
  | fail hphase =>
      refine h.of_quiet rfl rfl rfl ?_ ?_ <;>
        rcases hphase with hphase | ⟨_, hphase, _⟩ <;>
        simp [hphase, Phase.number, Phase.recorded]
  | append hphase => exact h.append hwf hphase
  | publish hphase =>
      exact h.of_quiet rfl rfl rfl (by simp [hphase, Phase.number])
        (by simp [hphase, Phase.recorded])
  | strand hphase =>
      exact h.of_quiet rfl rfl rfl (by simp [hphase, Phase.number])
        (by simp [hphase, Phase.recorded])

theorem NumberInv.honest {d : Deployment} {s : Sys} (h : d.NumberInv s)
    {extracted : List (Option PairSeq)}
    (hmem : ∀ r, r ∈ extracted.reduceOption ↔
      ∃ t n, (s.phase t).recorded = some n ∧ r = d.recordOf t n) :
    ∀ r ∈ extracted.reduceOption, r.Honest := by
  intro r hr
  obtain ⟨t, n, hrec, rfl⟩ := (hmem r).mp hr
  exact (h.held (Phase.number_of_recorded hrec)).1

/-- The verifier's verdict on a ledger of this sidecar, by its pairs. -/
theorem NumberInv.passes_iff {d : Deployment} {s : Sys} (h : d.NumberInv s)
    {extracted : List (Option PairSeq)} (hextracted : s.ledger.mapM extractPairSeq = .ok extracted)
    (hmem : ∀ r, r ∈ extracted.reduceOption ↔
      ∃ t n, (s.phase t).recorded = some n ∧ r = d.recordOf t n) :
    PassesContinuity s.ledger ↔
      ∀ k, Consecutive none (ofKey PairSeq.key k extracted.reduceOption) := by
  exact passesContinuity_iff hextracted (h.honest hmem)

/-- The next number of a pair is due exactly when all smaller ones are recorded. -/
theorem NumberInv.due_iff {d : Deployment} {s : Sys} (h : d.NumberInv s)
    {rs : List PairSeq}
    (hmem : ∀ r, r ∈ rs ↔ ∃ t n, (s.phase t).recorded = some n ∧ r = d.recordOf t n)
    {t : ℕ} {number : Int × Option Int} {prior : Option String} {capsule : Json}
    (hphase : s.phase t = .built number prior capsule)
    (hcons : Consecutive none (ofKey PairSeq.key (d.recordOf t number).key rs)) :
    number.1 = (ofKey PairSeq.key (d.recordOf t number).key rs).length + 1 ↔
      ∀ u smaller, d.slot u = d.slot t → (s.phase u).number = some smaller →
        smaller.1 < number.1 → (s.phase u).recorded = some smaller := by
  have hnumber : (s.phase t).number = some number := by rw [hphase]; rfl
  -- the recorded numbers of the pair are those up to its length
  have hrecorded : ∀ j : Int, (∃ u n, d.slot u = d.slot t ∧ (s.phase u).recorded = some n ∧
      n.1 = j) ↔ 1 ≤ j ∧ j ≤ (ofKey PairSeq.key (d.recordOf t number).key rs).length := by
    intro j
    rw [← hcons.exists_seq_iff]
    constructor
    · rintro ⟨u, n, hslot, hrec, rfl⟩
      exact ⟨d.recordOf u n, mem_ofKey.mpr ⟨(hmem _).mpr ⟨u, n, hrec, rfl⟩,
        recordOf_key_eq_iff.mpr hslot⟩, rfl⟩
    · rintro ⟨r, hr, rfl⟩
      obtain ⟨hr, hkey⟩ := mem_ofKey.mp hr
      obtain ⟨u, n, hrec, rfl⟩ := (hmem r).mp hr
      exact ⟨u, n, recordOf_key_eq_iff.mp hkey, hrec, rfl⟩
  constructor
  · intro hdue u smaller hslot hu hlt
    have hpos : 1 ≤ smaller.1 := (h.held hu).1.1
    obtain ⟨v, n, hslot', hrec, hn⟩ := (hrecorded smaller.1).mpr ⟨hpos, by omega⟩
    have huv := h.unique hu (Phase.number_of_recorded hrec) (hslot.trans hslot'.symm) hn.symm
    subst huv
    have heq : n = smaller := Option.some.inj ((Phase.number_of_recorded hrec).symm.trans hu)
    rw [hrec, heq]
  · intro hall
    obtain ⟨hhonest, hle⟩ := h.held hnumber
    have hpos : 1 ≤ number.1 := hhonest.1
    rcases lt_trichotomy number.1
        ((ofKey PairSeq.key (d.recordOf t number).key rs).length + 1) with hlt | heq | hgt
    · -- the number would be on the ledger already, and it is held by `t` alone
      obtain ⟨u, n, hslot, hrec, hn⟩ := (hrecorded number.1).mpr ⟨hpos, by omega⟩
      have hut := h.unique (Phase.number_of_recorded hrec) hnumber hslot hn
      subst hut
      simp [hphase, Phase.recorded] at hrec
    · exact heq
    · obtain ⟨u, n, hslot, hu, hn⟩ := h.issued (t := t)
        (j := (ofKey PairSeq.key (d.recordOf t number).key rs).length + 1) (by omega) (by omega)
      have hrec := hall u n hslot hu (by omega)
      have := (hrecorded _).mp ⟨u, n, hslot, hrec, hn⟩
      omega

/-- The verdict after an append, by the pairs of the longer ledger. -/
theorem NumberInv.passes_append_iff {d : Deployment} {s : Sys} (hwf : d.Wf s)
    (h : d.NumberInv s) {extracted : List (Option PairSeq)}
    (hextracted : s.ledger.mapM extractPairSeq = .ok extracted)
    {t : ℕ} {number : Int × Option Int} {prior : Option String} {capsule : Json}
    (hphase : s.phase t = .built number prior capsule) :
    PassesContinuity (d.step s (t, true)).ledger ↔
      ∀ k, Consecutive none
        (ofKey PairSeq.key k (extracted.reduceOption ++ [d.recordOf t number])) := by
  have h' := h.step hwf (t, true)
  obtain ⟨extracted', hextracted', hmem'⟩ := h'.records
  rw [h'.passes_iff hextracted' hmem']
  rw [ledger_step_append hphase, mapM_concat hextracted (hwf.built hphase).extract] at hextracted'
  obtain rfl := Except.ok.inj hextracted'
  simp only [List.reduceOption_append, List.reduceOption_singleton, Option.toList_some]

theorem passes_step_iff {d : Deployment} {s : Sys} (hwf : d.Wf s) (h : d.NumberInv s)
    (hpasses : PassesContinuity s.ledger) (i : ℕ × Bool) :
    PassesContinuity (d.step s i).ledger ↔ d.InIssueOrder s i := by
  obtain ⟨t, ok⟩ := i
  by_cases happend : ∃ number prior capsule, s.phase t = .built number prior capsule ∧ ok = true
  · obtain ⟨number, prior, capsule, hphase, rfl⟩ := happend
    obtain ⟨extracted, hextracted, hmem⟩ := h.records
    have hcons := (h.passes_iff hextracted hmem).mp hpasses
    have hhonest : (d.recordOf t number).Honest := (h.held (by rw [hphase]; rfl)).1
    -- only the pair of the new record has something to lose
    have hpair : (∀ k, Consecutive none
          (ofKey PairSeq.key k (extracted.reduceOption ++ [d.recordOf t number]))) ↔
        Consecutive none (ofKey PairSeq.key (d.recordOf t number).key extracted.reduceOption ++
          [d.recordOf t number]) := by
      simp only [ofKey_append]
      constructor
      · intro hall
        have hnew := hall (d.recordOf t number).key
        rwa [ofKey_cons_same rfl] at hnew
      · intro hnew k
        by_cases hk : (d.recordOf t number).key = k
        · subst hk
          rwa [ofKey_cons_same rfl]
        · rw [ofKey_cons_ne hk, ofKey_nil, List.append_nil]
          exact hcons k
    have hdue := ((hcons _).concat_iff hhonest).trans (h.due_iff hmem hphase (hcons _))
    rw [h.passes_append_iff hwf hextracted hphase, hpair, hdue]
    constructor
    · intro hall number' prior' capsule' hphase' _
      obtain ⟨rfl, -, -⟩ := Phase.built.inj (hphase'.symm.trans hphase)
      exact hall
    · intro horder
      exact horder number prior capsule hphase rfl
  · rw [ledger_step_of_not_append happend]
    refine iff_of_true hpasses ?_
    intro number prior capsule hphase hok
    exact absurd ⟨number, prior, capsule, hphase, hok⟩ happend

/-- A ledger that passes also passed before its last record was appended. -/
theorem passes_of_step {d : Deployment} {s : Sys} (hwf : d.Wf s) (h : d.NumberInv s)
    (i : ℕ × Bool) (hpasses : PassesContinuity (d.step s i).ledger) :
    PassesContinuity s.ledger := by
  obtain ⟨t, ok⟩ := i
  by_cases happend : ∃ number prior capsule, s.phase t = .built number prior capsule ∧ ok = true
  · obtain ⟨number, prior, capsule, hphase, rfl⟩ := happend
    obtain ⟨extracted, hextracted, hmem⟩ := h.records
    rw [h.passes_append_iff hwf hextracted hphase] at hpasses
    rw [h.passes_iff hextracted hmem]
    intro k
    have hk := hpasses k
    rw [ofKey_append, consecutive_append] at hk
    exact hk.1
  · rwa [ledger_step_of_not_append happend] at hpasses

theorem passes_boot (d : Deployment) : PassesContinuity d.boot.ledger := by
  obtain ⟨extracted, hextracted, hmem⟩ := d.numberInv_boot.records
  rw [d.numberInv_boot.passes_iff hextracted hmem]
  intro k
  have hnil : extracted.reduceOption = [] := by
    rw [List.eq_nil_iff_forall_not_mem]
    intro r hr
    obtain ⟨t, n, hrec, -⟩ := (hmem r).mp hr
    simp [boot, Phase.recorded] at hrec
  rw [hnil]
  trivial

/-- Whatever the interleaving, the sidecar's own ledger passes the continuity check
exactly when every record was appended after all smaller numbers of its pair. -/
theorem passesContinuity_run_iff (d : Deployment) (schedule : List (ℕ × Bool)) :
    PassesContinuity (d.run schedule).ledger ↔ Along d.step d.InIssueOrder d.boot schedule := by
  refine good_run_iff (fun s => d.Wf s ∧ d.NumberInv s) (fun _ => True)
    (fun s => PassesContinuity s.ledger) ?_ (fun _ _ _ _ _ _ => trivial) ?_ ?_
    ⟨d.wf_boot, d.numberInv_boot⟩ trivial d.passes_boot schedule
  · exact fun s i h => ⟨h.1.step i, h.2.step h.1 i⟩
  · exact fun s i h hpasses => passes_of_step h.1 h.2 i hpasses
  · exact fun s i h _ hpasses => passes_step_iff h.1 h.2 hpasses i

/-- The first request takes number 1, the second takes 2 and appends first. -/
def overtaking : List (ℕ × Bool) :=
  [(0, true), (1, true), (1, true), (1, true), (1, true), (1, true), (0, true), (0, true),
    (0, true), (0, true)]

/-- The records of two unattested clients reach the ledger as `2, 1`. -/
theorem overtaking_breaks_continuity :
    ¬ ∀ (d : Deployment) (schedule : List (ℕ × Bool)),
      PassesContinuity (d.run schedule).ledger := by
  intro h
  obtain ⟨report, hreport, hclean⟩ := h plainDeployment overtaking
  have hbroken : verifyPairContinuity extractPairSeq none
      (plainDeployment.run overtaking).ledger =
      .ok [⟨"node::unknown", "broken at seq=1: not greater than prior seq=2", .int 1, 2, false⟩] := by
    rfl
  rw [hbroken] at hreport
  obtain rfl := Except.ok.inj hreport
  have hunbroken := (hclean _ (List.mem_singleton.mpr rfl)).1
  revert hunbroken
  decide

end Deployment

end CapsuleMesh.Sidecar
