import CapsuleMesh.Account.AccountCapsule
import CapsuleMesh.Adjudication.Deliveries
import CapsuleMesh.JoinCard.Card
import CapsuleMesh.Library.Tally

/-!
# The node's own accounts

A delivered capsule is appended to the ledger that the node makes its accounts from: pair
continuity, the served summary, the account capsule and the consistency of its join cards.
None of them asks who sealed a record, and each counts the records of one kind.
-/

namespace CapsuleMesh.Adjudication

open Python Library

/-! ## Pair continuity -/

/-- The record carries a number of its pair. -/
def pairSequenced (record : Json) : Py Bool := do
  return (← Sequence.extractPairSeq record).isSome

theorem pairSequenced_eq_ok {record : Json} {b : Bool} :
    pairSequenced record = .ok b ↔
      ∃ found, Sequence.extractPairSeq record = .ok found ∧ found.isSome = b := by
  rw [pairSequenced, Py.bind_eq_ok]
  simp only [Py.pure_eq_ok, Except.ok.injEq]

def recordsChecked (report : List Sequence.PairContinuity) : ℕ :=
  (report.map Sequence.PairContinuity.recordsChecked).sum

theorem sum_kerase {κ : Type} [DecidableEq κ] (k : κ) (entries : List (Sigma fun _ : κ => ℕ)) :
    ((entries.kerase k).map Sigma.snd).sum + (entries.dlookup k).getD 0 =
      (entries.map Sigma.snd).sum := by
  induction entries with
  | nil => rfl
  | cons e entries ih =>
      by_cases hk : k = e.1
      · rw [List.kerase_cons_eq hk]
        subst hk
        rw [List.dlookup_cons_eq, Option.getD_some, List.map_cons, List.sum_cons, Nat.add_comm]
      · rw [List.kerase_cons_ne hk, List.dlookup_cons_ne _ _ hk, List.map_cons, List.map_cons,
          List.sum_cons, List.sum_cons, Nat.add_assoc, ih]

/-- Each record that is walked is counted once. -/
theorem total_foldl (rs : List Sequence.PairSeq) (w : Sequence.Walk) :
    (rs.foldl Sequence.Walk.step w).total = w.total + rs.length := by
  induction rs generalizing w with
  | nil => rfl
  | cons r rs ih =>
      have hstep : (w.step r).total = w.total + 1 := by
        have hcounts : (w.step r).counts =
            w.counts.insert r.key ((w.counts.lookup r.key).getD 0 + 1) := Sequence.Walk.counts_step w r
        have hkerase := sum_kerase r.key w.counts.entries
        rw [Sequence.Walk.total, hcounts, AList.entries_insert, List.map_cons, List.sum_cons,
          Sequence.Walk.total, AList.lookup]
        dsimp only
        omega
      rw [List.foldl_cons, ih, hstep, List.length_cons]
      omega

theorem recordsChecked_report (w : Sequence.Walk) (covered : Option ℕ) :
    recordsChecked (w.report covered) = w.total := by
  rw [recordsChecked, Sequence.Walk.report, List.map_map, Sequence.Walk.total]
  rfl

theorem length_extractedFrom {records : List Json}
    (h : ∀ r ∈ records, ∃ found, Sequence.extractPairSeq r = .ok found) :
    (Sequence.extractedFrom Sequence.extractPairSeq records).length =
      records.countP (marked pairSequenced) := by
  induction records with
  | nil => rfl
  | cons r records ih =>
      obtain ⟨⟨found, hfound⟩, hrest⟩ := List.forall_mem_cons.mp h
      have hmark := marked_of_eq_ok (pairSequenced_eq_ok.mpr ⟨found, hfound, rfl⟩)
      rw [List.countP_cons, hmark, ← ih hrest]
      cases found <;> simp [Sequence.extractedFrom, hfound, Except.toOption]

theorem pairContinuity_tallies (covered : Option ℕ) :
    Tallies (Sequence.verifyPairContinuity Sequence.extractPairSeq covered) recordsChecked
      pairSequenced where
  told {records report} h r hr := by
    obtain ⟨hread, -⟩ := Sequence.verifyPairContinuity_eq_ok.mp h
    obtain ⟨found, hfound⟩ := hread r hr
    exact ⟨found.isSome, pairSequenced_eq_ok.mpr ⟨found, hfound, rfl⟩⟩
  size_eq {records report} h := by
    obtain ⟨hread, -, rfl⟩ := Sequence.verifyPairContinuity_eq_ok.mp h
    rw [recordsChecked_report, total_foldl, length_extractedFrom hread]
    exact Nat.zero_add _
  keeps {records report more} h hsilent := by
    obtain ⟨hread, hstart, rfl⟩ := Sequence.verifyPairContinuity_eq_ok.mp h
    have hnone : ∀ r ∈ more, Sequence.extractPairSeq r = .ok none := by
      intro r hr
      obtain ⟨found, hfound, hnone⟩ := pairSequenced_eq_ok.mp (hsilent r hr)
      obtain rfl : found = none := by simpa using hnone
      exact hfound
    have hsame : Sequence.extractedFrom Sequence.extractPairSeq (records ++ more) =
        Sequence.extractedFrom Sequence.extractPairSeq records := by
      have hempty : Sequence.extractedFrom Sequence.extractPairSeq more = [] := by
        apply List.filterMap_eq_nil_iff.mpr
        intro r hr
        rw [hnone r hr]
        rfl
      rw [Sequence.extractedFrom, List.filterMap_append]
      exact (congrArg (_ ++ ·) hempty).trans (List.append_nil _)
    rw [Sequence.verifyPairContinuity_eq_ok, hsame]
    refine ⟨fun r hr => ?_, hstart, rfl⟩
    rcases List.mem_append.mp hr with hr | hr
    · exact hread r hr
    · exact ⟨none, hnone r hr⟩

/-! ## The served summary -/

/-- The records that show in the weights counts of a model. -/
def weightsCounted {F : Type} (byModel : List (Key × Account.ServedModelStats F)) : ℕ :=
  (byModel.map fun entry => entry.2.weightsDigestPresent + entry.2.weightsDigestAbsent).sum

def bucketCounted {F : Type} (buckets : List (Key × Account.Bucket F)) : ℕ :=
  (buckets.map fun entry => entry.2.weightsPresent + entry.2.weightsAbsent).sum

theorem bucketCounted_addServed {F : Type} (buckets : List (Key × Account.Bucket F))
    (facts : Account.ServedFacts F) :
    bucketCounted (Account.addServed buckets facts) = bucketCounted buckets + 1 := by
  have hadd : ∀ bucket : Account.Bucket F, (bucket.add facts).weightsPresent +
      (bucket.add facts).weightsAbsent = bucket.weightsPresent + bucket.weightsAbsent + 1 := by
    intro bucket
    cases hweights : facts.weightsPresent <;> simp [Account.Bucket.add, hweights] <;> omega
  induction buckets with
  | nil => exact hadd {}
  | cons entry buckets ih =>
      rw [Account.addServed]
      split_ifs with hk
      · simp only [bucketCounted, List.map_cons, List.sum_cons, hadd]
        omega
      · rw [bucketCounted, List.map_cons, List.sum_cons, ← bucketCounted, ih]
        exact (Nat.add_assoc _ _ 1).symm

theorem bucketCounted_foldl {F : Type} (facts : List (Account.ServedFacts F))
    (buckets : List (Key × Account.Bucket F)) :
    bucketCounted (facts.foldl Account.addServed buckets) =
      bucketCounted buckets + facts.length := by
  induction facts generalizing buckets with
  | nil => rfl
  | cons f facts ih =>
      rw [List.foldl_cons, ih, bucketCounted_addServed, List.length_cons]
      omega

theorem statsOf_counted {D : Doubles} {bucket : Account.Bucket D.F}
    {stats : Account.ServedModelStats D.F} (h : Account.statsOf D bucket = .ok stats) :
    stats.weightsDigestPresent + stats.weightsDigestAbsent =
      bucket.weightsPresent + bucket.weightsAbsent := by
  obtain ⟨_, -, h⟩ := Py.bind_eq_ok.mp h
  obtain ⟨_, -, h⟩ := Py.bind_eq_ok.mp h
  obtain ⟨_, -, h⟩ := Py.bind_eq_ok.mp h
  obtain rfl := Except.ok.inj h
  rfl

theorem weightsCounted_stats {D : Doubles} {buckets : List (Key × Account.Bucket D.F)}
    {byModel : List (Key × Account.ServedModelStats D.F)}
    (h : List.Forall₂ (fun entry stats => (do return (entry.1, ← Account.statsOf D entry.2) :
      Py (Key × Account.ServedModelStats D.F)) = .ok stats) buckets byModel) :
    weightsCounted byModel = bucketCounted buckets := by
  induction h with
  | nil => rfl
  | cons hstats _ ih =>
      obtain ⟨stats, hmade, hentry⟩ := Py.bind_eq_ok.mp hstats
      obtain rfl := Except.ok.inj hentry
      rw [weightsCounted, bucketCounted, List.map_cons, List.map_cons, List.sum_cons,
        List.sum_cons, statsOf_counted hmade]
      exact congrArg _ ih

theorem foldServed_tallies (D : Doubles) (sourceLog : Pane.SourceLog) :
    Tallies (Account.foldServed D · sourceLog) weightsCounted
      (Account.isServed · sourceLog) where
  told {records byModel} h r hr := by
    obtain ⟨served, hserved, -⟩ := Py.bind_eq_ok.mp h
    exact (filterM_eq_ok.mp hserved).1 r hr
  size_eq {records byModel} h := by
    obtain ⟨served, hserved, h⟩ := Py.bind_eq_ok.mp h
    obtain ⟨facts, hfacts, h⟩ := Py.bind_eq_ok.mp h
    have hlength := (Py.forall₂_of_map_eq (Py.mapM_eq_ok.mp hfacts)).length_eq
    rw [weightsCounted_stats (Py.forall₂_of_map_eq (Py.mapM_eq_ok.mp h)), bucketCounted_foldl,
      ← hlength, (filterM_eq_ok.mp hserved).2, List.countP_eq_length_filter]
    exact Nat.zero_add _
  keeps {records byModel more} h hsilent := by
    obtain ⟨served, hserved, hrest⟩ := Py.bind_eq_ok.mp h
    obtain ⟨htold, hkept⟩ := filterM_eq_ok.mp hserved
    have hnone : more.filter (marked (Account.isServed · sourceLog)) = [] := by
      rw [List.filter_eq_nil_iff]
      intro r hr
      have hmark : marked (Account.isServed · sourceLog) r = false := marked_of_eq_ok (hsilent r hr)
      rw [hmark]
      exact Bool.false_ne_true
    have hall : Account.servedOnly (records ++ more) sourceLog = .ok served := by
      apply filterM_eq_ok.mpr
      refine ⟨fun r hr => ?_, ?_⟩
      · rcases List.mem_append.mp hr with hr | hr
        · exact htold r hr
        · exact ⟨false, hsilent r hr⟩
      · rw [List.filter_append, hnone, List.append_nil, hkept]
    exact Py.bind_eq_ok.mpr ⟨served, hall, hrest⟩

/-! ## The account capsule -/

/-- Any record at all shows in the account. -/
theorem foldAccount_kept_append_iff (sourceLog : Pane.SourceLog) (before more : List Json) :
    Kept (Account.foldAccount · sourceLog) before (before ++ more) ↔
      ((∃ fold, Account.foldAccount before sourceLog = .ok fold) → more = []) := by
  have htotal : ∀ {records fold}, Account.foldAccount records sourceLog = .ok fold →
      fold.nTotal = records.length := by
    intro records fold h
    obtain ⟨_, -, h⟩ := Py.bind_eq_ok.mp h
    obtain rfl := Except.ok.inj h
    rfl
  constructor
  · rintro hkept ⟨fold, hfold⟩
    have hafter := htotal (hkept fold hfold)
    rw [htotal hfold, List.length_append] at hafter
    exact List.eq_nil_of_length_eq_zero (by omega)
  · intro hempty fold hfold
    rw [hempty ⟨fold, hfold⟩, List.append_nil]
    exact hfold

/-! ## The join cards -/

/-- The record carries a card, or claims of an exchange. -/
def cardOrExchange (record : Json) : Py Bool := do
  match ← JoinCard.cardFromLedgerLine record with
  | some _ => return true
  | none => return (← JoinCard.exchangeClaims record).isSome

/-- Each entry is a record, and so is each transition. -/
def verdictCount (result : JoinCard.CardConsistencyResult) : ℕ :=
  result.entries.length + result.cardTransitions.length

theorem cardOrExchange_of_walkLine {T : JoinCard.Tools} {walk walk' : JoinCard.Walk}
    {record : Json} (h : JoinCard.walkLine T walk record = .ok walk') :
    ∃ b, cardOrExchange record = .ok b ∧
      verdictCount walk'.result = verdictCount walk.result + if b then 1 else 0 := by
  rcases JoinCard.walkLine_eq_ok.mp h with ⟨card, capsuleId, hcard, rfl⟩ |
    ⟨hcard, hclaims, rfl⟩ | ⟨hcard, claims, capsuleId, entry, hclaims, -, -, rfl⟩
  · refine ⟨true, by rw [cardOrExchange, hcard]; rfl, ?_⟩
    simp only [verdictCount, JoinCard.Walk.enterCard, List.length_append, List.length_singleton]
    simp only [if_true]
    omega
  · exact ⟨false, by rw [cardOrExchange, hcard, Py.ok_bind, hclaims]; rfl, rfl⟩
  · refine ⟨true, by rw [cardOrExchange, hcard, Py.ok_bind, hclaims]; rfl, ?_⟩
    simp only [verdictCount, JoinCard.Walk.addEntry, List.length_append, List.length_singleton]
    simp only [if_true]
    omega

theorem walkLine_silent {T : JoinCard.Tools} {walk : JoinCard.Walk} {record : Json}
    (h : cardOrExchange record = .ok false) : JoinCard.walkLine T walk record = .ok walk := by
  obtain ⟨found, hfound, h⟩ := Py.bind_eq_ok.mp h
  cases found with
  | some hit => cases h
  | none =>
      obtain ⟨claims, hclaims, h⟩ := Py.bind_eq_ok.mp h
      cases claims with
      | some claims => cases h
      | none => exact JoinCard.walkLine_eq_ok.mpr (.inr (.inl ⟨hfound, hclaims, rfl⟩))

theorem verdictCount_walkLedger {T : JoinCard.Tools} {records : List Json} {walk : JoinCard.Walk}
    (h : JoinCard.walkLedger T records = .ok walk) :
    (∀ r ∈ records, ∃ b, cardOrExchange r = .ok b) ∧
      verdictCount walk.result = records.countP (marked cardOrExchange) := by
  induction records using List.reverseRecOn generalizing walk with
  | nil =>
      obtain rfl := Except.ok.inj h
      exact ⟨fun r hr => absurd hr List.not_mem_nil, rfl⟩
  | append_singleton records record ih =>
      obtain ⟨before, hbefore, hline⟩ := JoinCard.walkLedger_concat_eq_ok.mp h
      obtain ⟨htold, hcount⟩ := ih hbefore
      obtain ⟨b, hb, hstep⟩ := cardOrExchange_of_walkLine hline
      refine ⟨fun r hr => ?_, ?_⟩
      · rcases List.mem_append.mp hr with hr | hr
        · exact htold r hr
        · obtain rfl := List.mem_singleton.mp hr
          exact ⟨b, hb⟩
      · rw [hstep, hcount, List.countP_append, List.countP_singleton, marked_of_eq_ok hb]

theorem cardConsistency_tallies (T : JoinCard.Tools) :
    Tallies (JoinCard.cardConsistency T) verdictCount cardOrExchange where
  told {records result} h := by
    obtain ⟨walk, hwalk, -⟩ := Py.bind_eq_ok.mp h
    exact (verdictCount_walkLedger hwalk).1
  size_eq {records result} h := by
    obtain ⟨walk, hwalk, h⟩ := Py.bind_eq_ok.mp h
    obtain rfl := Except.ok.inj h
    exact (verdictCount_walkLedger hwalk).2
  keeps {records result more} h hsilent := by
    obtain ⟨walk, hwalk, h⟩ := Py.bind_eq_ok.mp h
    have hall : JoinCard.walkLedger T (records ++ more) = .ok walk := by
      induction more using List.reverseRecOn with
      | nil =>
        rw [List.append_nil]
        exact hwalk
      | append_singleton more record ih =>
        rw [← List.append_assoc]
        apply JoinCard.walkLedger_concat_eq_ok.mpr
        refine ⟨walk, ih fun r hr => hsilent r (List.mem_append_left _ hr), ?_⟩
        exact walkLine_silent (hsilent record (by simp))
    exact Py.bind_eq_ok.mpr ⟨walk, hall, h⟩

/-! ## What the door takes in -/

/-- A body whose capsule is appended: it cites a record of the ledger, its verdict is not
against the owner of that record, and the ledger takes it. -/
structure TakenIn (door : Door) (records : List Json) (body : Bytes)
    (members : List (String × Json)) : Prop where
  delivers : ∃ half owner block, Delivers door records body members half ∧
    ownerId half = .ok owner ∧ adjudicationBlock (.obj members) = .ok (.obj block) ∧
    ¬Contradicts block owner
  fits : Takes door records (.obj members)

/-- Each capsule that one of the deliveries brings in has the property. -/
def EachTakenIn (door : Door) (P : Json → Prop) : List Json → List (Bytes × String) → Prop :=
  EachDelivery door fun records body _ => ∀ members, TakenIn door records body members →
    P (.obj members)

section

variable {door : Door} {records : List Json} {body : Bytes} {now : String}

theorem handleDelivery_of_takenIn {members : List (String × Json)}
    (h : TakenIn door records body members) :
    handleDelivery door records body now = .ok (.received, records ++ [.obj members]) := by
  classical
  obtain ⟨half, owner, block, hdelivers, howner, hblock, hagainst⟩ := h.delivers
  rw [handleDelivery_eq_receive hdelivers, receive_eq hblock howner, if_neg hagainst,
    appendCapsule_eq_ok.mpr ⟨h.fits, rfl⟩]
  rfl

/-- A call that does not return the ledger as it was took a capsule in. -/
theorem takenIn_of_handleDelivery {answer : DeliveryAnswer} {after : List Json}
    (h : handleDelivery door records body now = .ok (answer, after)) :
    after = records ∨ ∃ members, TakenIn door records body members ∧
      after = records ++ [.obj members] := by
  classical
  by_cases hverified : ∃ members, Verified door body members
  · obtain ⟨members, hverified⟩ := hverified
    rw [handleDelivery_verified hverified] at h
    obtain ⟨cited, hcited, h⟩ := Py.bind_eq_ok.mp h
    split at h
    · exact .inl (Prod.mk.inj (Except.ok.inj h)).2.symm
    · next hne =>
        obtain ⟨entries, hentries, h⟩ := Py.bind_eq_ok.mp h
        cases hhalf : ownHalf entries cited with
        | none =>
          rw [hhalf] at h
          exact .inl (Prod.mk.inj (Except.ok.inj h)).2.symm
        | some half =>
          simp only [hhalf] at h
          obtain ⟨owner, howner, -⟩ := Py.bind_eq_ok.mp h
          obtain ⟨block, hblock, -⟩ := citedCapsuleIds_eq_ok.mp hcited
          rw [receive_eq hblock howner] at h
          split_ifs at h with hagainst
          · exact .inl (Prod.mk.inj (Except.ok.inj h)).2.symm
          · obtain ⟨after', happend, h⟩ := Py.bind_eq_ok.mp h
            obtain ⟨htakes, rfl⟩ := appendCapsule_eq_ok.mp happend
            refine .inr ⟨members, ⟨⟨half, owner, block, ?_, howner, hblock, hagainst⟩, htakes⟩, ?_⟩
            · exact ⟨hverified.loads, hverified.capsuleId, hverified.verify, cited, entries,
                hcited, by simpa using hne, hentries, hhalf⟩
            · exact (Prod.mk.inj (Except.ok.inj h)).2.symm
  · rw [handleDelivery_malformed (not_exists.mp hverified)] at h
    exact .inl (Prod.mk.inj (Except.ok.inj h)).2.symm

/-- A delivery adds what it takes in, and nothing else. -/
theorem ledgerAfter_eq (door : Door) (records : List Json) (body : Bytes) (now : String) :
    ∃ taken, ledgerAfter door records body now = records ++ taken ∧
      ∀ P : Json → Prop, (∀ c ∈ taken, P c) ↔
        ∀ members, TakenIn door records body members → P (.obj members) := by
  by_cases htaken : ∃ members, TakenIn door records body members
  · obtain ⟨members, htaken⟩ := htaken
    have hreturns : handleDelivery door records body now = _ := handleDelivery_of_takenIn htaken
    refine ⟨[.obj members], ledgerAfter_of_ok hreturns, fun P => ?_⟩
    rw [List.forall_mem_singleton]
    constructor
    · intro hP members' htaken'
      have hsame := hreturns.symm.trans (handleDelivery_of_takenIn htaken')
      have hafter := (Prod.mk.inj (Except.ok.inj hsame)).2
      rwa [← List.singleton_inj.mp (List.append_cancel_left hafter)]
    · exact fun hP => hP members htaken
  · refine ⟨[], ?_, fun P => iff_of_true (by simp) fun members h => absurd ⟨members, h⟩ htaken⟩
    rw [List.append_nil, ledgerAfter]
    split
    · next answer after hreturns =>
        rcases takenIn_of_handleDelivery hreturns with hsame | ⟨members, h, -⟩
        · exact hsame
        · exact absurd ⟨members, h⟩ htaken
    · rfl

theorem deliverAll_eq (door : Door) (records : List Json) (deliveries : List (Bytes × String)) :
    ∃ taken, deliverAll door records deliveries = records ++ taken ∧
      ∀ P : Json → Prop, (∀ c ∈ taken, P c) ↔ EachTakenIn door P records deliveries := by
  induction deliveries generalizing records with
  | nil => exact ⟨[], (List.append_nil records).symm, fun P => iff_of_true (by simp) trivial⟩
  | cons d rest ih =>
      obtain ⟨body, now⟩ := d
      obtain ⟨taken, htaken, hstep⟩ := ledgerAfter_eq door records body now
      obtain ⟨more, hmore, hrest⟩ := ih (ledgerAfter door records body now)
      refine ⟨taken ++ more, ?_, fun P => ?_⟩
      · rw [deliverAll, hmore, htaken, List.append_assoc]
      · rw [List.forall_mem_append, hstep P, hrest P]
        rfl

end

/-! ## The accounts of a node -/

/-- The accounts that the node can make of its own records are the same over a ledger. -/
structure AccountsKept (D : Doubles) (T : JoinCard.Tools) (own ledger : List Json) : Prop where
  pairs : ∀ covered, Kept (Sequence.verifyPairContinuity Sequence.extractPairSeq covered) own ledger
  served : ∀ sourceLog, Kept (Account.foldServed D · sourceLog) own ledger
  account : ∀ sourceLog, Kept (Account.foldAccount · sourceLog) own ledger
  cards : Kept (JoinCard.cardConsistency T) own ledger

/-- No account that the node can make of its own records counts a capsule that is taken in. -/
structure NoneCounted (D : Doubles) (T : JoinCard.Tools) (door : Door) (own : List Json)
    (deliveries : List (Bytes × String)) : Prop where
  pairs : ∀ covered,
    (∃ report, Sequence.verifyPairContinuity Sequence.extractPairSeq covered own = .ok report) →
      EachTakenIn door (fun c => pairSequenced c = .ok false) own deliveries
  served : ∀ sourceLog, (∃ byModel, Account.foldServed D own sourceLog = .ok byModel) →
    EachTakenIn door (fun c => Account.isServed c sourceLog = .ok false) own deliveries
  account : ∀ sourceLog, (∃ fold, Account.foldAccount own sourceLog = .ok fold) →
    EachTakenIn door (fun _ => False) own deliveries
  cards : (∃ result, JoinCard.cardConsistency T own = .ok result) →
    EachTakenIn door (fun c => cardOrExchange c = .ok false) own deliveries

theorem accounts_kept_iff (D : Doubles) (T : JoinCard.Tools) (door : Door) (own : List Json)
    (deliveries : List (Bytes × String)) :
    AccountsKept D T own (deliverAll door own deliveries) ↔
      NoneCounted D T door own deliveries := by
  obtain ⟨taken, hledger, htaken⟩ := deliverAll_eq door own deliveries
  have hpairs : ∀ covered, Kept _ own (own ++ taken) ↔ _ := fun covered =>
    (pairContinuity_tallies covered).kept_append_iff own taken
  have hserved : ∀ sourceLog, Kept _ own (own ++ taken) ↔ _ := fun sourceLog =>
    (foldServed_tallies D sourceLog).kept_append_iff own taken
  have haccount : ∀ sourceLog, Kept _ own (own ++ taken) ↔ _ := fun sourceLog =>
    foldAccount_kept_append_iff sourceLog own taken
  have hcards := (cardConsistency_tallies T).kept_append_iff own taken
  have hnone : taken = [] ↔ EachTakenIn door (fun _ => False) own deliveries := by
    rw [← htaken, List.eq_nil_iff_forall_not_mem]
  rw [hledger]
  constructor
  · intro h
    refine ⟨fun covered hmade => ?_, fun log hmade => ?_, fun log hmade => ?_, fun hmade => ?_⟩
    · exact (htaken _).mp ((hpairs covered).mp (h.pairs covered) hmade)
    · exact (htaken _).mp ((hserved log).mp (h.served log) hmade)
    · exact hnone.mp ((haccount log).mp (h.account log) hmade)
    · exact (htaken _).mp (hcards.mp h.cards hmade)
  · intro h
    refine ⟨fun covered => ?_, fun log => ?_, fun log => ?_, ?_⟩
    · exact (hpairs covered).mpr fun hmade => (htaken _).mpr (h.pairs covered hmade)
    · exact (hserved log).mpr fun hmade => (htaken _).mpr (h.served log hmade)
    · exact (haccount log).mpr fun hmade => hnone.mpr (h.account log hmade)
    · exact hcards.mpr fun hmade => (htaken _).mpr (h.cards hmade)

/-! ## A verdict that brings an exchange -/

def numberedPoc : Json :=
  .obj [("serving_provenance", .obj
    [("requesting_party", .str "p"), ("seq", .int 1), ("served_by_node_id", .str "n")])]

def numberedExchange (id : String) : Json :=
  .obj [("capsule_id", .str id), ("model_attestation", .obj [("compute_attestation", .obj
    [("x-mesh-poc-v1", numberedPoc)])])]

/-- A verdict about the exchange `half` that carries the block of an exchange. -/
def numberedVerdict (id half : String) : List (String × Json) :=
  [("capsule_id", .str id), ("model_attestation", .obj [("compute_attestation", .obj
    [("adjudication", .obj [("half_a_capsule_id", .str half), ("verdict", .str "corroborated")]),
     ("x-mesh-poc-v1", numberedPoc)])])]

theorem takenIn_changes_accounts :
    let T : JoinCard.Tools := ⟨hexText, id⟩
    let own := [numberedExchange "a"]
    let capsule := Json.obj (numberedVerdict "v" "a")
    let ledger := deliverAll parsingDoor own [(jcs capsule, "t")]
    let continuity (records : List Json) := (Sequence.verifyPairContinuity Sequence.extractPairSeq
      none records).toOption.map fun report => report.map Sequence.PairContinuity.continuity
    let served (records : List Json) := (Account.foldServed Account.exactDoubles records
      .sidecar).toOption.map weightsCounted
    let account (records : List Json) := (Account.foldAccount records .sidecar).toOption.map
      fun fold => (fold.nTotal, fold.nServed)
    let cards (records : List Json) := (JoinCard.cardConsistency T records).toOption.map
      verdictCount
    ledger = own ++ [capsule] ∧
      continuity own = some ["unbroken"] ∧
      continuity ledger = some ["broken at seq=1: not greater than prior seq=1"] ∧
      served own = some 1 ∧ served ledger = some 2 ∧
      account own = some (1, 1) ∧ account ledger = some (2, 2) ∧
      cards own = some 1 ∧ cards ledger = some 2 ∧
      ¬AccountsKept Account.exactDoubles T own ledger := by
  intro T own capsule ledger continuity served account cards
  have hverified : Verified parsingDoor (jcs capsule) (numberedVerdict "v" "a") := by
    apply parsingDoor_verified rfl
    · simp [numberedVerdict, numberedPoc]
    · rfl
  have hreceived : handleDelivery parsingDoor own (jcs capsule) "t" =
      .ok (.received, own ++ [capsule]) := by
    rw [handleDelivery_verified hverified]
    rfl
  have hledger : ledger = own ++ [capsule] := by
    change deliverAll parsingDoor own [(jcs capsule, "t")] = _
    rw [deliverAll, ledgerAfter_of_ok hreceived, deliverAll]
  have hbefore : Account.foldAccount own .sidecar = .ok { nTotal := 1, nServed := 1 } := rfl
  have hafter : Account.foldAccount ledger .sidecar = .ok { nTotal := 2, nServed := 2 } := by
    rw [hledger]
    rfl
  refine ⟨hledger, by decide +kernel, ?_, by decide +kernel, ?_, rfl, ?_, rfl, ?_, ?_⟩
  · rw [hledger]
    decide +kernel
  · rw [hledger]
    decide +kernel
  · rw [hledger]
    rfl
  · rw [hledger]
    rfl
  · intro hkept
    cases hafter.symm.trans (hkept.account .sidecar _ hbefore)

end CapsuleMesh.Adjudication
