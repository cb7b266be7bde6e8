import CapsuleMesh.Account.ServedSummary
import CapsuleMesh.Adjudication.Deliveries

/-!
# Verdicts that are counted

The tally of `adjudications_summary` in `self_accountability.py` and the verdicts cell of
`peer_accountability_tab.py`, over a ledger that deliveries extend.  The tally takes every
record of the ledger for one of the node's own, and the cell does not look whom a verdict
is against.
-/

namespace CapsuleMesh.Adjudication

open Python Account

/-! ## The tally -/

/-- The three verdicts that are counted. -/
inductive VerdictKind where
  | corroborated
  | contradicted
  | inconclusive
deriving DecidableEq

structure VerdictTally where
  corroborated : ℕ
  contradicted : ℕ
  inconclusive : ℕ
deriving DecidableEq

def VerdictTally.total (tally : VerdictTally) : ℕ :=
  tally.corroborated + tally.contradicted + tally.inconclusive

def tallyOf (kinds : List (Option VerdictKind)) : VerdictTally where
  corroborated := kinds.count (some .corroborated)
  contradicted := kinds.count (some .contradicted)
  inconclusive := kinds.count (some .inconclusive)

/-- `{r.get("capsule_id") for r in records if r.get("capsule_id")}`. -/
def capsuleIds : List Json → Py (List Key)
  | [] => .ok []
  | record :: records => do
      let id ← record.get "capsule_id"
      let ids : List Key ← (if id.truthy then do return [← id.key] else pure [] : Py (List Key))
      return ids ++ (← capsuleIds records)

/-- The counter that `adjudications_summary` raises for a verdict. -/
def kindOfVerdict (verdict : Json) : Py (Option VerdictKind) :=
  match verdict.or (.str "") with
  | .str text =>
      if text = VERDICT_CORROBORATED then .ok (some .corroborated)
      else if VERDICT_CONTRADICTED_PREFIX.toList.isPrefixOf text.toList then
        .ok (some .contradicted)
      else if text = VERDICT_INCONCLUSIVE then .ok (some .inconclusive)
      else .ok none
  | _ => .error .attributeError

/-- One turn of the loop in `adjudications_summary`. -/
def countedAs (ids : List Key) (record : Json) : Py (Option VerdictKind) := do
  if isAdjudication record then
    let adjudication ← (← attestationOf record).get "adjudication"
    if adjudication.truthy then
      if ← namesOwn adjudication ids then kindOfVerdict (← adjudication.get "verdict")
      else return none
    else return none
  else return none

def adjudicationsSummary (records : List Json) (ids : List Key) : Py VerdictTally := do
  return tallyOf (← records.mapM (countedAs ids))

/-- The adjudications of `build_self_accountability_card`. -/
def adjudicationsOfCard (records : List Json) : Py VerdictTally := do
  adjudicationsSummary records (← capsuleIds records)

/-! ## The verdicts cell -/

/-- `(record.get("model_attestation") or {}).get("compute_attestation", {})`. -/
def adjudicationIn (record : Json) : Py Json := do
  let compute ← ((← record.get "model_attestation").or (.obj [])).getD "compute_attestation" (.obj [])
  compute.get "adjudication"

/-- The counter that `_adjudications_about` raises for a verdict. -/
def kindAbout (verdict : Json) : Py (Option VerdictKind) :=
  match verdict.or (.str "") with
  | .str text =>
      if "contradicted".toList.isPrefixOf text.toList then .ok (some .contradicted)
      else if text = VERDICT_CORROBORATED then .ok (some .corroborated)
      else if text = VERDICT_INCONCLUSIVE then .ok (some .inconclusive)
      else .ok none
  | _ => .error .attributeError

structure AboutPeer where
  sealedCount : ℕ
  kinds : List (Option VerdictKind)
  contradictedCapsuleId : Json

/-- A record about the peer, with the counter it raises. -/
def aboutPeer (ids : List Key) (record : Json) : Py (Option (Option VerdictKind × Json)) := do
  let adjudication ← adjudicationIn record
  if adjudication.truthy then
    if ← namesOwn adjudication ids then
      let kind ← kindAbout (← adjudication.get "verdict")
      let id ← record.get "capsule_id"
      return some (kind, id)
    else return none
  else return none

/-- `_adjudications_about`. -/
def adjudicationsAbout (ids : List Key) (records : List Json) : Py AboutPeer := do
  let about := (← records.mapM (aboutPeer ids)).reduceOption
  return {
    sealedCount := about.length
    kinds := about.map Prod.fst
    contradictedCapsuleId :=
      ((about.filter (·.1 = some .contradicted)).getLast?.map Prod.snd).getD .null }

inductive CellState where
  | notChecked
  | present
  | contradicted
deriving DecidableEq

def VERDICTS_REFERENCES_PENDING_REASON : String :=
  "what counterparties report when asked about this peer is not available on this view yet."

/-- What a verified fetch adds to the cell. -/
structure PeerReferences where
  tally : Json
  asked : Json
  answered : Json
  ackRefusals : Json

structure VerdictsCell where
  state : CellState
  text : String
  tally : VerdictTally
  adjudicationCapsuleId : Option Json
  references : Option PeerReferences

def selfSealedText (tally : VerdictTally) : String :=
  toString tally.corroborated ++ " ✓ · " ++ toString tally.contradicted ++ " ✗ · " ++
    toString tally.inconclusive ++ " ? (self-sealed) -- " ++ VERDICTS_REFERENCES_PENDING_REASON

def withReferences (cell : VerdictsCell) (fetched : Option Json) : Py VerdictsCell :=
  match fetched with
  | none => .ok cell
  | some result => do
      if (← result.get "status").pyEq (.str "verified") then
        let tally ← result.getD "tally" (.obj [])
        let asked ← result.getD "references_asked" (.int 0)
        let answered ← result.getD "references_answered" (.int 0)
        let refusals ← result.getD "ack_refusals" (.int 0)
        let corroborated ← tally.getD "corroborated" (.int 0)
        let contradicted ← tally.getD "contradicted" (.int 0)
        let inconclusive ← tally.getD "inconclusive" (.int 0)
        return { cell with
          text := cell.text ++ " · refs: +" ++ corroborated.pyStr ++ "/-" ++ contradicted.pyStr ++
            "/~" ++ inconclusive.pyStr
          references := some ⟨tally, asked, answered, refusals⟩ }
      else return cell

/-- `verdicts_cell`, for the records of one peer. -/
def verdictsCell (records allRecords : List Json) (fetched : Option Json) : Py VerdictsCell := do
  let about ← adjudicationsAbout (← capsuleIds records) allRecords
  let tally := tallyOf about.kinds
  if about.sealedCount = 0 then
    return ⟨.notChecked, VERDICTS_REFERENCES_PENDING_REASON, tally, none, none⟩
  else
    let cell : VerdictsCell := {
      state := if tally.contradicted = 0 then .present else .contradicted
      text := selfSealedText tally
      tally := tally
      adjudicationCapsuleId :=
        if about.contradictedCapsuleId.truthy then some about.contradictedCapsuleId else none
      references := none }
    withReferences cell fetched

/-! ## What is counted -/

def idsOf (records : List Json) : List Key := (capsuleIds records).toOption.getD []

/-- The record is counted as an adjudication that names one of these ids. -/
def counts (ids : List Key) (record : Json) : Bool := (countedAs ids record).toOption.join.isSome

/-- The id that a record claims. -/
def claimedId (record : Json) : Option Key := (memberOf record "capsule_id").key.toOption

/-- The capsule ids of the adjudications that name a capsule of the node. -/
def adjudicationsOfOwn (own records : List Json) : List (Option Key) :=
  ((records.filter (counts (idsOf own))).map claimedId).dedup

/-- What is counted names a capsule of the node, and no id is counted twice. -/
structure NoReplays (own records : List Json) : Prop where
  names : ∀ record ∈ records, counts (idsOf records) record = true →
    counts (idsOf own) record = true
  once : ((records.filter (counts (idsOf own))).map claimedId).Nodup

theorem tallyOf_total (kinds : List (Option VerdictKind)) :
    (tallyOf kinds).total = (kinds.filter Option.isSome).length := by
  induction kinds with
  | nil => rfl
  | cons kind kinds ih =>
      simp only [tallyOf, VerdictTally.total] at ih ⊢
      rw [List.count_cons, List.count_cons, List.count_cons]
      cases kind with
      | none =>
        rw [List.filter_cons_of_neg (by simp), ← ih]
        simp
      | some kind =>
        rw [List.filter_cons_of_pos (by simp), List.length_cons, ← ih]
        cases kind <;> simp <;> omega

theorem counts_iff {ids : List Key} {record : Json} :
    counts ids record = true ↔ ∃ kind, countedAs ids record = .ok (some kind) := by
  unfold counts
  cases countedAs ids record with
  | error e => simp [Except.toOption]
  | ok found => cases found <;> simp [Except.toOption]

/-- The total is the number of records that are counted. -/
theorem adjudicationsSummary_total {records : List Json} {ids : List Key} {tally : VerdictTally}
    (h : adjudicationsSummary records ids = .ok tally) :
    tally.total = (records.filter (counts ids)).length := by
  simp only [adjudicationsSummary, Py.bind_eq_ok] at h
  obtain ⟨kinds, hkinds, h⟩ := h
  obtain rfl := Except.ok.inj h
  have hmap : kinds = records.map fun record => (countedAs ids record).toOption.join :=
    Py.mapM_ok_eq_map (fun record kind hkind => by simp [hkind, Except.toOption]) hkinds
  rw [tallyOf_total, hmap, List.filter_map, List.length_map]
  rfl

/-! ### More ids, more that is counted -/

theorem namesOwn_mono {ids ids' : List Key} (hsub : ids ⊆ ids') {adjudication : Json}
    (h : namesOwn adjudication ids = .ok true) : namesOwn adjudication ids' = .ok true := by
  simp only [namesOwn, Py.bind_eq_ok] at h ⊢
  obtain ⟨a, ha, halfA, hhalfA, halfB, hhalfB, h⟩ := h
  refine ⟨a, ha, halfA, hhalfA, halfB, hhalfB, ?_⟩
  by_cases hA : halfA ∈ ids
  · rw [if_pos (hsub hA)]
    rfl
  · rw [if_neg hA, Py.bind_eq_ok] at h
    obtain ⟨b, hb, h⟩ := h
    have hB : b ∈ ids := of_decide_eq_true (Except.ok.inj h)
    split_ifs
    · rfl
    · rw [hb, Py.ok_bind, decide_eq_true (hsub hB)]
      rfl

theorem counts_mono {ids ids' : List Key} (hsub : ids ⊆ ids') {record : Json}
    (h : counts ids record = true) : counts ids' record = true := by
  obtain ⟨kind, hkind⟩ := counts_iff.mp h
  refine counts_iff.mpr ⟨kind, ?_⟩
  unfold countedAs at hkind ⊢
  split_ifs at hkind ⊢
  · obtain ⟨attestation, hattestation, hkind⟩ := Py.bind_eq_ok.mp hkind
    obtain ⟨adjudication, hadjudication, hkind⟩ := Py.bind_eq_ok.mp hkind
    rw [hattestation, Py.ok_bind, hadjudication, Py.ok_bind]
    split_ifs at hkind ⊢
    · obtain ⟨named, hnamed, hkind⟩ := Py.bind_eq_ok.mp hkind
      cases named with
      | false => cases hkind
      | true =>
        rw [namesOwn_mono hsub hnamed, Py.ok_bind]
        exact hkind
    · cases hkind
  · cases hkind

theorem capsuleIds_append {records added : List Json} {ids : List Key}
    (h : capsuleIds (records ++ added) = .ok ids) :
    ∃ first more, capsuleIds records = .ok first ∧ capsuleIds added = .ok more ∧
      ids = first ++ more := by
  induction records generalizing ids with
  | nil => exact ⟨[], ids, rfl, h, rfl⟩
  | cons record records ih =>
      rw [List.cons_append, capsuleIds] at h
      obtain ⟨id, hid, h⟩ := Py.bind_eq_ok.mp h
      obtain ⟨own, hown, h⟩ := Py.bind_eq_ok.mp h
      obtain ⟨rest, hrest, h⟩ := Py.bind_eq_ok.mp h
      obtain rfl := Except.ok.inj h
      obtain ⟨first, more, hfirst, hmore, rfl⟩ := ih hrest
      refine ⟨own ++ first, more, ?_, hmore, (List.append_assoc _ _ _).symm⟩
      rw [capsuleIds, hid, Py.ok_bind, hown, Py.ok_bind, hfirst]
      rfl

theorem idsOf_subset {records added : List Json} {ids : List Key}
    (h : capsuleIds (records ++ added) = .ok ids) : idsOf records ⊆ ids := by
  obtain ⟨first, more, hfirst, -, rfl⟩ := capsuleIds_append h
  rw [idsOf, hfirst]
  exact List.subset_append_left _ _

/-- The tally stays within the adjudications of the node exactly when nothing else is
counted and nothing twice. -/
theorem card_tally_iff {own added : List Json} {tally : VerdictTally}
    (h : adjudicationsOfCard (own ++ added) = .ok tally) :
    tally.total ≤ (adjudicationsOfOwn own (own ++ added)).length ↔
      NoReplays own (own ++ added) := by
  obtain ⟨ids, hids, h⟩ := Py.bind_eq_ok.mp h
  have hidsOf : idsOf (own ++ added) = ids := by simp [idsOf, hids, Except.toOption]
  have hmono : ∀ record, counts (idsOf own) record = true → counts ids record = true :=
    fun _ => counts_mono (idsOf_subset hids)
  have hsub : ((own ++ added).filter (counts (idsOf own))).Sublist
      ((own ++ added).filter (counts ids)) := List.monotone_filter_right _ hmono
  have hdedup : (adjudicationsOfOwn own (own ++ added)).Sublist
      (((own ++ added).filter (counts (idsOf own))).map claimedId) := List.dedup_sublist _
  rw [adjudicationsSummary_total h]
  constructor
  · intro hle
    have hfirst := hdedup.length_le
    rw [List.length_map] at hfirst
    refine ⟨fun record hrecord hcounts => ?_, ?_⟩
    · have heq := hsub.eq_of_length_le (hle.trans hfirst)
      have hmem : record ∈ (own ++ added).filter (counts ids) :=
        List.mem_filter.mpr ⟨hrecord, hidsOf ▸ hcounts⟩
      rw [← heq] at hmem
      exact (List.mem_filter.mp hmem).2
    · have heq := hdedup.eq_of_length_le (by
        rw [List.length_map]
        exact hsub.length_le.trans hle)
      rw [← heq]
      exact List.nodup_dedup _
  · intro hnone
    rw [adjudicationsOfOwn, List.dedup_eq_self.mpr hnone.once, List.length_map]
    refine le_of_eq (congrArg List.length (List.filter_congr fun record hrecord => ?_))
    rw [Bool.eq_iff_iff]
    exact ⟨fun hcounts => hnone.names record hrecord (hidsOf.symm ▸ hcounts), hmono record⟩

/-! ## Runs of deliveries -/

section Runs

variable {door : Door} {own records : List Json} {body : Bytes} {now : String}

/-- What is received may be counted only for a capsule of the node that it names itself, not
again, and not by lending its id to a verdict about others. -/
structure FairReceipt (own records : List Json) (capsule : Json) : Prop where
  names : counts (idsOf (records ++ [capsule])) capsule = true → counts (idsOf own) capsule = true
  held : ∀ record ∈ records, counts (idsOf (records ++ [capsule])) record = true →
    counts (idsOf records) record = true ∨ counts (idsOf own) record = true
  new : counts (idsOf own) capsule = true → ∀ record ∈ records,
    counts (idsOf own) record = true → claimedId record ≠ claimedId capsule

def ReceivesFairly (door : Door) (own records : List Json) (body : Bytes) (now : String) : Prop :=
  ∀ capsule, handleDelivery door records body now = .ok (.received, records ++ [capsule]) →
    FairReceipt own records capsule

/-- A call that returns leaves the records, or receives one more. -/
theorem handleDelivery_leaves {answer : DeliveryAnswer} {after : List Json}
    (h : handleDelivery door records body now = .ok (answer, after)) :
    after = records ∨ answer = .received ∧ ∃ capsule, after = records ++ [capsule] := by
  by_cases hverified : ∃ members, Verified door body members
  · obtain ⟨members, hverified⟩ := hverified
    rw [handleDelivery_verified hverified] at h
    obtain ⟨cited, -, h⟩ := Py.bind_eq_ok.mp h
    split_ifs at h
    · exact .inl (Prod.mk.inj (Except.ok.inj h)).2.symm
    · obtain ⟨entries, -, h⟩ := Py.bind_eq_ok.mp h
      cases hhalf : ownHalf entries cited with
      | none =>
        rw [hhalf] at h
        exact .inl (Prod.mk.inj (Except.ok.inj h)).2.symm
      | some half =>
        rw [hhalf] at h
        simp only [receive, Py.bind_eq_ok] at h
        obtain ⟨owner, -, block, -, verdict, -, h⟩ := h
        split_ifs at h
        · exact .inl (Prod.mk.inj (Except.ok.inj h)).2.symm
        · obtain ⟨after', happend, h⟩ := Py.bind_eq_ok.mp h
          obtain ⟨-, rfl⟩ := appendCapsule_eq_ok.mp happend
          obtain ⟨hanswer, hafter⟩ := Prod.mk.inj (Except.ok.inj h)
          exact .inr ⟨hanswer.symm, _, hafter.symm⟩
  · rw [handleDelivery_malformed (not_exists.mp hverified)] at h
    exact .inl (Prod.mk.inj (Except.ok.inj h)).2.symm

theorem ledgerAfter_cases (door : Door) (records : List Json) (body : Bytes) (now : String) :
    ledgerAfter door records body now = records ∨
      ∃ capsule, handleDelivery door records body now = .ok (.received, records ++ [capsule]) ∧
        ledgerAfter door records body now = records ++ [capsule] := by
  cases h : handleDelivery door records body now with
  | error e =>
      left
      rw [ledgerAfter, h]
  | ok left =>
      obtain ⟨answer, after⟩ := left
      rw [ledgerAfter_of_ok h]
      rcases handleDelivery_leaves h with rfl | ⟨rfl, capsule, rfl⟩
      · exact .inl rfl
      · exact .inr ⟨capsule, rfl, rfl⟩

/-- A run leaves the capsules of the node where they are. -/
theorem deliverAll_eq_append (door : Door) (records : List Json)
    (deliveries : List (Bytes × String)) :
    ∃ added, deliverAll door records deliveries = records ++ added := by
  induction deliveries generalizing records with
  | nil => exact ⟨[], (List.append_nil records).symm⟩
  | cons d rest ih =>
      obtain ⟨body, now⟩ := d
      obtain ⟨more, hmore⟩ := ih (ledgerAfter door records body now)
      rw [deliverAll, hmore]
      rcases ledgerAfter_cases door records body now with hsame | ⟨capsule, -, hafter⟩
      · exact ⟨more, by rw [hsame]⟩
      · exact ⟨capsule :: more, by rw [hafter, List.append_assoc, List.singleton_append]⟩

theorem NoReplays.receive {capsule : Json} (h : NoReplays own records)
    (hfair : FairReceipt own records capsule) : NoReplays own (records ++ [capsule]) := by
  constructor
  · intro record hrecord hcounts
    rcases List.mem_append.mp hrecord with hrecord | hrecord
    · rcases hfair.held record hrecord hcounts with hbefore | hown
      · exact h.names record hrecord hbefore
      · exact hown
    · obtain rfl := List.mem_singleton.mp hrecord
      exact hfair.names hcounts
  · rw [List.filter_append, List.map_append, List.nodup_append']
    refine ⟨h.once, ?_, ?_⟩
    · by_cases hcounts : counts (idsOf own) capsule = true
      · rw [List.filter_cons_of_pos hcounts]
        simp
      · rw [List.filter_cons_of_neg hcounts]
        simp
    · rw [List.disjoint_left]
      intro id hid hid'
      obtain ⟨record, hrecord, rfl⟩ := List.mem_map.mp hid
      obtain ⟨hrecord, hcounts⟩ := List.mem_filter.mp hrecord
      obtain ⟨capsule', hcapsule, hsame⟩ := List.mem_map.mp hid'
      obtain ⟨hcapsule, hcounts'⟩ := List.mem_filter.mp hcapsule
      obtain rfl := List.mem_singleton.mp hcapsule
      exact hfair.new hcounts' record hrecord hcounts hsame.symm

/-- Each fair receipt keeps the tally fair. -/
theorem NoReplays.deliverAll {deliveries : List (Bytes × String)} (h : NoReplays own records)
    (hfair : EachDelivery door (ReceivesFairly door own) records deliveries) :
    NoReplays own (deliverAll door records deliveries) := by
  induction deliveries generalizing records with
  | nil => exact h
  | cons d rest ih =>
      obtain ⟨body, now⟩ := d
      obtain ⟨hfirst, hrest⟩ := hfair
      refine ih ?_ hrest
      rcases ledgerAfter_cases door records body now with hsame | ⟨capsule, hreceived, hafter⟩
      · rw [hsame]
        exact h
      · rw [hafter]
        exact h.receive (hfirst capsule hreceived)

end Runs

/-! ## Whom a verdict is against -/

/-- The verdict begins with `contradicted` and names one of these ids. -/
def BlamesOneOf (ids : List Key) (record : Json) : Prop :=
  ∃ id, aboutPeer ids record = .ok (some (some .contradicted, id))

/-- The owner of a half, where adjudication reads it or where a sidecar seals it. -/
def HalfOwner (half owner : Json) : Prop :=
  owner.truthy = true ∧ (ownerId half = .ok owner ∨ sealedOwnerId half = .ok owner)

/-- The verdict is against the owner of one of these halves, which it names. -/
def BlamesOwnerOf (halves : List Json) (record : Json) : Prop :=
  ∃ block half owner, adjudicationIn record = .ok block ∧ half ∈ halves ∧ HalfOwner half owner ∧
    namesOwn block (idsOf [half]) = .ok true ∧
    block.get "verdict" = .ok (.str (VERDICT_CONTRADICTED_PREFIX ++ owner.pyStr))

theorem withReferences_state {cell cell' : VerdictsCell} {fetched : Option Json}
    (h : withReferences cell fetched = .ok cell') : cell'.state = cell.state := by
  cases fetched with
  | none => rw [← Except.ok.inj h]
  | some result =>
      obtain ⟨status, -, h⟩ := Py.bind_eq_ok.mp h
      split_ifs at h
      · simp only [Py.bind_eq_ok] at h
        obtain ⟨tally, -, asked, -, answered, -, refusals, -, corroborated, -, contradicted, -,
          inconclusive, -, h⟩ := h
        obtain rfl := Except.ok.inj h
        rfl
      · rw [← Except.ok.inj h]

theorem adjudicationsAbout_contradicted {ids : List Key} {records : List Json} {about : AboutPeer}
    (h : adjudicationsAbout ids records = .ok about) :
    (tallyOf about.kinds).contradicted ≠ 0 ↔ ∃ record ∈ records, BlamesOneOf ids record := by
  simp only [adjudicationsAbout, Py.bind_eq_ok] at h
  obtain ⟨found, hfound, h⟩ := h
  obtain rfl := Except.ok.inj h
  have hmap := Py.mapM_eq_ok.mp hfound
  simp only [tallyOf]
  rw [← Nat.pos_iff_ne_zero, List.count_pos_iff, List.mem_map]
  constructor
  · rintro ⟨⟨kind, id⟩, hmem, rfl⟩
    have hok : (.ok (some (some .contradicted, id)) : Py (Option (Option VerdictKind × Json))) ∈
        found.map .ok := List.mem_map_of_mem (List.reduceOption_mem_iff.mp hmem)
    rw [← hmap] at hok
    obtain ⟨record, hrecord, hblames⟩ := List.mem_map.mp hok
    exact ⟨record, hrecord, id, hblames⟩
  · rintro ⟨record, hrecord, id, hblames⟩
    have hok : aboutPeer ids record ∈ found.map .ok := by
      rw [← hmap]
      exact List.mem_map_of_mem hrecord
    obtain ⟨entry, hentry, hsame⟩ := List.mem_map.mp hok
    obtain rfl := Except.ok.inj (hsame.trans hblames)
    exact ⟨_, List.reduceOption_mem_iff.mpr hentry, rfl⟩

/-- The cell says contradicted over any such verdict that names an id of the peer. -/
theorem verdictsCell_contradicted_iff {records allRecords : List Json} {fetched : Option Json}
    {cell : VerdictsCell} (h : verdictsCell records allRecords fetched = .ok cell) :
    cell.state = .contradicted ↔ ∃ record ∈ allRecords, BlamesOneOf (idsOf records) record := by
  simp only [verdictsCell, Py.bind_eq_ok] at h
  obtain ⟨ids, hids, about, habout, h⟩ := h
  have hidsOf : idsOf records = ids := by simp [idsOf, hids, Except.toOption]
  rw [hidsOf, ← adjudicationsAbout_contradicted habout]
  by_cases hnone : about.sealedCount = 0
  · rw [if_pos hnone] at h
    obtain rfl := Except.ok.inj h
    refine iff_of_false (by simp) (not_not.mpr ?_)
    simp only [adjudicationsAbout, Py.bind_eq_ok] at habout
    obtain ⟨found, -, habout⟩ := habout
    obtain rfl := Except.ok.inj habout
    rw [List.length_eq_zero_iff.mp hnone]
    rfl
  · rw [if_neg hnone] at h
    rw [withReferences_state h]
    by_cases hzero : (tallyOf about.kinds).contradicted = 0
    · simp [hzero]
    · simp [hzero]

/-- After any deliveries the tally counts the verdicts about the node once each, and a peer is
marked over a verdict against an owner of its halves, exactly when the ledger holds no verdict
that only looks so; and fair receipts keep the first. -/
theorem counted_fairly_iff (door : Door) (own : List Json) (deliveries : List (Bytes × String))
    {tally : VerdictTally} (htally : adjudicationsOfCard (deliverAll door own deliveries) = .ok tally)
    {records : List Json} {fetched : Option Json} {cell : VerdictsCell}
    (hcell : verdictsCell records (deliverAll door own deliveries) fetched = .ok cell) :
    ((tally.total ≤ (adjudicationsOfOwn own (deliverAll door own deliveries)).length ∧
      (cell.state = .contradicted →
        ∃ record ∈ deliverAll door own deliveries, BlamesOwnerOf records record)) ↔
    (NoReplays own (deliverAll door own deliveries) ∧
      ((∃ record ∈ deliverAll door own deliveries, BlamesOneOf (idsOf records) record) →
        ∃ record ∈ deliverAll door own deliveries, BlamesOwnerOf records record))) ∧
    (NoReplays own own → EachDelivery door (ReceivesFairly door own) own deliveries →
      NoReplays own (deliverAll door own deliveries)) := by
  refine ⟨?_, fun hown hfair => hown.deliverAll hfair⟩
  obtain ⟨added, hadded⟩ := deliverAll_eq_append door own deliveries
  rw [verdictsCell_contradicted_iff hcell]
  rw [hadded] at htally ⊢
  rw [card_tally_iff htally]

/-! ## A verdict on a verdict -/

/-- An adjudication as it is sealed. -/
def markedCapsule (id : String) (block : List (String × Json)) : List (String × Json) :=
  [("capsule_id", .str id), ("model_attestation", .obj [("compute_attestation", .obj
    [("adjudication", .obj block), ("epistemic_type", .str "adjudication")])])]

theorem markedCapsule_verified {capsuleId : String} {block : List (String × Json)}
    (hid : capsuleId ≠ "") (hproper : (Json.obj block).Proper id)
    (hsorted : (Json.obj block).sortKeys = .obj block) :
    Verified parsingDoor (jcs (.obj (markedCapsule capsuleId block)))
      (markedCapsule capsuleId block) := by
  apply parsingDoor_verified
  · simp [markedCapsule, hid]
  · simp [markedCapsule, hproper]
  · have hle : "capsule_id" ≤ "model_attestation" := by decide
    have hle' : "adjudication" ≤ "epistemic_type" := by decide
    simp only [Json.sortKeys, Library.sortByKey, Json.obj.injEq] at hsorted
    simp [markedCapsule, Json.sortKeys, Json.sortMembers, Library.sortByKey, hsorted, hle, hle']

def agreedBlock : List (String × Json) :=
  [("half_a_capsule_id", .str "a"), ("half_b_capsule_id", .str "b"),
   ("verdict", .str "corroborated")]

/-- One delivered verdict that both halves share. -/
theorem counted_fairly_iff_agreed :
    ∃ tally cell, adjudicationsOfCard (deliverAll parsingDoor [ownedHalf "a" "x"]
        [(jcs (.obj (markedCapsule "v" agreedBlock)), "t")]) = .ok tally ∧
      verdictsCell [ownedHalf "a" "x"] (deliverAll parsingDoor [ownedHalf "a" "x"]
        [(jcs (.obj (markedCapsule "v" agreedBlock)), "t")]) none = .ok cell ∧
      tally.total = 1 ∧ cell.state = .present ∧
      NoReplays [ownedHalf "a" "x"] (deliverAll parsingDoor [ownedHalf "a" "x"]
        [(jcs (.obj (markedCapsule "v" agreedBlock)), "t")]) := by
  have hreceived : handleDelivery parsingDoor [ownedHalf "a" "x"]
      (jcs (.obj (markedCapsule "v" agreedBlock))) "t" =
      .ok (.received, [ownedHalf "a" "x", .obj (markedCapsule "v" agreedBlock)]) := by
    have hverified : Verified parsingDoor (jcs (.obj (markedCapsule "v" agreedBlock)))
        (markedCapsule "v" agreedBlock) :=
      markedCapsule_verified (by decide) (by simp [agreedBlock]) rfl
    rw [handleDelivery_verified hverified]
    rfl
  have hledger : deliverAll parsingDoor [ownedHalf "a" "x"]
      [(jcs (.obj (markedCapsule "v" agreedBlock)), "t")] =
      [ownedHalf "a" "x", .obj (markedCapsule "v" agreedBlock)] := by
    rw [deliverAll, ledgerAfter_of_ok hreceived, deliverAll]
  have htally : adjudicationsOfCard (deliverAll parsingDoor [ownedHalf "a" "x"]
      [(jcs (.obj (markedCapsule "v" agreedBlock)), "t")]) = .ok ⟨1, 0, 0⟩ := by
    rw [hledger]
    rfl
  obtain ⟨cell, hcell, hstate⟩ : ∃ cell, verdictsCell [ownedHalf "a" "x"]
      (deliverAll parsingDoor [ownedHalf "a" "x"]
        [(jcs (.obj (markedCapsule "v" agreedBlock)), "t")]) none = .ok cell ∧
      cell.state = .present := by
    rw [hledger]
    exact ⟨_, rfl, rfl⟩
  refine ⟨⟨1, 0, 0⟩, cell, htally, hcell, rfl, hstate, ?_⟩
  have hone : 1 ≤ (adjudicationsOfOwn [ownedHalf "a" "x"] (deliverAll parsingDoor
      [ownedHalf "a" "x"] [(jcs (.obj (markedCapsule "v" agreedBlock)), "t")])).length := by
    rw [hledger]
    decide
  refine ((counted_fairly_iff parsingDoor _ _ htally hcell).1.mp ⟨hone, ?_⟩).1
  intro hcontradicted
  rw [hstate] at hcontradicted
  cases hcontradicted

/-- A verdict against the owner of the other half marks the peer of this one, and a verdict on that
verdict is counted too.  A store refuses the first of them when it is delivered again. -/
theorem verdict_on_verdict_counted :
    let own := [ownedHalf "a" "x"]
    let first := Json.obj (markedCapsule "v" secondHalfBlock)
    let second := Json.obj (markedCapsule "w" onVerdictBlock)
    let ledger := deliverAll parsingDoor own [(jcs first, "t"), (jcs first, "t"), (jcs second, "t")]
    adjudicationsOfCard ledger = .ok ⟨1, 1, 0⟩ ∧ (adjudicationsOfOwn own ledger).length = 1 ∧
      ∃ cell, verdictsCell own ledger none = .ok cell ∧ cell.state = .contradicted ∧
        ¬∃ record ∈ ledger, BlamesOwnerOf own record := by
  intro own first second ledger
  have hfirst : Verified parsingDoor (jcs first) (markedCapsule "v" secondHalfBlock) :=
    markedCapsule_verified (by decide) (by simp [secondHalfBlock]) rfl
  have hsecond : Verified parsingDoor (jcs second) (markedCapsule "w" onVerdictBlock) :=
    markedCapsule_verified (by decide) (by simp [onVerdictBlock]) rfl
  have hledger : ledger = [ownedHalf "a" "x", first, second] := by
    have hone : handleDelivery parsingDoor own (jcs first) "t" = .ok (.received, own ++ [first]) := by
      rw [handleDelivery_verified hfirst]
      rfl
    have htwo : ledgerAfter parsingDoor (own ++ [first]) (jcs first) "t" = own ++ [first] := by
      rw [ledgerAfter, handleDelivery_verified hfirst]
      rfl
    have hthree : handleDelivery parsingDoor (own ++ [first]) (jcs second) "t" =
        .ok (.received, own ++ [first] ++ [second]) := by
      rw [handleDelivery_verified hsecond]
      rfl
    change deliverAll parsingDoor own _ = _
    rw [deliverAll, ledgerAfter_of_ok hone, deliverAll, htwo, deliverAll, ledgerAfter_of_ok hthree,
      deliverAll]
    rfl
  rw [hledger]
  refine ⟨rfl, by decide, _, rfl, rfl, ?_⟩
  rintro ⟨record, hrecord, block, half, owner, hblock, hhalf, ⟨htruthy, howner⟩, -, hverdict⟩
  obtain rfl := List.mem_singleton.mp hhalf
  obtain rfl : owner = .str "x" := by
    rcases howner with howner | howner
    · exact (Except.ok.inj howner).symm
    · obtain rfl := Except.ok.inj howner
      cases htruthy
  have hother : (block.get "verdict").toOption.bind Json.str? ≠ some "contradicted:x" := by
    simp only [List.mem_cons, List.not_mem_nil, or_false] at hrecord
    rcases hrecord with rfl | rfl | rfl
    all_goals
      obtain rfl := Except.ok.inj hblock
      decide
  rw [hverdict] at hother
  exact hother rfl

end CapsuleMesh.Adjudication
