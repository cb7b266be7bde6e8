import CapsuleMesh.Evidence.AskedFor
import CapsuleMesh.Evidence.References
import CapsuleMesh.Python.Equality

/-!
# The tallies about a node

What a record adds to the tallies of `run_references` is fixed by its blocks alone, so adding a record
to an answer moves the tallies by just that.  A record that does not name the node moves them exactly
when it holds a verdict that names nobody.
-/

namespace CapsuleMesh.AskHistory

open Python Evidence

/-! ## What a record counts for -/

instance : Add Tally where
  add t d := ⟨t.corroborated + d.corroborated, t.contradicted + d.contradicted,
    t.inconclusive + d.inconclusive, t.ackRefusals + d.ackRefusals⟩

theorem Tally.add_def (t d : Tally) :
    t + d = ⟨t.corroborated + d.corroborated, t.contradicted + d.contradicted,
      t.inconclusive + d.inconclusive, t.ackRefusals + d.ackRefusals⟩ := rfl

/-- The tally with none. -/
theorem Tally.empty_add (t : Tally) : {} + t = t := by
  rw [add_def]
  simp

theorem Tally.add_eq_left_iff {t d : Tally} : t + d = t ↔ d = {} := by
  rw [add_def, Tally.ext_iff, Tally.ext_iff]
  simp

/-- A fold adds the same to whatever it starts from when each of its steps does. -/
theorem foldl_add {β : Type} {step : Tally → β → Tally} (h : ∀ t d b, step (t + d) b = step t b + d)
    (t d : Tally) (bs : List β) : bs.foldl step (t + d) = bs.foldl step t + d := by
  induction bs generalizing t with
  | nil => rfl
  | cons b bs ih => rw [List.foldl_cons, List.foldl_cons, h, ih]

section

variable (x : String)

theorem countAdjudication_add (t d : Tally) (block : List (String × Json)) :
    countAdjudication x (t + d) block = countAdjudication x t block + d := by
  rw [countAdjudication, countAdjudication]
  split_ifs
  · exact Tally.ext rfl (Nat.add_right_comm _ _ _) rfl rfl
  · exact Tally.ext (Nat.add_right_comm _ _ _) rfl rfl rfl
  · exact Tally.ext rfl rfl (Nat.add_right_comm _ _ _) rfl
  · rfl

theorem countAckRefused_add (t d : Tally) (block : List (String × Json)) :
    countAckRefused x (t + d) block = countAckRefused x t block + d := by
  rw [countAckRefused, countAckRefused]
  split_ifs
  · exact Tally.ext rfl rfl rfl (Nat.add_right_comm _ _ _)
  · rfl

theorem classifyReceiptForX_add (t d : Tally) (receipt : List (String × Json)) :
    classifyReceiptForX x (t + d) receipt = classifyReceiptForX x t receipt + d := by
  rw [classifyReceiptForX, foldl_add (countAdjudication_add x), foldl_add (countAckRefused_add x)]
  rfl

/-- The tally of one record. -/
def contribution (receipt : List (String × Json)) : Tally := classifyReceiptForX x {} receipt

theorem classifyReceiptForX_eq (t : Tally) (receipt : List (String × Json)) :
    classifyReceiptForX x t receipt = contribution x receipt + t := by
  rw [contribution, ← classifyReceiptForX_add, Tally.empty_add]

/-- A record among the others adds its own tally. -/
theorem foldl_classify_insert (t : Tally) (before after : List (List (String × Json)))
    (receipt : List (String × Json)) :
    (before ++ receipt :: after).foldl (classifyReceiptForX x) t =
      (before ++ after).foldl (classifyReceiptForX x) t + contribution x receipt := by
  rw [List.foldl_append, List.foldl_cons, List.foldl_append, classifyReceiptForX_eq]
  rw [← foldl_add (classifyReceiptForX_add x)]
  congr 1
  rw [Tally.add_def, Tally.add_def, Tally.mk.injEq]
  omega

/-! ## The blocks of a record -/

/-- The record names the node as the owner who is contradicted, or holds a refusal attributed to a
referee to acknowledge that. -/
def NamesOwner (receipt : List (String × Json)) : Prop :=
  (∃ block ∈ iterDictsByKey (.obj receipt) "adjudication", contradicts block x = true) ∨
    ∃ block ∈ iterDictsByKey (.obj receipt) "adjudication_ack_refused",
      contradicts block x = true ∧ isAttributedAdjudication block = true

/-- Some verdict of the record names nobody. -/
def OwnerlessVerdict (receipt : List (String × Json)) : Prop :=
  ∃ block ∈ iterDictsByKey (.obj receipt) "adjudication",
    verdictOf block = .str VERDICT_CORROBORATED ∨ verdictOf block = .str VERDICT_INCONCLUSIVE

theorem pyEq_str_iff {j : Json} {s : String} : j.pyEq (.str s) = true ↔ j = .str s := by
  constructor
  · exact Json.eq_str_of_pyEq
  · rintro rfl
    exact decide_eq_true rfl

/-- A block that does not name the node is counted when its verdict names nobody. -/
theorem countAdjudication_eq_iff {t : Tally} {block : List (String × Json)}
    (h : contradicts block x = false) :
    countAdjudication x t block = t ↔
      ¬(verdictOf block = .str VERDICT_CORROBORATED ∨ verdictOf block = .str VERDICT_INCONCLUSIVE) := by
  rw [countAdjudication, h, if_neg Bool.false_ne_true, not_or, ← pyEq_str_iff, ← pyEq_str_iff]
  split_ifs with hcorroborated hinconclusive
  · simp [hcorroborated, Tally.ext_iff]
  · simp [hinconclusive, Tally.ext_iff]
  · simp [hcorroborated, hinconclusive]

theorem countAckRefused_eq_iff {t : Tally} {block : List (String × Json)} :
    countAckRefused x t block = t ↔
      ¬(contradicts block x = true ∧ isAttributedAdjudication block = true) := by
  rw [countAckRefused, ← Bool.and_eq_true]
  split_ifs with hcounted
  · simp [hcounted, Tally.ext_iff]
  · simp [hcounted]

theorem Tally.add_eq_empty_iff {t d : Tally} : t + d = {} ↔ t = {} ∧ d = {} := by
  rw [add_def, Tally.ext_iff, Tally.ext_iff, Tally.ext_iff]
  simp only [Nat.add_eq_zero_iff]
  tauto

theorem foldl_eq_empty_iff {β : Type} {step : Tally → β → Tally}
    (h : ∀ t d b, step (t + d) b = step t b + d) {bs : List β} :
    bs.foldl step {} = {} ↔ ∀ b ∈ bs, step {} b = {} := by
  induction bs with
  | nil => simp
  | cons b bs ih =>
      have hfirst : bs.foldl step (step {} b) = bs.foldl step {} + step {} b := by
        rw [← foldl_add h, Tally.empty_add]
      rw [List.foldl_cons, hfirst, Tally.add_eq_empty_iff, ih, List.forall_mem_cons, and_comm]

/-- A record that does not name the node counts for something when a verdict of it names nobody. -/
theorem contribution_eq_empty_iff {receipt : List (String × Json)} (h : ¬NamesOwner x receipt) :
    contribution x receipt = {} ↔ ¬OwnerlessVerdict receipt := by
  obtain ⟨hadjudications, hrefusals⟩ := not_or.mp h
  have hsplit : contribution x receipt =
      (iterDictsByKey (.obj receipt) "adjudication_ack_refused").foldl (countAckRefused x) {} +
        (iterDictsByKey (.obj receipt) "adjudication").foldl (countAdjudication x) {} := by
    rw [← foldl_add (countAckRefused_add x), Tally.empty_add]
    rfl
  rw [hsplit, Tally.add_eq_empty_iff, foldl_eq_empty_iff (countAckRefused_add x),
    foldl_eq_empty_iff (countAdjudication_add x)]
  constructor
  · rintro ⟨-, hnone⟩ ⟨block, hblock, hverdict⟩
    have hunnamed : contradicts block x = false := by
      apply Bool.eq_false_iff.mpr
      intro hnames
      exact hadjudications ⟨block, hblock, hnames⟩
    exact (countAdjudication_eq_iff x hunnamed).mp (hnone block hblock) hverdict
  · intro hnone
    constructor
    · intro block hblock
      apply (countAckRefused_eq_iff x).mpr
      intro hnames
      exact hrefusals ⟨block, hblock, hnames⟩
    · intro block hblock
      have hunnamed : contradicts block x = false := by
        apply Bool.eq_false_iff.mpr
        intro hnames
        exact hadjudications ⟨block, hblock, hnames⟩
      apply (countAdjudication_eq_iff x hunnamed).mpr
      intro hverdict
      exact hnone ⟨block, hblock, hverdict⟩

end

/-! ## One more record -/

section

variable (T : EvidenceTools) (x : String) (peerMap : List (String × String))

/-- The second door answers as the first, with one more record in its `i`-th answer. -/
structure AddsRecord (record : ServedRecord) (i : ℕ) (door door' : ℕ → Posted) : Prop where
  others : ∀ j, j ≠ i → door' j = door j
  answer : ∃ exchange exchange' before after, door i = .exchanged exchange ∧
    door' i = .exchanged exchange' ∧
      verifiedRecords T (readReply T exchange none) = .ok (before ++ after) ∧
        verifiedRecords T (readReply T exchange' none) = .ok (before ++ record :: after)

def Asking.shift (d : Tally) (asking : Asking) : Asking :=
  { asking with tally := asking.tally + d }

variable {T} {record : ServedRecord} {i : ℕ} {door door' : ℕ → Posted}

theorem askReference_shift (j : ℕ) (nodeId : String) (d : Tally) (asking : Asking) :
    askReference T x peerMap door j nodeId (asking.shift d) =
      (askReference T x peerMap door j nodeId asking).map (Asking.shift d) := by
  rw [askReference, askReference]
  split_ifs with hreachable
  · cases door j with
    | urlError => rfl
    | raised e => rfl
    | exchanged exchange =>
        simp only
        cases verifiedRecords T (readReply T exchange none) with
        | error e => rfl
        | ok records =>
          simp only [Py.ok_bind, Asking.shift, foldl_add (classifyReceiptForX_add x)]
          rfl
  · rfl

theorem askReferences_shift (j : ℕ) (nodes : List String) (d : Tally) (asking : Asking) :
    askReferences T x peerMap door j nodes (asking.shift d) =
      (askReferences T x peerMap door j nodes asking).map (Asking.shift d) := by
  induction nodes generalizing j asking with
  | nil => rfl
  | cons nodeId rest ih =>
      rw [askReferences, askReferences, askReference_shift]
      cases askReference T x peerMap door j nodeId asking with
      | error e => rfl
      | ok after =>
        change askReferences T x peerMap door (j + 1) rest (after.shift d) = _
        rw [ih]
        rfl

theorem askReferences_congr (j : ℕ) (nodes : List String) (asking : Asking)
    (h : ∀ n, j ≤ n → door' n = door n) :
    askReferences T x peerMap door' j nodes asking = askReferences T x peerMap door j nodes asking := by
  induction nodes generalizing j asking with
  | nil => rfl
  | cons nodeId rest ih =>
      have hturn : askReference T x peerMap door' j nodeId asking =
          askReference T x peerMap door j nodeId asking := by
        rw [askReference, askReference, h j le_rfl]
      rw [askReferences, askReferences, hturn]
      congr 1
      funext after
      apply ih
      intro n hn
      exact h n (Nat.le_of_succ_le hn)

theorem askReference_adds (hadds : AddsRecord T record i door door') {nodeId : String}
    (hreachable : reachable peerMap nodeId = true) (asking : Asking) :
    askReference T x peerMap door' i nodeId asking =
      (askReference T x peerMap door i nodeId asking).map
        (Asking.shift (contribution x record.receipt)) := by
  obtain ⟨exchange, exchange', before, after, hdoor, hdoor', hbefore, hafter⟩ := hadds.answer
  rw [askReference, askReference, if_pos hreachable, if_pos hreachable, hdoor, hdoor']
  simp only [hbefore, hafter, Py.ok_bind, List.map_append, List.map_cons, foldl_classify_insert]
  rfl

theorem askReferences_adds (hadds : AddsRecord T record i door door') {nodeId : String}
    (hreachable : reachable peerMap nodeId = true) (j : ℕ) (nodes : List String) (asking : Asking)
    (hji : j ≤ i) (hasked : nodes[i - j]? = some nodeId) :
    askReferences T x peerMap door' j nodes asking =
      (askReferences T x peerMap door j nodes asking).map
        (Asking.shift (contribution x record.receipt)) := by
  induction nodes generalizing j asking with
  | nil => simp at hasked
  | cons node rest ih =>
      rw [askReferences, askReferences]
      rcases hji.eq_or_lt with rfl | hlt
      · rw [Nat.sub_self, List.getElem?_cons_zero, Option.some.injEq] at hasked
        subst hasked
        rw [askReference_adds x peerMap hadds hreachable]
        cases askReference T x peerMap door j node asking with
        | error e => rfl
        | ok after =>
          change askReferences T x peerMap door' (j + 1) rest
            (after.shift (contribution x record.receipt)) = _
          rw [askReferences_shift, askReferences_congr]
          · rfl
          · intro n hn
            exact hadds.others n (by omega)
      · have hturn : askReference T x peerMap door' j node asking =
            askReference T x peerMap door j node asking := by
          rw [askReference, askReference, hadds.others j (by omega)]
        rw [hturn]
        cases askReference T x peerMap door j node asking with
        | error e => rfl
        | ok after =>
          apply ih
          · exact hlt
          · rwa [show i - j = (i - (j + 1)) + 1 by omega, List.getElem?_cons_succ] at hasked

theorem runReferences_eq {chain : List CarriedCheckpoint} {xReply : Reply} {k : Int}
    {served : Served} (hserved : servedRecords T xReply = .ok served) {anchor : CarriedCheckpoint}
    (hanchor : served.anchor = some anchor) {sampled : List String} {selection : Selection}
    (hselect : selectReferences T x anchor served.records chain k = .ok (sampled, selection))
    {result : ReferencesResult}
    (hrun : runReferences T x peerMap door chain xReply k = .ok result) :
    ∃ asking, askReferences T x peerMap door 0 sampled {} = .ok asking ∧
      result.tally = asking.tally ∧
      ∀ door' asking', askReferences T x peerMap door' 0 sampled {} = .ok asking' →
        ∃ result', runReferences T x peerMap door' chain xReply k = .ok result' ∧
          result'.tally = asking'.tally := by
  unfold runReferences at hrun ⊢
  split at hrun
  next => cases hrun
  next hread =>
      rw [hserved, Py.ok_bind] at hrun
      split at hrun
      next anchor' hproblems hanchor' =>
          obtain rfl := Option.some.inj (hanchor.symm.trans hanchor')
          rw [hselect, Py.ok_bind] at hrun
          obtain ⟨asking, hasking, hresult⟩ := Py.bind_eq_ok.mp hrun
          obtain rfl := Except.ok.inj hresult
          refine ⟨asking, hasking, rfl, ?_⟩
          intro door' asking' hasking'
          rw [if_neg hread, hserved, Py.ok_bind, hproblems, hanchor]
          simp only
          rw [hselect, Py.ok_bind]
          simp only
          rw [hasking']
          exact ⟨_, rfl, rfl⟩
      next => cases hrun

variable {chain : List CarriedCheckpoint} {xReply : Reply} {k : Int} {served : Served}
  (hserved : servedRecords T xReply = .ok served) {anchor : CarriedCheckpoint}
  (hanchor : served.anchor = some anchor) {sampled : List String} {selection : Selection}
  (hselect : selectReferences T x anchor served.records chain k = .ok (sampled, selection))
  {nodeId : String} (hasked : sampled[i]? = some nodeId)
  (hreachable : reachable peerMap nodeId = true) (hadds : AddsRecord T record i door door')

include hserved hanchor hselect hasked hreachable hadds

/-- One more record in an answer moves the tallies by what it counts for. -/
theorem runReferences_adds {result : ReferencesResult}
    (hrun : runReferences T x peerMap door chain xReply k = .ok result) :
    ∃ result', runReferences T x peerMap door' chain xReply k = .ok result' ∧
      result'.tally = result.tally + contribution x record.receipt := by
  obtain ⟨asking, hasking, htally, hother⟩ :=
    runReferences_eq x peerMap hserved hanchor hselect hrun
  have hadded := askReferences_adds x peerMap hadds hreachable 0 sampled {} (Nat.zero_le i) hasked
  rw [hasking] at hadded
  obtain ⟨result', hrun', htally'⟩ := hother door' _ hadded
  refine ⟨result', hrun', ?_⟩
  rw [htally', htally]
  rfl

/-- A record that does not name the node leaves the tallies as they are exactly when none of its
verdicts names nobody. -/
theorem tallies_unchanged_iff (hunnamed : ¬NamesOwner x record.receipt)
    {result : ReferencesResult}
    (hrun : runReferences T x peerMap door chain xReply k = .ok result) :
    ∃ result', runReferences T x peerMap door' chain xReply k = .ok result' ∧
      (result'.tally = result.tally ↔ ¬OwnerlessVerdict record.receipt) := by
  obtain ⟨result', hrun', htally⟩ :=
    runReferences_adds x peerMap hserved hanchor hselect hasked hreachable hadds hrun
  refine ⟨result', hrun', ?_⟩
  rw [htally, Tally.add_eq_left_iff]
  exact contribution_eq_empty_iff x hunnamed

end

/-! ## One reference -/

/-- The own records of `x`, which name the reference `r`. -/
def xReplyNaming : Reply := oneReply (.range 0 0) [("counterparty_ref", .str "r")]

def silentDoor : ℕ → Posted := fun _ => .exchanged ⟨"request", [], none⟩

def doorWith (members : List (String × Json)) : ℕ → Posted :=
  Function.update silentDoor 0 (.exchanged (oneExchange (.correlation "x") members))

def runAboutX (door : ℕ → Posted) : Py ReferencesResult :=
  runReferences sealTools "x" [("r", "http://r")] door [] xReplyNaming 3

theorem addsRecord_doorWith {members : List (String × Json)}
    (hmembers : (Json.obj members).Proper id) :
    AddsRecord sealTools (oneRecord members) 0 silentDoor (doorWith members) where
  others j hj := Function.update_of_ne hj _ _
  answer := by
    refine ⟨_, _, [], [], rfl, Function.update_self 0 _ _, ?_, verified_oneReply .correlation hmembers⟩
    rfl

theorem select_xReplyNaming :
    ∃ selection, selectReferences sealTools "x" { oneAnchor with witnesses := [oneReceipt] }
      [oneRecord [("counterparty_ref", .str "r")]] [] 3 = .ok (["r"], selection) :=
  ⟨_, rfl⟩

theorem run_silentDoor : ∃ result, runAboutX silentDoor = .ok result ∧ result.tally = {} := by
  obtain ⟨selection, hselect⟩ := select_xReplyNaming
  obtain ⟨hok, -, -, -, -, hrefusal⟩ := oneReply_eq .first [("counterparty_ref", .str "r")]
  rw [runAboutX, runReferences, xReplyNaming, hok, hrefusal, servedRecords_oneReply .first (by simp)]
  simp only [Option.isSome_none, Bool.not_true, Bool.or_self, Bool.false_eq_true, if_false, Py.ok_bind]
  rw [hselect]
  exact ⟨_, rfl, rfl⟩

def corroboratedBlock : List (String × Json) :=
  [("adjudication", .obj [("verdict", .str "corroborated")]), ("nonce", .str "x")]

theorem runAboutX_adds {members : List (String × Json)} (hmembers : (Json.obj members).Proper id) :
    ∃ result', runAboutX (doorWith members) = .ok result' ∧
      result'.tally = contribution "x" members := by
  obtain ⟨selection, hselect⟩ := select_xReplyNaming
  obtain ⟨result, hrun, hempty⟩ := run_silentDoor
  obtain ⟨result', hrun', htally⟩ := runReferences_adds "x" [("r", "http://r")]
    (servedRecords_oneReply .first (by simp)) rfl hselect rfl (by decide)
    (addsRecord_doorWith hmembers) hrun
  refine ⟨result', hrun', ?_⟩
  rw [htally, hempty, Tally.empty_add]
  rfl

/-- A verdict that names nobody is counted about the node. -/
theorem ownerless_verdict_counted :
    ¬NamesOwner "x" corroboratedBlock ∧
      AddsRecord sealTools (oneRecord corroboratedBlock) 0 silentDoor (doorWith corroboratedBlock) ∧
      ∃ result result', runAboutX silentDoor = .ok result ∧
        runAboutX (doorWith corroboratedBlock) = .ok result' ∧
          result.tally = {} ∧ result'.tally = { corroborated := 1 } := by
  have hproper : (Json.obj corroboratedBlock).Proper id := by simp [corroboratedBlock]
  obtain ⟨result, hrun, hempty⟩ := run_silentDoor
  obtain ⟨result', hrun', htally⟩ := runAboutX_adds hproper
  refine ⟨?_, addsRecord_doorWith hproper, result, result', hrun, hrun', hempty, htally⟩
  rintro (⟨block, hblock, hnames⟩ | ⟨block, hblock, -⟩)
  · obtain rfl := List.mem_singleton.mp hblock
    exact absurd hnames (by decide)
  · cases hblock

/-- A verdict that names another node is not. -/
theorem plain_record_uncounted :
    ∃ result', runAboutX (doorWith attributedRecord) = .ok result' ∧
      (result'.tally = {} ↔ ¬OwnerlessVerdict attributedRecord) ∧
        ¬OwnerlessVerdict attributedRecord := by
  have hproper : (Json.obj attributedRecord).Proper id := by simp [attributedRecord]
  obtain ⟨selection, hselect⟩ := select_xReplyNaming
  obtain ⟨result, hrun, hempty⟩ := run_silentDoor
  have hunnamed : ¬NamesOwner "x" attributedRecord := by
    rintro (⟨block, hblock, hnames⟩ | ⟨block, hblock, -⟩)
    · obtain rfl := List.mem_singleton.mp hblock
      exact absurd hnames (by decide)
    · cases hblock
  have hattributed : ¬OwnerlessVerdict attributedRecord := by
    rintro ⟨block, hblock, hverdict⟩
    obtain rfl := List.mem_singleton.mp hblock
    rcases hverdict with hverdict | hverdict
    · exact absurd (Json.str.inj hverdict) (by decide)
    · exact absurd (Json.str.inj hverdict) (by decide)
  obtain ⟨result', hrun', hiff⟩ := tallies_unchanged_iff "x" [("r", "http://r")]
    (servedRecords_oneReply .first (by simp)) rfl hselect rfl (by decide)
    (addsRecord_doorWith hproper) hunnamed hrun
  rw [hempty] at hiff
  exact ⟨result', hrun', hiff, hattributed⟩

end CapsuleMesh.AskHistory
