import CapsuleMesh.Sidecar.BuildCapsule

/-!
# The stream of an attested client

A provider handles requests one after the other.  The counterparty it counts an
attested request under is the digest of that request's attestation bytes, so the
records of one client key are one stream only while the client repeats the same
attestation.
-/

namespace CapsuleMesh.Sidecar

open Python Sequence Library

/-- A provider-role sidecar with what it calls. -/
structure Provider where
  emit : Emit
  contract : EmitContract emit
  digests : Digests
  crypto : AttestationCrypto
  cfg : NodeConfig
  provider : cfg.role = .provider
  sha256_length : ∀ bytes, (crypto.sha256Hex bytes).length = 64

/-- One request: what the client sent, the rest of what `build_capsule` is given,
whether the upstream answered, and whether signing and recording succeed. -/
structure Exchange where
  headers : Headers
  rawBody : Bytes
  args : BuildArgs
  answered : Bool
  recorded : Bool

/-- A request that took a number, with the capsule recorded for it if there is one. -/
structure Entry where
  exchange : Exchange
  eval : BilateralEvalResult
  number : Int × Option Int
  capsule : Option Json

namespace Provider

def buildArgs (x : Exchange) (eval : BilateralEvalResult) : BuildArgs :=
  { x.args with bilateralEval := some eval }

/-- One request from the given counters and head: the entry it leads to, if it takes
a number, and the counters and head after it.  A request whose evaluation raises,
or that the upstream did not answer, never reaches `build_capsule`. -/
def handle (p : Provider) (counters : SequenceCounterStore) (head : Option String)
    (x : Exchange) : Option Entry × SequenceCounterStore × Option String :=
  match evaluateBilateralAttestation p.crypto x.headers x.rawBody x.args.requestJson with
  | .error _ => (none, counters, head)
  | .ok eval =>
      if x.answered then
        let args := buildArgs x eval
        let (number, counters') := takeNumber p.cfg args counters
        match emitServing p.emit p.digests p.cfg args number head head with
        | .ok capsule =>
          if x.recorded then
            (some ⟨x, eval, number, some capsule⟩, counters', capsuleIdOf capsule)
          else (some ⟨x, eval, number, none⟩, counters', head)
        | .error _ => (some ⟨x, eval, number, none⟩, counters', head)
      else (none, counters, head)

/-- The requests that took a number, in order. -/
def log (p : Provider) : SequenceCounterStore → Option String → List Exchange → List Entry
  | _, _, [] => []
  | counters, head, x :: xs =>
      let (entry, counters', head') := p.handle counters head x
      entry.toList ++ p.log counters' head' xs

/-- The run of a fresh provider. -/
def run (p : Provider) (exchanges : List Exchange) : List Entry := p.log ∅ none exchanges

end Provider

/-- The attestation bytes of a request whose attestation was found valid. -/
def Entry.attestation (crypto : AttestationCrypto) (e : Entry) : Option Bytes :=
  if e.eval.valid then presentedAttestation crypto e.exchange.headers else none

namespace Provider

/-- What the record of an entry tells the verifier. -/
def recordOf (p : Provider) (e : Entry) : PairSeq :=
  ⟨orUnknown (some p.cfg.nodeId), orUnknown (some (initiator (some e.eval))), e.number.1,
    .issued e.number.2⟩

/-- The ledger with the request each record was sealed for. -/
def sealed (p : Provider) (exchanges : List Exchange) : List Entry :=
  (p.run exchanges).filter fun e => e.capsule.isSome

def ledger (entries : List Entry) : List Json := entries.filterMap Entry.capsule

/-- The entry of a record sealed for a request whose attestation verified under the
client key `pk`; `keyOf` is the key a PEM text stands for. -/
def Mine {κ : Type} [DecidableEq κ] (p : Provider) (keyOf : Bytes → κ) (pk : κ) (e : Entry) :
    Bool :=
  e.capsule.isSome && e.eval.valid &&
    decide ((presentedKey p.crypto e.exchange.headers).map keyOf = some pk)

section ClientKey

variable {κ : Type} [DecidableEq κ] (p : Provider) (keyOf : Bytes → κ) (pk : κ)

/-- All records of the client key carry one pair key and consecutive numbers, and
dropping any of them but the last adds one to the gaps reported for the pair. -/
def OneStream (exchanges : List Exchange) : Prop :=
  ((p.run exchanges).filter (p.Mine keyOf pk)).IsChain (fun a b =>
    (p.recordOf a).key = (p.recordOf b).key ∧ b.number.1 = a.number.1 + 1) ∧
  ∀ before e after, p.sealed exchanges = before ++ e :: after → p.Mine keyOf pk e = true →
    (∃ later ∈ after, p.Mine keyOf pk later = true) →
    ∃ whole dropped full less,
      verifyPairContinuity extractPairSeq none (ledger (p.sealed exchanges)) = .ok whole ∧
      verifyPairContinuity extractPairSeq none (ledger (before ++ after)) = .ok dropped ∧
      entryOf whole (p.recordOf e).key = some full ∧
      entryOf dropped (p.recordOf e).key = some less ∧
      less.gapsDetected = full.gapsDetected.add 1

/-- Any two successive records of the client key were sealed for the same
attestation bytes, and no request in between took a number under these bytes. -/
def SameAttestation (exchanges : List Exchange) : Prop :=
  ∀ before a mid b after, p.run exchanges = before ++ a :: (mid ++ b :: after) →
    p.Mine keyOf pk a = true → p.Mine keyOf pk b = true →
    (∀ e ∈ mid, p.Mine keyOf pk e = false) →
    a.attestation p.crypto = b.attestation p.crypto ∧
      ∀ e ∈ mid, e.attestation p.crypto ≠ a.attestation p.crypto

end ClientKey

/-! ## The numbers of a run -/

/-- A request takes a number for its counterparty or changes nothing. -/
theorem handle_spec (p : Provider) (counters : SequenceCounterStore) (head : Option String)
    (x : Exchange) :
    p.handle counters head x = (none, counters, head) ∨
      ∃ e counters' head', p.handle counters head x = (some e, counters', head') ∧
        e.exchange = x ∧
        evaluateBilateralAttestation p.crypto x.headers x.rawBody x.args.requestJson = .ok e.eval ∧
        nextSeq counters p.cfg.nodeId (some (initiator (some e.eval))) = (e.number, counters') ∧
        ∀ capsule, e.capsule = some capsule →
          extractPairSeq capsule = .ok (some (p.recordOf e)) := by
  unfold handle
  cases heval : evaluateBilateralAttestation p.crypto x.headers x.rawBody x.args.requestJson with
  | error err => exact .inl rfl
  | ok eval =>
      cases hanswered : x.answered with
      | false => exact .inl (by simp)
      | true =>
        right
        have hparty : counterpartyId p.cfg (buildArgs x eval) = initiator (some eval) := by
          simp [counterpartyId, requestingParty, p.provider, buildArgs]
        have htake : takeNumber p.cfg (buildArgs x eval) counters =
            nextSeq counters p.cfg.nodeId (some (initiator (some eval))) := by
          simp [takeNumber, hparty]
        obtain ⟨⟨number, counters'⟩, hnumber⟩ :
            ∃ r, nextSeq counters p.cfg.nodeId (some (initiator (some eval))) = r := ⟨_, rfl⟩
        simp only [htake, hnumber, if_true]
        cases hemit : emitServing p.emit p.digests p.cfg (buildArgs x eval) number head head with
        | error err => exact ⟨_, _, _, rfl, rfl, rfl, hnumber, by simp⟩
        | ok capsule =>
          cases x.recorded with
          | false => exact ⟨_, _, _, rfl, rfl, rfl, hnumber, by simp⟩
          | true =>
            refine ⟨_, _, _, rfl, rfl, rfl, hnumber, ?_⟩
            rintro _ ⟨⟩
            have hextract := extractPairSeq_sealed p.contract hemit
            rwa [hparty] at hextract

/-- What every entry of a log is. -/
theorem mem_log {p : Provider} {counters : SequenceCounterStore} {head : Option String}
    {exchanges : List Exchange} {e : Entry} (h : e ∈ p.log counters head exchanges) :
    e.exchange ∈ exchanges ∧
      evaluateBilateralAttestation p.crypto e.exchange.headers e.exchange.rawBody
        e.exchange.args.requestJson = .ok e.eval ∧
      ∀ capsule, e.capsule = some capsule → extractPairSeq capsule = .ok (some (p.recordOf e)) := by
  induction exchanges generalizing counters head with
  | nil => simp [log] at h
  | cons x xs ih =>
      unfold log at h
      rcases p.handle_spec counters head x with hnone |
        ⟨e', counters', head', hsome, rfl, heval, -, hcapsule⟩
      · rw [hnone] at h
        obtain ⟨hmem, hrest⟩ := ih (by simpa using h)
        exact ⟨List.mem_cons_of_mem x hmem, hrest⟩
      · rw [hsome] at h
        rcases List.mem_append.mp h with h | h
        · obtain rfl : e = e' := by simpa using h
          exact ⟨by simp, heval, hcapsule⟩
        · obtain ⟨hmem, hrest⟩ := ih h
          exact ⟨List.mem_cons_of_mem _ hmem, hrest⟩

/-- The pair key of a counterparty. -/
def keyFor (p : Provider) (party : String) : String :=
  pairKey (orUnknown (some p.cfg.nodeId)) (some party)

theorem recordOf_key (p : Provider) (e : Entry) :
    (p.recordOf e).key = p.keyFor (initiator (some e.eval)) := by
  simp [PairSeq.key, recordOf, keyFor, pairKey]

/-- In every log the numbers of a pair are consecutive. -/
theorem consecutive_log (p : Provider) (counters : SequenceCounterStore) (head : Option String)
    (exchanges : List Exchange) (party : String) :
    Consecutive (counters.lookup (pairKey p.cfg.nodeId (some party)))
      (ofKey PairSeq.key (p.keyFor party) ((p.log counters head exchanges).map p.recordOf)) := by
  induction exchanges generalizing counters head with
  | nil => simp [log, Consecutive]
  | cons x xs ih =>
      unfold log
      rcases p.handle_spec counters head x with hnone |
        ⟨e, counters', head', hsome, -, -, hnumber, -⟩
      · rw [hnone]
        simpa using ih counters head
      · rw [hsome]
        obtain rfl : (nextSeq counters p.cfg.nodeId (some (initiator (some e.eval)))).2 =
            counters' := by rw [hnumber]
        have ih := ih (nextSeq counters p.cfg.nodeId (some (initiator (some e.eval)))).2 head'
        simp only [Option.toList_some, List.singleton_append, List.map_cons]
        by_cases hkey : (p.recordOf e).key = p.keyFor party
        · have hsame : pairKey p.cfg.nodeId (some (initiator (some e.eval))) =
              pairKey p.cfg.nodeId (some party) := by
            rw [recordOf_key, keyFor, keyFor, pairKey_right_inj] at hkey
            exact pairKey_right_inj.mpr hkey
          rw [ofKey_cons_same hkey, ← hsame]
          have hprev := congrArg (fun r => r.1.2) hnumber
          have hseq := congrArg (fun r => r.1.1) hnumber
          refine ⟨congrArg PrevSeq.issued hprev.symm, hseq.symm, ?_⟩
          rw [← hsame, nextSeq_lookup_same] at ih
          have hseq' : (p.recordOf e).seq = (counters.lookup
              (pairKey p.cfg.nodeId (some (initiator (some e.eval))))).getD 0 + 1 := hseq.symm
          rwa [hseq']
        · rw [ofKey_cons_ne hkey]
          have hne : pairKey p.cfg.nodeId (some party) ≠
              pairKey p.cfg.nodeId (some (initiator (some e.eval))) := by
            intro heq
            refine hkey ?_
            rw [recordOf_key, keyFor, keyFor, pairKey_right_inj]
            exact (pairKey_right_inj.mp heq).symm
          rwa [nextSeq_lookup_ne _ hne] at ih

theorem consecutive_run (p : Provider) (exchanges : List Exchange) (e : Entry) :
    Consecutive none
      (ofKey PairSeq.key (p.recordOf e).key ((p.run exchanges).map p.recordOf)) := by
  rw [recordOf_key]
  exact p.consecutive_log ∅ none exchanges _

theorem honest_sealed (p : Provider) (exchanges : List Exchange) {entries : List Entry}
    (hsub : entries.Sublist (p.sealed exchanges)) : ∀ r ∈ entries.map p.recordOf, r.Honest := by
  intro r hr
  obtain ⟨e, he, rfl⟩ := List.mem_map.mp hr
  have hrun : e ∈ p.run exchanges := List.filter_sublist.subset (hsub.subset he)
  exact (p.consecutive_run exchanges e).honest _ (mem_ofKey.mpr ⟨List.mem_map_of_mem hrun, rfl⟩)

/-! ## Dropping a record -/

/-- The entries of one pair. -/
def pairOf (p : Provider) (k : String) (entries : List Entry) : List Entry :=
  ofKey (fun e => (p.recordOf e).key) k entries

theorem pairOf_append (p : Provider) (k : String) (entries entries' : List Entry) :
    p.pairOf k (entries ++ entries') = p.pairOf k entries ++ p.pairOf k entries' :=
  ofKey_append _ k entries entries'

theorem pairOf_cons_same (p : Provider) {k : String} {e : Entry} (h : (p.recordOf e).key = k)
    (entries : List Entry) : p.pairOf k (e :: entries) = e :: p.pairOf k entries := by
  simp [pairOf, ofKey, h]

/-- The verifier reads back the records of any part of the ledger. -/
theorem mapM_ledger {p : Provider} {exchanges : List Exchange} {entries : List Entry}
    (hsub : ∀ e ∈ entries, e ∈ p.sealed exchanges) :
    (ledger entries).mapM extractPairSeq = .ok (entries.map fun e => some (p.recordOf e)) := by
  induction entries with
  | nil => rfl
  | cons e entries ih =>
      obtain ⟨hrun, hcapsule⟩ := List.mem_filter.mp (hsub e (by simp))
      obtain ⟨capsule, hcapsule⟩ := Option.isSome_iff_exists.mp hcapsule
      have hextract := (mem_log hrun).2.2 capsule hcapsule
      have ih := ih fun e he => hsub e (by simp [he])
      simp only [ledger, List.filterMap_cons_some hcapsule] at ih ⊢
      simp [List.mapM_cons, hextract, ih]

/-- The report on part of the ledger accounts for each of its pairs: gaps and
records make up the last number. -/
theorem entryOf_part {p : Provider} {exchanges : List Exchange} {entries : List Entry}
    (hsub : entries.Sublist (p.sealed exchanges)) {k : String} {last : Entry}
    (hlast : (p.pairOf k entries).getLast? = some last) :
    ∃ report entry, verifyPairContinuity extractPairSeq none (ledger entries) = .ok report ∧
      entryOf report k = some entry ∧
      entry.gapsDetected = .int (last.number.1 - (p.pairOf k entries).length) := by
  have hk : (p.recordOf last).key = k := (mem_ofKey.mp (List.mem_of_getLast? hlast)).2
  subst hk
  have hreduce : (entries.map fun e => some (p.recordOf e)).reduceOption =
      entries.map p.recordOf := by
    simp [List.reduceOption, List.filterMap_map]
  have hofKey := ofKey_map PairSeq.key p.recordOf (p.recordOf last).key entries
  have hne : ofKey PairSeq.key (p.recordOf last).key (entries.map p.recordOf) ≠ [] := by
    intro hnil
    rw [hofKey, List.map_eq_nil_iff] at hnil
    simp [pairOf, hnil] at hlast
  have hstream := p.consecutive_run exchanges last
  have hsub' : (ofKey PairSeq.key (p.recordOf last).key (entries.map p.recordOf)).Sublist
      (ofKey PairSeq.key (p.recordOf last).key ((p.run exchanges).map p.recordOf)) :=
    ((hsub.trans List.filter_sublist).map _).filter _
  obtain ⟨hprior, -, hsum⟩ :=
    PairCell.foldl_increasing (fun r hr => hstream.honest r (hsub'.subset hr))
      (hstream.pairwise.sublist hsub')
  obtain ⟨entry, hentry, hgaps, hcount, -, -⟩ := entryOf_walk hne none
  have hhonest : ∀ r ∈ (entries.map fun e => some (p.recordOf e)).reduceOption, r.Honest := by
    rw [hreduce]
    exact p.honest_sealed exchanges hsub
  refine ⟨_, entry, verifyPairContinuity_ok (mapM_ledger fun e he => hsub.subset he) hhonest none,
    by rw [hreduce]; exact hentry, ?_⟩
  have hlength : (p.pairOf (p.recordOf last).key entries).length =
      (ofKey PairSeq.key (p.recordOf last).key (entries.map p.recordOf)).length := by
    rw [hofKey, List.length_map]
    rfl
  have hpair : ofKey (fun e => (p.recordOf e).key) (p.recordOf last).key entries =
      p.pairOf (p.recordOf last).key entries := rfl
  have hfinal : ((ofKey PairSeq.key (p.recordOf last).key
      (entries.map p.recordOf)).getLast?.map PairSeq.seq) = some last.number.1 := by
    rw [hofKey, hpair, List.getLast?_map, hlast]
    rfl
  rw [hprior, hfinal, Option.getD_some, ← hgaps, PairCell.foldl_count, ← hlength] at hsum
  simpa [PairCell.start] using hsum

/-- The pair of a record that is followed by another record of its pair ends with
the same entry when the record is dropped, and is one shorter. -/
theorem pairOf_drop {p : Provider} (before : List Entry) {after : List Entry} {e later : Entry}
    (hlater : later ∈ after) (hkey : (p.recordOf later).key = (p.recordOf e).key) :
    ∃ last, (p.pairOf (p.recordOf e).key (before ++ e :: after)).getLast? = some last ∧
      (p.pairOf (p.recordOf e).key (before ++ after)).getLast? = some last ∧
      (p.pairOf (p.recordOf e).key (before ++ e :: after)).length =
        (p.pairOf (p.recordOf e).key (before ++ after)).length + 1 := by
  have hmem : later ∈ p.pairOf (p.recordOf e).key after := mem_ofKey.mpr ⟨hlater, hkey⟩
  obtain ⟨last, hlast⟩ : ∃ last, (p.pairOf (p.recordOf e).key after).getLast? = some last :=
    ⟨_, List.getLast?_eq_some_getLast (List.ne_nil_of_mem hmem)⟩
  have hcons := p.pairOf_cons_same (Eq.refl (p.recordOf e).key) after
  refine ⟨last, ?_, ?_, ?_⟩
  · rw [pairOf_append, hcons, ← List.singleton_append, ← List.append_assoc, List.getLast?_append,
      hlast]
    rfl
  · rw [pairOf_append, List.getLast?_append, hlast]
    rfl
  · rw [pairOf_append, pairOf_append, hcons, List.length_append, List.length_append,
      List.length_cons]
    omega

/-! ## Who an entry is counted under -/

theorem initiator_of_attestation {p : Provider} {exchanges : List Exchange} {e : Entry}
    (he : e ∈ p.run exchanges) :
    initiator (some e.eval) =
      match e.attestation p.crypto with
      | some raBytes => p.crypto.sha256Hex raBytes
      | none => "unknown" := by
  obtain ⟨-, heval, -⟩ := mem_log he
  cases hvalid : e.eval.valid with
  | false => simp [initiator, bilateralVerified, Entry.attestation, hvalid]
  | true =>
      obtain ⟨raBytes, hra, href⟩ := evaluateBilateralAttestation_valid heval hvalid
      have hne : p.crypto.sha256Hex raBytes ≠ "" := by
        intro h
        have := p.sha256_length raBytes
        simp [h] at this
      simp [initiator, bilateralVerified, Entry.attestation, hvalid, hra, href, hne]

theorem attestation_of_valid {p : Provider} {exchanges : List Exchange} {e : Entry}
    (he : e ∈ p.run exchanges) (hvalid : e.eval.valid = true) :
    ∃ raBytes, e.attestation p.crypto = some raBytes := by
  obtain ⟨-, heval, -⟩ := mem_log he
  obtain ⟨raBytes, hra, -⟩ := evaluateBilateralAttestation_valid heval hvalid
  exact ⟨raBytes, by simp [Entry.attestation, hvalid, hra]⟩

/-- The attestations that the requests of a run present. -/
def presented (p : Provider) (exchanges : List Exchange) : Set Bytes :=
  {bytes | ∃ x ∈ exchanges, presentedAttestation p.crypto x.headers = some bytes}

theorem attestation_mem_presented {p : Provider} {exchanges : List Exchange} {e : Entry}
    (he : e ∈ p.run exchanges) {raBytes : Bytes} (h : e.attestation p.crypto = some raBytes) :
    raBytes ∈ p.presented exchanges := by
  refine ⟨e.exchange, (mem_log he).1, ?_⟩
  unfold Entry.attestation at h
  split_ifs at h
  exact h

/-- Two entries share a pair key exactly when they share their attestation. -/
theorem key_eq_iff {p : Provider} {exchanges : List Exchange}
    (hsha : Set.InjOn p.crypto.sha256Hex (p.presented exchanges)) {a e : Entry}
    (ha : a ∈ p.run exchanges) (he : e ∈ p.run exchanges) (hvalid : a.eval.valid = true) :
    (p.recordOf e).key = (p.recordOf a).key ↔ e.attestation p.crypto = a.attestation p.crypto := by
  have hlong : ∀ bytes, orUnknown (some (p.crypto.sha256Hex bytes)) = p.crypto.sha256Hex bytes := by
    intro bytes
    have hne : p.crypto.sha256Hex bytes ≠ "" := by
      intro h
      have := p.sha256_length bytes
      simp [h] at this
    simp [orUnknown, hne]
  obtain ⟨raBytes, hra⟩ := attestation_of_valid ha hvalid
  rw [recordOf_key, recordOf_key, keyFor, keyFor, pairKey_right_inj, initiator_of_attestation ha,
    initiator_of_attestation he, hra]
  simp only [hlong]
  cases hatt : e.attestation p.crypto with
  | none =>
      simp only [reduceCtorEq, iff_false]
      intro h
      have := p.sha256_length raBytes
      rw [← h] at this
      revert this
      decide
  | some bytes =>
      simp only [hlong, Option.some.injEq]
      exact hsha.eq_iff (attestation_mem_presented he hatt) (attestation_mem_presented ha hra)

section ClientStream

variable {κ : Type} [DecidableEq κ] {p : Provider} {keyOf : Bytes → κ} {pk : κ}
  {exchanges : List Exchange}

theorem Mine.valid {e : Entry} (h : p.Mine keyOf pk e = true) : e.eval.valid = true := by
  simp only [Mine, Bool.and_eq_true] at h
  exact h.1.2

/-- Of two entries of one pair, the second has the next number exactly when no entry
between them belongs to the pair. -/
theorem next_number_iff {before mid after : List Entry} {a b : Entry}
    (hrun : p.run exchanges = before ++ a :: (mid ++ b :: after))
    (hkey : (p.recordOf b).key = (p.recordOf a).key) :
    b.number.1 = a.number.1 + 1 ↔ ∀ e ∈ mid, (p.recordOf e).key ≠ (p.recordOf a).key := by
  have hcons := p.consecutive_run exchanges a
  rw [ofKey_map, ← pairOf, hrun, pairOf_append] at hcons
  rw [p.pairOf_cons_same rfl, pairOf_append, p.pairOf_cons_same hkey, List.map_append,
    List.map_cons, List.map_append, List.map_cons] at hcons
  have hseqa : a.number.1 = _ := hcons.seq_eq_length
  rw [← List.cons_append, ← List.append_assoc] at hcons
  have hseqb : b.number.1 = _ := hcons.seq_eq_length
  simp only [List.length_append, List.length_cons, List.length_map] at hseqa hseqb
  have hnil : (p.pairOf (p.recordOf a).key mid).length = 0 ↔
      ∀ e ∈ mid, (p.recordOf e).key ≠ (p.recordOf a).key := by
    rw [List.length_eq_zero_iff, pairOf, ofKey, List.filter_eq_nil_iff]
    simp
  rw [← hnil, hseqa, hseqb]
  omega

/-- The records of the client key form one stream exactly when each of them repeats
the attestation of the one before, with no number taken under it in between. -/
theorem oneStream_iff_sameAttestation
    (hsha : Set.InjOn p.crypto.sha256Hex (p.presented exchanges)) :
    p.OneStream keyOf pk exchanges ↔ p.SameAttestation keyOf pk exchanges := by
  have hchain : ((p.run exchanges).filter (p.Mine keyOf pk)).IsChain (fun a b =>
      (p.recordOf a).key = (p.recordOf b).key ∧ b.number.1 = a.number.1 + 1) ↔
      p.SameAttestation keyOf pk exchanges := by
    rw [isChain_filter_iff, SameAttestation]
    refine forall₅_congr fun before a mid b after => ?_
    refine forall_congr' fun hrun => forall_congr' fun hma => forall_congr' fun hmb =>
      forall_congr' fun _ => ?_
    have hmem : ∀ e, e = a ∨ e ∈ mid ∨ e = b → e ∈ p.run exchanges := by
      intro e he
      rw [hrun]
      rcases he with rfl | he | rfl <;> simp_all
    have ha := hmem a (.inl rfl)
    have hb := hmem b (.inr (.inr rfl))
    rw [eq_comm (a := (p.recordOf a).key), key_eq_iff hsha ha hb (Mine.valid hma),
      eq_comm (a := b.attestation p.crypto)]
    refine and_congr_right fun hatt => ?_
    have hkey := (key_eq_iff hsha ha hb (Mine.valid hma)).mpr hatt.symm
    rw [next_number_iff hrun hkey]
    refine forall₂_congr fun e he => ?_
    rw [Ne, Ne, key_eq_iff hsha ha (hmem e (.inr (.inl he))) (Mine.valid hma)]
  rw [OneStream, hchain, and_iff_left_iff_imp]
  intro hsame before e after hsealed hme hlater
  obtain ⟨later, hlater, hml⟩ := hlater
  -- all records of the client key share one pair key
  have hkeys : ((p.run exchanges).filter (p.Mine keyOf pk)).Pairwise
      fun a b => (p.recordOf a).key = (p.recordOf b).key := by
    have htrans : IsTrans Entry fun a b => (p.recordOf a).key = (p.recordOf b).key :=
      ⟨fun _ _ _ h h' => h.trans h'⟩
    exact List.isChain_iff_pairwise.mp ((hchain.mpr hsame).imp fun _ _ h => h.1)
  have hfilter : (p.run exchanges).filter (p.Mine keyOf pk) =
      (before ++ e :: after).filter (p.Mine keyOf pk) := by
    rw [← hsealed, Provider.sealed, List.filter_filter]
    refine List.filter_congr fun x _ => ?_
    simp only [Mine]
    cases x.capsule.isSome <;> simp
  have hkey : (p.recordOf later).key = (p.recordOf e).key := by
    rw [hfilter, List.filter_append, List.filter_cons_of_pos hme] at hkeys
    obtain ⟨-, hpair, -⟩ := List.pairwise_append.mp hkeys
    exact ((List.pairwise_cons.mp hpair).1 later (List.mem_filter.mpr ⟨hlater, hml⟩)).symm
  obtain ⟨last, hwhole, hdropped, hlength⟩ := pairOf_drop before hlater hkey
  have hsub : (before ++ after).Sublist (p.sealed exchanges) := by
    rw [hsealed]
    exact List.Sublist.append_left (List.sublist_cons_self _ _) _
  rw [← hsealed] at hwhole hlength
  obtain ⟨whole, full, hw, hfull, hsum⟩ := entryOf_part (List.Sublist.refl _) hwhole
  obtain ⟨dropped, less, hd, hless, hsum'⟩ := entryOf_part hsub hdropped
  refine ⟨whole, dropped, full, less, hw, hd, hfull, hless, ?_⟩
  rw [hlength] at hsum
  push_cast at hsum
  rw [hsum, hsum', Gaps.add, Gaps.int.injEq]
  omega

end ClientStream

end Provider

/-! ## Two attestations of one client -/

def ascii (s : String) : Bytes := s.toList.map fun c => UInt8.ofNat c.toNat

/-- The SHA-256 digest of the two bytes of an empty JSON object. -/
def emptyBodyDigest : String := "44136fa355b3678a1146ad16f7e8649e94fb4fc21fe77e8310c060f61caaff8a"

/-- A request attestation for an empty body, with the given nonce. -/
def nonceAttestation (nonce : String) : Bytes :=
  ascii ("\x7b\"nonce\":\"" ++ nonce ++ "\",\"request_digest\":\"" ++ emptyBodyDigest ++ "\"\x7d")

def nonceHeader (c : String) : String :=
  "eyJub25jZSI6Ij" ++ c ++ "iLCJyZXF1ZXN0X2RpZ2VzdCI6IjQ0MTM2ZmEzNTViMzY3OGExMTQ2YWQxNmY3ZTg2NDllOT" ++
    "RmYjRmYzIxZmU3N2U4MzEwYzA2MGY2MWNhYWZmOGEifQ"

/-- The attestation cryptography on the attestations with nonce `1` and `2`. -/
def nonceCrypto : AttestationCrypto where
  urlsafeB64decode := fun text =>
    if text = nonceHeader "E" ++ "==" then .ok (nonceAttestation "1")
    else if text = nonceHeader "I" ++ "==" then .ok (nonceAttestation "2")
    else .ok (ascii text)
  loads := fun bytes =>
    if bytes = nonceAttestation "1" then
      .ok (.obj [("nonce", .str "1"), ("request_digest", .str emptyBodyDigest)])
    else if bytes = nonceAttestation "2" then
      .ok (.obj [("nonce", .str "2"), ("request_digest", .str emptyBodyDigest)])
    else .error (.caught "not an attestation")
  verify := fun _ _ _ => .verified
  sha256Hex := fun bytes =>
    if bytes = nonceAttestation "1" then
      "1ee0d5fe2d782a6fcb6127d9155b359772f069ba5026c556c84c641aa4100668"
    else if bytes = nonceAttestation "2" then
      "56ff6ef5ef88aab52a06dbceac9e224cbbfb91ee9f4a7bed8a950b62549e9892"
    else emptyBodyDigest
  checkTime := fun _ => .current

def nonceProvider : Provider where
  emit := plainEmit
  contract := plainEmit_contract
  digests := plainDigests
  crypto := nonceCrypto
  cfg := plainConfig "node" .provider
  provider := rfl
  sha256_length := by
    intro bytes
    simp only [nonceCrypto]
    split_ifs <;> decide

/-- An answered and recorded request with the given attestation header, always under
the same client key. -/
def nonceExchange (header : String) : Exchange where
  headers := fun name =>
    if name = BILATERAL_RA_HEADER then some header
    else if name = BILATERAL_RA_SIG_HEADER then some "c2ln"
    else if name = BILATERAL_PUBKEY_HEADER then some "a2V5"
    else none
  rawBody := ascii "\x7b\x7d"
  args := { plainArgs header with requestJson := .obj [] }
  answered := true
  recorded := true

/-- Two requests of one client that differ in their nonce. -/
def twoNonces : List Exchange := [nonceExchange (nonceHeader "E"), nonceExchange (nonceHeader "I")]

/-- The two attestations have two digests, as the stream rule asks. -/
theorem oneStream_iff_sameAttestation_twoNonces :
    nonceProvider.OneStream id (ascii "a2V5==") twoNonces ↔
      nonceProvider.SameAttestation id (ascii "a2V5==") twoNonces := by
  refine Provider.oneStream_iff_sameAttestation ?_
  have hne : nonceAttestation "2" ≠ nonceAttestation "1" := by decide +kernel
  have hsha : nonceCrypto.sha256Hex (nonceAttestation "1") ≠
      nonceCrypto.sha256Hex (nonceAttestation "2") := by
    simp only [nonceCrypto, if_true, if_neg hne]
    decide
  have hfirst : presentedAttestation nonceCrypto (nonceExchange (nonceHeader "E")).headers =
      some (nonceAttestation "1") := by decide +kernel
  have hsecond : presentedAttestation nonceCrypto (nonceExchange (nonceHeader "I")).headers =
      some (nonceAttestation "2") := by decide +kernel
  have hpresented : ∀ bytes ∈ nonceProvider.presented twoNonces,
      bytes = nonceAttestation "1" ∨ bytes = nonceAttestation "2" := by
    rintro bytes ⟨x, hx, hbytes⟩
    rcases List.mem_pair.mp hx with rfl | rfl
    · exact .inl (Option.some.inj (hbytes.symm.trans hfirst))
    · exact .inr (Option.some.inj (hbytes.symm.trans hsecond))
  intro a ha b hb hab
  rcases hpresented a ha with rfl | rfl <;> rcases hpresented b hb with rfl | rfl
  · rfl
  · exact absurd hab hsha
  · exact absurd hab.symm hsha
  · rfl

/-- The two records of the client are filed under two pairs. -/
theorem fresh_nonce_splits_stream :
    ¬ ∀ (p : Provider) (pk : Bytes) (exchanges : List Exchange), p.OneStream id pk exchanges := by
  intro h
  have hchain := (h nonceProvider (ascii "a2V5==") twoNonces).1
  have hkey := (isChain_filter_iff.mp hchain [] _ [] _ [] rfl rfl rfl (by simp)).1
  revert hkey
  decide +kernel

end CapsuleMesh.Sidecar
