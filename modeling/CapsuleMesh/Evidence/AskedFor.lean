import CapsuleMesh.Evidence.ServedRecords
import CapsuleMesh.Python.Lines

/-!
# The records that were asked for

What `verified_records` lets through, for each form of subject.  A range and a full history are pinned
down by their ends and their count, and a record by its digest; nothing pins down what carries a
correlation identifier.
-/

namespace CapsuleMesh.AskHistory

open Python Evidence Library

/-! ## Increasing leaves -/

theorem add_length_le_last {a b : ℕ} {as : List ℕ} (h : (a :: as).Pairwise (· < ·))
    (hlast : (a :: as).getLast? = some b) : a + as.length ≤ b := by
  induction as generalizing a with
  | nil =>
      obtain rfl := Option.some.inj hlast
      exact le_rfl
  | cons c cs ih =>
      rw [List.getLast?_cons_cons] at hlast
      obtain ⟨hhead, htail⟩ := List.pairwise_cons.mp h
      have hc := hhead c List.mem_cons_self
      have hrest := ih htail hlast
      rw [List.length_cons]
      omega

/-- Increasing numbers are all those between their ends when there are as many of them. -/
theorem eq_range'_of_ends {a b : ℕ} {as : List ℕ} (h : as.Pairwise (· < ·))
    (hfirst : as.head? = some a) (hlast : as.getLast? = some b) (hcount : as.length = b + 1 - a) :
    as = List.range' a (b + 1 - a) := by
  rw [← hcount]
  induction as generalizing a with
  | nil => rfl
  | cons c cs ih =>
      obtain rfl := Option.some.inj hfirst
      obtain ⟨hhead, htail⟩ := List.pairwise_cons.mp h
      rw [List.length_cons, List.range'_succ]
      cases cs with
      | nil => rfl
      | cons d ds =>
        have hd := hhead d List.mem_cons_self
        rw [List.getLast?_cons_cons] at hlast
        have hle := add_length_le_last htail hlast
        rw [List.length_cons, List.length_cons] at hcount
        have hnext : d = c + 1 := by omega
        subst hnext
        rw [ih htail rfl hlast (by rw [List.length_cons]; omega)]
        simp

theorem exists_of_mem_left {α β : Type} {R : α → β → Prop} {as : List α} {bs : List β}
    (h : List.Forall₂ R as bs) {a : α} (ha : a ∈ as) : ∃ b ∈ bs, R a b := by
  induction h with
  | nil => cases ha
  | cons hhead _ ih =>
      rcases List.mem_cons.mp ha with rfl | ha
      · exact ⟨_, List.mem_cons_self, hhead⟩
      · obtain ⟨b, hb, hrelated⟩ := ih ha
        exact ⟨b, List.mem_cons_of_mem _ hb, hrelated⟩

theorem exists_of_mem_right {α β : Type} {R : α → β → Prop} {as : List α} {bs : List β}
    (h : List.Forall₂ R as bs) {b : β} (hb : b ∈ bs) : ∃ a ∈ as, R a b :=
  exists_of_mem_left h.flip hb

/-! ## One record of a set -/

section

variable (T : EvidenceTools) (anchor : CarriedCheckpoint)

/-- A record as it was taken from an entry of the artifact and its proof. -/
structure Taken (entry : Json × Bytes) (record : ServedRecord) : Prop where
  body : ∃ raw digest leaf, statedRecord entry.1 = .ok (raw, digest, leaf) ∧
    names T raw record.capsuleId = true ∧ record.receipt = parsedRecord T raw
  covered : record.leafIndex < anchor.covered
  proven : proves T.proof entry.2 record.leafIndex record.capsuleId anchor.served = .ok true

variable {T anchor}

theorem leafUnder_eq_some {leaf : Json} {n : ℕ} (h : leafUnder anchor leaf = some n) :
    leaf = .int n ∧ n < anchor.covered := by
  cases leaf with
  | int i =>
      rw [leafUnder] at h
      split at h
      next hrange =>
          obtain rfl := Option.some.inj h
          exact ⟨by rw [Int.toNat_of_nonneg hrange.1], by omega⟩
      next => cases h
  | _ => cases h

theorem takeRecord_eq_ok {last : Option ℕ} {i : ℕ} {record : Json} {proof : Bytes}
    {served : ServedRecord} (h : takeRecord T anchor last i record proof = .ok (.ok served)) :
    Taken T anchor (record, proof) served ∧ ∀ l ∈ last, l < served.leafIndex := by
  unfold takeRecord at h
  cases hstated : statedRecord record with
  | error e =>
      rw [hstated] at h
      cases h
  | ok stated =>
      obtain ⟨raw, digest, leaf⟩ := stated
      rw [hstated] at h
      simp only at h
      split at h
      next => cases h
      next named hnamed =>
          split at h
          next => cases h
          next n hleaf =>
              obtain ⟨hdigest, hnames⟩ := Option.filter_eq_some_iff.mp hnamed
              split at h
              next => cases h
              next horder =>
                  obtain ⟨proven, hproves, h⟩ := Py.bind_eq_ok.mp h
                  cases proven with
                  | false => cases h
                  | true =>
                    obtain rfl := Except.ok.inj (Except.ok.inj h)
                    refine ⟨⟨⟨raw, digest, leaf, hstated, ?_, rfl⟩, (leafUnder_eq_some hleaf).2,
                      hproves⟩, ?_⟩
                    · exact (Bool.and_eq_true_iff.mp hnames).2
                    · intro l hl
                      obtain rfl := Option.mem_def.mp hl
                      simpa using horder

/-- The loop takes every entry, with increasing leaves. -/
theorem takeRecords_eq_ok {last : Option ℕ} {i : ℕ} {entries : List (Json × Bytes)}
    {out : List ServedRecord} (h : takeRecords T anchor last i entries = .ok (.ok out)) :
    List.Forall₂ (Taken T anchor) entries out ∧
      (last.toList ++ out.map ServedRecord.leafIndex).Pairwise (· < ·) := by
  induction entries generalizing last i out with
  | nil =>
      obtain rfl := Except.ok.inj (Except.ok.inj h)
      exact ⟨.nil, by cases last <;> simp⟩
  | cons entry entries ih =>
      obtain ⟨record, proof⟩ := entry
      obtain ⟨found, hfound, h⟩ := Py.bind_eq_ok.mp h
      cases found with
      | error problem => cases h
      | ok served =>
        obtain ⟨rest, hrest, h⟩ := Py.bind_eq_ok.mp h
        cases rest with
        | error problem => cases h
        | ok rest =>
          obtain rfl := Except.ok.inj (Except.ok.inj h)
          obtain ⟨htaken, hlast⟩ := takeRecord_eq_ok hfound
          obtain ⟨hall, hsorted⟩ := ih hrest
          refine ⟨.cons htaken hall, ?_⟩
          cases last with
          | none => exact hsorted
          | some l =>
            have hl := hlast l rfl
            apply List.pairwise_cons.mpr
            refine ⟨?_, hsorted⟩
            intro n hn
            rcases List.mem_cons.mp hn with rfl | hn
            · exact hl
            · exact hl.trans ((List.pairwise_cons.mp hsorted).1 n hn)

/-! ## The forms -/

theorem anchorOf_eq_ok {envelope : Envelope} {statement : Bytes}
    {body : Option (List (String × Json))} (h : anchorOf T envelope statement body = .ok (.ok anchor)) :
    stated T statement envelope = .ok (some anchor) := by
  obtain ⟨found, hfound, h⟩ := Py.bind_eq_ok.mp h
  cases found with
  | none => cases h
  | some cp =>
      simp only at h
      split at h
      · obtain rfl := Except.ok.inj (Except.ok.inj h)
        exact hfound
      · cases h

/-- The records of a set that has no problem. -/
structure FoundSet (T : EvidenceTools) (reply : Reply) (envelope : Envelope)
    (anchor : CarriedCheckpoint) (out : List ServedRecord) : Prop where
  entries : ∃ records proofs, listedRecords (bodyMembers reply) = some records ∧
    records.length = proofs.length ∧ List.Forall₂ (Taken T anchor) (records.zip proofs) out
  sorted : (out.map ServedRecord.leafIndex).Pairwise (· < ·)
  asked : setProblem envelope.subject anchor out = none
  stated : ∃ statement, stated T statement envelope = .ok (some anchor)

theorem servedSet_eq_ok {reply : Reply} {envelope : Envelope} {out : List ServedRecord}
    (h : servedSet T reply envelope = .ok ⟨out, some anchor, []⟩) :
    FoundSet T reply envelope anchor out := by
  unfold servedSet at h
  simp only at h
  split at h
  next => cases h
  next records hrecords =>
      split at h
      next => cases h
      next =>
          split at h
          next kind statement proofs hverification =>
              split at h
              next => cases h
              next hkinds =>
                  obtain ⟨found, hanchor, h⟩ := Py.bind_eq_ok.mp h
                  cases found with
                  | error problem => cases h
                  | ok cp =>
                    obtain ⟨taken, htaken, h⟩ := Py.bind_eq_ok.mp h
                    cases taken with
                    | error problem => cases h
                    | ok taken =>
                      simp only at h
                      split at h
                      next => cases h
                      next hasked =>
                          obtain ⟨rfl, hcp, -⟩ := Served.mk.inj (Except.ok.inj h)
                          obtain rfl := Option.some.inj hcp
                          obtain ⟨hall, hsorted⟩ := takeRecords_eq_ok htaken
                          rw [not_or, not_not, not_not] at hkinds
                          have hlength : records.length = (proofs.map Prod.snd).length := by
                            have hcount := congrArg List.length hkinds.2
                            rw [List.length_map, List.length_replicate] at hcount
                            rw [List.length_map, hcount]
                          exact ⟨⟨records, proofs.map Prod.snd, hrecords, hlength, hall⟩, hsorted,
                            hasked, statement, anchorOf_eq_ok hanchor⟩
          next => cases h

/-- The one record of an answer that has no problem. -/
structure FoundRecord (T : EvidenceTools) (envelope : Envelope) (digest : String)
    (anchor : CarriedCheckpoint) (record : ServedRecord) : Prop where
  named : envelope.artifactDigest = digest ∨ recordDigest T envelope.artifact = some digest
  capsuleId_eq : record.capsuleId = digest
  receipt_eq : record.receipt = parsedRecord T envelope.artifact
  proven : ∃ proof, proves T.proof proof record.leafIndex digest anchor.served = .ok true
  stated : ∃ statement, stated T statement envelope = .ok (some anchor)

theorem provenRecord_eq_ok {envelope : Envelope} {digest : String} {material : List (String × Bytes)}
    {out : List ServedRecord}
    (h : provenRecord T envelope digest material = .ok ⟨out, some anchor, []⟩) :
    ∃ leaf proof statement, out = [⟨leaf, digest, parsedRecord T envelope.artifact⟩] ∧
      proves T.proof proof leaf digest anchor.served = .ok true ∧
      stated T statement envelope = .ok (some anchor) := by
  unfold provenRecord at h
  split at h
  next => cases h
  next statement inclusion consistency hmaterial =>
      obtain ⟨found, hanchor, h⟩ := Py.bind_eq_ok.mp h
      cases found with
      | error problem => cases h
      | ok cp =>
        simp only at h
        split at h
        next => cases h
        next leaf hleaf =>
            obtain ⟨proven, hproves, h⟩ := Py.bind_eq_ok.mp h
            cases proven with
            | false => cases h
            | true =>
              simp only [Bool.not_true, Bool.false_eq_true, if_false] at h
              split at h
              next => cases h
              next =>
                  obtain ⟨rfl, hcp, -⟩ := Served.mk.inj (Except.ok.inj h)
                  obtain rfl := Option.some.inj hcp
                  exact ⟨leaf, inclusion, statement, rfl, hproves, anchorOf_eq_ok hanchor⟩

theorem servedRecord_eq_ok {reply : Reply} {envelope : Envelope} {digest : String}
    {out : List ServedRecord}
    (h : servedRecord T reply envelope digest = .ok ⟨out, some anchor, []⟩) :
    ∃ record, out = [record] ∧ FoundRecord T envelope digest anchor record := by
  unfold servedRecord at h
  simp only at h
  split at h
  next => cases h
  next hnamed =>
      split at h
      next => cases h
      next =>
          obtain ⟨leaf, proof, statement, rfl, hproves, hstated⟩ := provenRecord_eq_ok h
          refine ⟨_, rfl, ?_, rfl, rfl, ⟨proof, hproves⟩, statement, hstated⟩
          rw [Bool.and_eq_true, not_and_or, Bool.not_eq_true', Bool.not_eq_false, decide_eq_true_eq,
            decide_eq_true_eq, not_not] at hnamed
          exact hnamed

end

/-! ## What is let through -/

section

variable (T : EvidenceTools)

/-- The records of a checked reply. -/
inductive FoundAs (reply : Reply) (envelope : Envelope) (anchor : CarriedCheckpoint) :
    List ServedRecord → Prop
  | record {digest : String} {record : ServedRecord} (hsubject : envelope.subject = .record digest)
      (hfound : FoundRecord T envelope digest anchor record) : FoundAs reply envelope anchor [record]
  | set {records : List ServedRecord} (hsubject : ∀ digest, envelope.subject ≠ .record digest)
      (hfound : FoundSet T reply envelope anchor records) : FoundAs reply envelope anchor records

end

variable {T : EvidenceTools}

theorem servedRecords_eq_ok {reply : Reply} {served : Served}
    (h : servedRecords T reply = .ok served) (hproblems : served.problems = [])
    {attached : CarriedCheckpoint} (hattached : served.anchor = some attached) :
    ∃ envelope anchor, reply.envelope = some envelope ∧ attached = anchor.attach reply ∧
      FoundAs T reply envelope anchor served.records := by
  unfold servedRecords at h
  split at h
  next =>
      obtain rfl := Except.ok.inj h
      cases hproblems
  next envelope henvelope =>
      obtain ⟨found, hfound, h⟩ := Py.bind_eq_ok.mp h
      have hsome := (Option.filter_eq_some_iff.mp henvelope).1
      split at h
      next anchor hanchor hnone =>
          obtain rfl := Except.ok.inj h
          have heq : found = ⟨found.records, some anchor, []⟩ := by
            rw [← hanchor, ← hnone]
          refine ⟨envelope, anchor, hsome, (Option.some.inj hattached).symm, ?_⟩
          simp only at hproblems
          rw [if_pos (by rw [hproblems]; rfl)]
          unfold servedForm at hfound
          split at hfound
          next digest hsubject =>
              rw [heq] at hfound
              obtain ⟨record, hout, hrecord⟩ := servedRecord_eq_ok hfound
              rw [hout]
              exact .record hsubject hrecord
          next hsubject =>
              rw [heq] at hfound
              obtain ⟨-, hanchor, -⟩ := Served.mk.inj (Except.ok.inj hfound)
              cases hanchor
          next hrecord _ =>
              rw [heq] at hfound
              exact .set hrecord (servedSet_eq_ok hfound)
      next hnot =>
          obtain rfl := Except.ok.inj h
          exact absurd hproblems (hnot attached hattached)

/-- Records come with the anchor that they are under. -/
theorem anchor_of_servedRecords {reply : Reply} {served : Served}
    (h : servedRecords T reply = .ok served) (hne : served.records ≠ []) :
    ∃ attached, served.anchor = some attached := by
  unfold servedRecords at h
  split at h
  next =>
      obtain rfl := Except.ok.inj h
      exact absurd rfl hne
  next =>
      obtain ⟨found, -, h⟩ := Py.bind_eq_ok.mp h
      split at h
      next =>
          obtain rfl := Except.ok.inj h
          exact ⟨_, rfl⟩
      next =>
          obtain rfl := Except.ok.inj h
          exact absurd rfl hne

theorem verifiedRecords_eq_ok {reply : Reply} {records : List ServedRecord}
    (h : verifiedRecords T reply = .ok records) (hne : records ≠ []) :
    reply.ok = true ∧ ∃ envelope anchor, reply.envelope = some envelope ∧
      FoundAs T reply envelope anchor records := by
  unfold verifiedRecords at h
  split at h
  next =>
      obtain rfl := Except.ok.inj h
      exact absurd rfl hne
  next hchecked =>
      obtain ⟨served, hserved, h⟩ := Py.bind_eq_ok.mp h
      rw [Bool.not_eq_true, Bool.or_eq_false_iff, Bool.not_eq_false'] at hchecked
      obtain rfl := Except.ok.inj h
      have hproblems : served.problems = [] := by
        by_contra hsome
        apply hne
        simp [hsome]
      have hpositive : (if served.problems.isEmpty then served.records else []) = served.records := by
        rw [hproblems]
        rfl
      rw [hpositive] at hne ⊢
      obtain ⟨attached, hattached⟩ := anchor_of_servedRecords hserved hne
      obtain ⟨envelope, anchor, henvelope, -, hfound⟩ :=
        servedRecords_eq_ok hserved hproblems hattached
      exact ⟨hchecked.1, envelope, anchor, henvelope, hfound⟩

theorem when_eq_nil_iff {c : Bool} {problem : String} : when c problem = [] ↔ c = false := by
  cases c <;> simp [when]

/-- A reply that checks out answers the request that was asked. -/
theorem readReply_answers {exchange : Exchange} {key : Option String} {envelope : Envelope}
    (hok : (readReply T exchange key).ok = true)
    (henvelope : (readReply T exchange key).envelope = some envelope) {request : Json}
    (hrequest : exchange.request = some request) :
    ∃ asked, T.parseRequest request = .ok asked ∧ envelope.subject = asked.subject ∧
      envelope.derivation = asked.derivation := by
  unfold readReply at hok henvelope
  cases hparse : T.parseReply exchange.reply with
  | error exc =>
      rw [hparse] at hok
      cases hok
  | ok parsed =>
      rw [hparse] at hok henvelope
      cases parsed with
      | inl refusal => cases henvelope
      | inr parsed =>
        obtain rfl := Option.some.inj henvelope
        have herrors := List.isEmpty_iff.mp hok
        obtain ⟨hreadable, hnone⟩ := List.append_eq_nil_iff.mp herrors
        simp only [readRequest, hrequest] at hreadable hnone
        cases hasked : T.parseRequest request with
        | error exc =>
          rw [hasked] at hreadable
          cases hreadable
        | ok asked =>
          rw [hasked] at hnone
          refine ⟨asked, rfl, ?_⟩
          simp only [envelopeErrors, List.append_eq_nil_iff, when_eq_nil_iff, Option.any_some,
            Bool.not_eq_false', answersAsked, Bool.and_eq_true, decide_eq_true_eq] at hnone
          exact hnone.1.1.1.2

/-! ## The records asked for -/

/-- Each record is the entry of its leaf, and each leaf is there once. -/
structure Committed (log : LogRange) (records : List ServedRecord) : Prop where
  entry : ∀ record ∈ records, ∃ entry, bytesFromHex record.capsuleId = .ok entry ∧
    log.entries[record.leafIndex]? = some entry
  sorted : (records.map ServedRecord.leafIndex).Pairwise (· < ·)

/-- The leaves, the name or the identifier that a subject asks for. -/
def AskedFor (log : LogRange) (subject : Subject) (records : List ServedRecord) : Prop :=
  match subject with
  | .record digest => ∃ record, records = [record] ∧ record.capsuleId = digest
  | .range a b => records.map ServedRecord.leafIndex = List.range' a (b + 1 - a)
  | .correlation id => ∀ record ∈ records, carriesCorrelation (.obj record.receipt) id = true
  | .fullHistory => records.map ServedRecord.leafIndex = List.range log.entries.length
  | _ => True

/-- The content of a record is the body that its digest names; the artifact's own digest is signed. -/
def Named (T : EvidenceTools) (envelope : Envelope) (record : ServedRecord) : Prop :=
  ∃ raw, record.receipt = parsedRecord T raw ∧ (names T raw record.capsuleId = true ∨
    (raw = envelope.artifact ∧ envelope.artifactDigest = record.capsuleId))

/-- Every body that the artifact lists carries the identifier that was asked for. -/
def BodiesCarry (T : EvidenceTools) (reply : Reply) (subject : Subject) : Prop :=
  ∀ id, subject = .correlation id → ∀ listed ∈ listedRecords (bodyMembers reply),
    ∀ record ∈ listed, ∀ stated, statedRecord record = .ok stated →
      carriesCorrelation (.obj (parsedRecord T stated.1)) id = true

theorem Taken.carries_iff {anchor : CarriedCheckpoint} {entry : Json × Bytes} {record : ServedRecord}
    (h : Taken T anchor entry record) (id : String) :
    carriesCorrelation (.obj record.receipt) id = true ↔
      ∀ stated, statedRecord entry.1 = .ok stated →
        carriesCorrelation (.obj (parsedRecord T stated.1)) id = true := by
  obtain ⟨raw, digest, leaf, hstated, -, hreceipt⟩ := h.body
  rw [hreceipt, hstated]
  constructor
  · intro hcarries stated heq
    obtain rfl := Except.ok.inj heq
    exact hcarries
  · intro hall
    exact hall _ rfl

theorem FoundSet.correlation_iff {reply : Reply} {envelope : Envelope} {anchor : CarriedCheckpoint}
    {out : List ServedRecord} (h : FoundSet T reply envelope anchor out) {id : String}
    (hsubject : envelope.subject = .correlation id) :
    (∀ record ∈ out, carriesCorrelation (.obj record.receipt) id = true) ↔
      BodiesCarry T reply envelope.subject := by
  obtain ⟨records, proofs, hlisted, hlength, htaken⟩ := h.entries
  rw [hsubject]
  constructor
  · intro hall other hother listed hmem record hrecord
    obtain rfl := Subject.correlation.inj hother
    obtain rfl := Option.some.inj (hlisted.symm.trans hmem)
    rw [← List.map_fst_zip hlength.le] at hrecord
    obtain ⟨entry, hentry, rfl⟩ := List.mem_map.mp hrecord
    obtain ⟨served, hserved, htake⟩ := exists_of_mem_left htaken hentry
    exact (htake.carries_iff id).mp (hall served hserved)
  · intro hbodies served hserved
    obtain ⟨entry, hentry, htake⟩ := exists_of_mem_right htaken hserved
    apply (htake.carries_iff id).mpr
    apply hbodies id rfl records hlisted
    rw [← List.map_fst_zip hlength.le]
    exact List.mem_map_of_mem hentry

theorem entry_of_proves {T : EvidenceTools} {log : LogRange} (hfree : log.CollisionFree T.proof.sha256)
    {anchor : ServedCheckpoint} (hlog : anchor = log.anchor T.proof.sha256) {proof : Bytes} {leaf : ℕ}
    {digest : String} (h : proves T.proof proof leaf digest anchor = .ok true) :
    ∃ entry, bytesFromHex digest = .ok entry ∧ log.entries[leaf]? = some entry := by
  subst hlog
  have hcovered : (log.anchor T.proof.sha256).covered = log.entries.length := rfl
  have hleaf : leaf < log.entries.length := by
    by_contra hout
    rw [proves, if_pos (.inr (by rw [hcovered]; omega))] at h
    cases h
  obtain ⟨-, hhex, -⟩ := (proves_eq_true_iff hfree hleaf).mp h
  refine ⟨log.entryAt leaf, hhex, ?_⟩
  rw [LogRange.entryAt, List.getD_eq_getElem?_getD, List.getElem?_eq_getElem hleaf, Option.getD_some]

theorem FoundSet.committed {reply : Reply} {envelope : Envelope}
    {anchor : CarriedCheckpoint} {out : List ServedRecord}
    (h : FoundSet T reply envelope anchor out) {log : LogRange}
    (hfree : log.CollisionFree T.proof.sha256)
    (hlog : anchor.served = log.anchor T.proof.sha256) : Committed log out where
  entry record hrecord := by
    obtain ⟨records, proofs, -, -, htaken⟩ := h.entries
    obtain ⟨entry, -, htake⟩ := exists_of_mem_right htaken hrecord
    exact entry_of_proves hfree hlog htake.proven
  sorted := h.sorted

theorem FoundRecord.committed {envelope : Envelope} {digest : String}
    {anchor : CarriedCheckpoint} {record : ServedRecord}
    (h : FoundRecord T envelope digest anchor record) {log : LogRange}
    (hfree : log.CollisionFree T.proof.sha256)
    (hlog : anchor.served = log.anchor T.proof.sha256) : Committed log [record] where
  entry other hother := by
    obtain rfl := List.mem_singleton.mp hother
    obtain ⟨proof, hproves⟩ := h.proven
    rw [h.capsuleId_eq]
    exact entry_of_proves hfree hlog hproves
  sorted := List.pairwise_singleton _ _

theorem ends_eq {out : List ServedRecord} (hne : out ≠ []) :
    ∃ first last, ends out = (first, last, out.length) ∧
      (out.map ServedRecord.leafIndex).head? = some first ∧
      (out.map ServedRecord.leafIndex).getLast? = some last := by
  refine ⟨(out.head hne).leafIndex, (out.getLast hne).leafIndex, ?_, ?_, ?_⟩
  · rw [ends, List.head?_eq_some_head hne, List.getLast?_eq_some_getLast hne]
    rfl
  · rw [List.head?_map, List.head?_eq_some_head hne, Option.map_some]
  · rw [List.getLast?_map, List.getLast?_eq_some_getLast hne, Option.map_some]

theorem FoundSet.leaves_of_range {reply : Reply} {envelope : Envelope} {anchor : CarriedCheckpoint}
    {out : List ServedRecord} (h : FoundSet T reply envelope anchor out) (hne : out ≠ []) {a b : ℕ}
    (hsubject : envelope.subject = .range a b) :
    out.map ServedRecord.leafIndex = List.range' a (b + 1 - a) := by
  obtain ⟨first, last, hends, hfirst, hlast⟩ := ends_eq hne
  have hasked := h.asked
  rw [setProblem, hends, hsubject] at hasked
  simp only at hasked
  split at hasked
  next hexact =>
      obtain ⟨rfl, rfl, hcount⟩ := hexact
      apply eq_range'_of_ends h.sorted hfirst hlast
      rw [List.length_map]
      omega
  next => cases hasked

theorem FoundSet.leaves_of_fullHistory {reply : Reply} {envelope : Envelope}
    {anchor : CarriedCheckpoint} {out : List ServedRecord}
    (h : FoundSet T reply envelope anchor out) (hne : out ≠ [])
    (hsubject : envelope.subject = .fullHistory) :
    out.map ServedRecord.leafIndex = List.range anchor.covered := by
  obtain ⟨first, last, hends, hfirst, hlast⟩ := ends_eq hne
  have hasked := h.asked
  rw [setProblem, hends, hsubject] at hasked
  simp only at hasked
  split at hasked
  next hexact =>
      obtain ⟨rfl, hlastLeaf, hcount⟩ := hexact
      have hall := eq_range'_of_ends h.sorted hfirst hlast (by rw [List.length_map]; omega)
      rw [hall, List.range_eq_range']
      congr 1
      omega
  next => cases hasked

theorem FoundAs.askedFor_iff {reply : Reply} {envelope : Envelope} {anchor : CarriedCheckpoint}
    {records : List ServedRecord} (h : FoundAs T reply envelope anchor records) (hne : records ≠ [])
    {log : LogRange} (hcovered : anchor.covered = log.entries.length) :
    AskedFor log envelope.subject records ↔ BodiesCarry T reply envelope.subject := by
  have hother : (∀ id, envelope.subject ≠ .correlation id) → BodiesCarry T reply envelope.subject := by
    intro hnot id hid
    exact absurd hid (hnot id)
  cases h with
  | record hsubject hfound =>
      rw [hsubject] at hother ⊢
      exact iff_of_true ⟨_, rfl, hfound.capsuleId_eq⟩ (hother (by simp))
  | set hform hfound =>
      unfold AskedFor
      split
      next digest hsubject => exact absurd hsubject (hform digest)
      next a b hsubject =>
          apply iff_of_true (hfound.leaves_of_range hne hsubject)
          exact hother (by simp [hsubject])
      next id hsubject => exact hfound.correlation_iff hsubject
      next hsubject =>
          rw [← hcovered]
          apply iff_of_true (hfound.leaves_of_fullHistory hne hsubject)
          exact hother (by simp [hsubject])
      next _ _ hnot _ => exact iff_of_true trivial (hother hnot)

theorem FoundAs.committed {reply : Reply} {envelope : Envelope} {anchor : CarriedCheckpoint}
    {records : List ServedRecord} (h : FoundAs T reply envelope anchor records) {log : LogRange}
    (hfree : log.CollisionFree T.proof.sha256)
    (hlog : anchor.served = log.anchor T.proof.sha256) : Committed log records := by
  cases h with
  | record _ hfound => exact hfound.committed hfree hlog
  | set _ hfound => exact hfound.committed hfree hlog

theorem FoundAs.stated {reply : Reply} {envelope : Envelope} {anchor : CarriedCheckpoint}
    {records : List ServedRecord} (h : FoundAs T reply envelope anchor records) :
    ∃ statement, stated T statement envelope = .ok (some anchor) := by
  cases h with
  | record _ hfound => exact hfound.stated
  | set _ hfound => exact hfound.stated

theorem FoundAs.named {reply : Reply} {envelope : Envelope} {anchor : CarriedCheckpoint}
    {records : List ServedRecord} (h : FoundAs T reply envelope anchor records) :
    ∀ record ∈ records, Named T envelope record := by
  intro record hrecord
  cases h with
  | record _ hfound =>
      obtain rfl := List.mem_singleton.mp hrecord
      refine ⟨envelope.artifact, hfound.receipt_eq, ?_⟩
      rw [hfound.capsuleId_eq]
      rcases hfound.named with hown | hline
      · exact .inr ⟨rfl, hown⟩
      · exact .inl (by rw [names, hline, decide_eq_true rfl, Bool.or_true])
  | set _ hfound =>
      obtain ⟨_, _, -, -, htaken⟩ := hfound.entries
      obtain ⟨entry, -, htake⟩ := exists_of_mem_right htaken hrecord
      obtain ⟨raw, _, _, -, hnames, hreceipt⟩ := htake.body
      exact ⟨raw, hreceipt, .inl hnames⟩

/-- What comes back from a reply are records of the log under its anchor, the ones asked for just
when no listed body lacks the correlation identifier. -/
theorem verified_exact_iff {reply : Reply} {records : List ServedRecord}
    (h : verifiedRecords T reply = .ok records) (hne : records ≠ []) :
    ∃ envelope anchor, reply.envelope = some envelope ∧
      (∃ statement, stated T statement envelope = .ok (some anchor)) ∧
      (∀ record ∈ records, Named T envelope record) ∧
      (∀ exchange key request, reply = readReply T exchange key → exchange.request = some request →
        ∃ asked, T.parseRequest request = .ok asked ∧ envelope.subject = asked.subject) ∧
      ∀ log : LogRange, log.CollisionFree T.proof.sha256 →
        anchor.served = log.anchor T.proof.sha256 →
          ((Committed log records ∧ AskedFor log envelope.subject records) ↔
            BodiesCarry T reply envelope.subject) := by
  obtain ⟨hok, envelope, anchor, henvelope, hfound⟩ := verifiedRecords_eq_ok h hne
  refine ⟨envelope, anchor, henvelope, hfound.stated, hfound.named, ?_, ?_⟩
  · rintro exchange key request rfl hrequest
    obtain ⟨asked, hasked, hsubject, -⟩ := readReply_answers hok henvelope hrequest
    exact ⟨asked, hasked, hsubject⟩
  · intro log hfree hlog
    have hcovered : anchor.covered = log.entries.length := congrArg ServedCheckpoint.covered hlog
    rw [and_iff_right (hfound.committed hfree hlog)]
    exact hfound.askedFor_iff hne hcovered

/-! ## An answer with one record -/

def sealDigest : Bytes := List.replicate 32 7

def sealHash (bytes : Bytes) : Bytes :=
  if bytes = 0 :: sealDigest then List.replicate 32 1 else sealDigest

def oneEntry : LogRange := ⟨[sealDigest], by decide⟩

/-- The artifact entry of the record at the first leaf. -/
def oneRow (members : List (String × Json)) : Json :=
  .obj [("body", .str (hexText (utf8 (Json.obj members).dumps))),
    ("digest", .str (hexText sealDigest)), ("leaf_index", .int 0)]

def oneArtifact (subject : Subject) (members : List (String × Json)) : Json :=
  .obj [("anchor", .str (hexText sealDigest)), ("evidence_stream", .str "log"),
    ("records", .arr [oneRow members]), ("subject", subject.toWire)]

def oneProof : Bytes := jcs (pathJson 0 [])

def oneEnvelope (subject : Subject) (artifact : Bytes) : Envelope where
  profile := "interop"
  requestDigest := "request"
  responder := "key"
  subject := subject
  derivation := none
  artifact := artifact
  artifactDigest := hexText sealDigest
  anchorDigest := hexText sealDigest
  freshness := .int 1
  verification := [(KIND_CHECKPOINT, []), (KIND_INCLUSION, oneProof)]

def readSubject (wire : Json) : Option Subject :=
  match wire with
  | .obj [("correlation", .str id)] => some (.correlation id)
  | .obj [("range", .arr [.int a, .int b])] => some (.range a.toNat b.toNat)
  | _ => none

/-- Replies that carry an artifact in hex, over a log with one entry. -/
def sealTools : EvidenceTools where
  proof := jsonTools sealHash
  parseReply raw := match decodeUtf8 raw >>= loads id with
    | .ok (.obj [("artifact", .str hex), ("subject", wire), ("witness_receipts", _)]) =>
        match readSubject wire, bytesFromHex hex with
        | some subject, .ok artifact => .ok (.inr (oneEnvelope subject artifact))
        | _, _ => .error "malformed"
    | _ => .error "not an envelope"
  parseRequest request := match request with
    | .obj [("subject", wire)] => match readSubject wire with
      | some subject => .ok ⟨subject, none, .minSize 0⟩
      | none => .error "malformed"
    | _ => .error "malformed"
  verifyRefusal _ := false
  refusalConformant _ := false
  verifyEnvelope _ := .ok ()
  profile := "interop"
  checkCllMaterial _ := ⟨"PASS", ""⟩
  isDigest digest := decide (digest.str?.any fun d => d.length = 64)
  verifyCheckpoint _ := some ⟨⟨1, 0, "root", "", "log", "2026-01-01T00:00:00Z"⟩,
    [.raw (List.replicate 32 1)], [], "key"⟩
  leafCount size := some size
  defaultTsUrl := "witness"
  defaultTsKey := []
  stamp _ _ pin := if pin.isSome then .witnessed else .unverified
  verifyConsistency _ _ _ := .ok ()
  consistencySizes _ := none
  parseUtc _ := none
  decodeJson := decodeUtf8
  floatRepr := id
  localOnlyFields := []
  jcs j := some (Python.jcs j)

/-- The receipt of the pinned witness. -/
def oneReceipt : WitnessRecord := ⟨"witness", "", "", 0, 1, false⟩

/-- What is sent back: the artifact, and the receipt for its checkpoint. -/
def oneOctets (subject : Subject) (artifact : Bytes) : Json :=
  .obj [("artifact", .str (hexText artifact)), ("subject", subject.toWire),
    ("witness_receipts", .arr [.obj [("checkpoint", .str (hexText sealDigest)),
      ("witness", .obj [("ts_url", .str "witness"), ("entry_hash", .str ""),
        ("receipt_b64", .str ""), ("leaf_index", .int 0), ("tree_size", .int 1)])]])]

def oneExchange (subject : Subject) (members : List (String × Json)) : Exchange :=
  ⟨"request", utf8 (oneOctets subject (utf8 (oneArtifact subject members).dumps)).dumps,
    some (.obj [("subject", subject.toWire)])⟩

def oneReply (subject : Subject) (members : List (String × Json)) : Reply :=
  readReply sealTools (oneExchange subject members) none

def oneRecord (members : List (String × Json)) : ServedRecord := ⟨0, hexText sealDigest, members⟩

def oneAnchor : CarriedCheckpoint where
  digest := hexText sealDigest
  statement := []
  record := ⟨1, 0, "root", "", "log", "2026-01-01T00:00:00Z"⟩
  peaks := [List.replicate 32 1]
  prevPeaks := []
  covered := 1
  coveredBefore := 0

theorem oneEntry_collisionFree : oneEntry.CollisionFree sealHash where
  length bytes := by
    rw [sealHash]
    split_ifs <;> rfl
  unique {bytes} hhashed other hsame := by
    have hbytes : bytes = 0 :: sealDigest := by
      cases hhashed with
      | leaf i hi =>
        obtain rfl : i = 0 := Nat.lt_one_iff.mp hi
        rfl
      | node h a hdvd hle =>
        have hone : a + 2 ^ (h + 1) ≤ 1 := hle
        have hlt : h + 1 < 2 ^ (h + 1) := Nat.lt_two_pow_self
        omega
    subst hbytes
    by_contra hother
    rw [sealHash, sealHash, if_neg hother, if_pos rfl] at hsame
    exact absurd hsame (by decide)

theorem jsonLoads_dumps {j : Json} (h : j.Proper id) : sealTools.jsonLoads (utf8 j.dumps) = .ok j := by
  change (decodeUtf8 (utf8 j.dumps) >>= loads id) = _
  rw [decodeUtf8_utf8, Py.ok_bind, loads_dumps h]

theorem proves_oneProof :
    proves sealTools.proof oneProof (0 : ℕ) (hexText sealDigest) oneAnchor.served = .ok true := by
  apply (proves_eq_true_iff (V := sealTools.proof) oneEntry_collisionFree Nat.one_pos).mpr
  refine ⟨parsePath_pathJson 0 [], bytesFromHex_hexText _, ?_⟩
  change (parsePath (jcs (pathJson 0 []))).any _ = true
  rw [parsePath_pathJson]
  decide

theorem statedRecord_oneRow (members : List (String × Json)) :
    statedRecord (oneRow members) =
      .ok (utf8 (Json.obj members).dumps, .str (hexText sealDigest), .int 0) := by
  have hbytes : statedRecord (oneRow members) =
      bytesFromHex (hexText (utf8 (Json.obj members).dumps)) >>= fun raw =>
        .ok (raw, .str (hexText sealDigest), .int 0) := rfl
  rw [hbytes, bytesFromHex_hexText, Py.ok_bind]

theorem parsedRecord_dumps {members : List (String × Json)}
    (hmembers : (Json.obj members).Proper id) :
    parsedRecord sealTools (utf8 (Json.obj members).dumps) = members := by
  rw [parsedRecord, jsonLoads_dumps hmembers]

theorem takeRecord_oneRow {members : List (String × Json)}
    (hmembers : (Json.obj members).Proper id) :
    takeRecord sealTools oneAnchor none 0 (oneRow members) oneProof =
      .ok (.ok (oneRecord members)) := by
  have hraw : sealHash (utf8 (Json.obj members).dumps) = sealDigest := by
    rw [sealHash, if_neg]
    intro h
    have hhead := congrArg List.head? h
    rw [Json.dumps, String.append_assoc, utf8_append, utf8_eq_flatMap "\x7b"] at hhead
    exact absurd hhead (by simp [String.utf8EncodeChar])
  have hdigest : (Json.str? (.str (hexText sealDigest))).filter (fun d =>
      sealTools.isDigest (.str (hexText sealDigest)) &&
        names sealTools (utf8 (Json.obj members).dumps) d) = some (hexText sealDigest) := by
    have hnames : names sealTools (utf8 (Json.obj members).dumps) (hexText sealDigest) = true := by
      rw [names, EvidenceTools.sha256Hex]
      change (decide (hexText (sealHash _) = _) || _) = true
      rw [hraw, decide_eq_true rfl, Bool.true_or]
    have hform : sealTools.isDigest (.str (hexText sealDigest)) = true := by decide
    rw [Json.str?, Option.filter_some, hform, hnames]
    rfl
  have hleaf : leafUnder oneAnchor (.int 0) = some 0 := rfl
  rw [takeRecord, statedRecord_oneRow]
  simp only [hdigest, hleaf, Option.any_none]
  rw [proves_oneProof, parsedRecord_dumps hmembers]
  rfl

/-- The subjects that these replies are about. -/
inductive SetSubject : Subject → Prop
  | correlation : SetSubject (.correlation "x")
  | first : SetSubject (.range 0 0)

theorem SetSubject.eq {subject : Subject} (h : SetSubject subject) :
    readSubject subject.toWire = some subject := by
  cases h with
  | correlation => rfl
  | first => rfl

theorem SetSubject.proper {subject : Subject} (h : SetSubject subject) :
    subject.toWire.Proper id := by
  cases h with
  | correlation => simp [Subject.toWire]
  | first => simp [Subject.toWire]

theorem oneReply_eq {subject : Subject} (hsubject : SetSubject subject)
    (members : List (String × Json)) :
    (oneReply subject members).ok = true ∧
      (oneReply subject members).envelope =
        some (oneEnvelope subject (utf8 (oneArtifact subject members).dumps)) ∧
      (oneReply subject members).body = oneArtifact subject members ∧
      (oneReply subject members).witnessReceipts = [(hexText sealDigest, oneReceipt)] ∧
      (oneReply subject members).request = some ⟨subject, none, .minSize 0⟩ ∧
      (oneReply subject members).refusal = none := by
  have hproper : (oneArtifact subject members).Proper id := by
    simp [oneArtifact, oneRow, hsubject.proper]
  have hoctets : (oneOctets subject (utf8 (oneArtifact subject members).dumps)).Proper id := by
    simp [oneOctets, hsubject.proper]
  have hloads := jsonLoads_dumps hoctets
  have hreceipts : witnessReceipts sealTools (oneExchange subject members).reply =
      ([(hexText sealDigest, oneReceipt)], []) := by
    change witnessReceipts sealTools (utf8 (oneOctets subject _).dumps) = _
    rw [witnessReceipts, hloads]
    rfl
  have hparse : sealTools.parseReply (oneExchange subject members).reply =
      .ok (.inr (oneEnvelope subject (utf8 (oneArtifact subject members).dumps))) := by
    change sealTools.parseReply (utf8 (oneOctets subject _).dumps) = _
    simp only [sealTools, decodeUtf8_utf8, Py.ok_bind, loads_dumps hoctets]
    simp only [oneOctets, hsubject.eq, bytesFromHex_hexText]
  have hbody : sealTools.jsonLoads (utf8 (oneArtifact subject members).dumps) =
      .ok (oneArtifact subject members) := jsonLoads_dumps hproper
  have hread : readRequest sealTools (oneExchange subject members) =
      (some ⟨subject, none, .minSize 0⟩, []) := by
    simp only [readRequest, oneExchange, sealTools, hsubject.eq]
  have herrors : envelopeErrors sealTools (oneExchange subject members) none
      (some ⟨subject, none, .minSize 0⟩)
      (oneEnvelope subject (utf8 (oneArtifact subject members).dumps)) = [] := by
    have hanswers : answersAsked ⟨subject, none, .minSize 0⟩
        (oneEnvelope subject (utf8 (oneArtifact subject members).dumps)) = true := by
      rw [answersAsked, Bool.and_eq_true, decide_eq_true_eq, decide_eq_true_eq]
      exact ⟨rfl, rfl⟩
    rw [envelopeErrors, hreceipts, Option.any_some, hanswers]
    rfl
  rw [oneReply, readReply, hparse]
  simp only [hread, List.nil_append, herrors, hreceipts]
  refine ⟨rfl, trivial, ?_, trivial, trivial, trivial⟩
  change ((sealTools.jsonLoads (utf8 (oneArtifact subject members).dumps)).toOption).getD .null = _
  rw [hbody]
  rfl

theorem servedRecords_oneReply {subject : Subject} (hsubject : SetSubject subject)
    {members : List (String × Json)} (hmembers : (Json.obj members).Proper id) :
    servedRecords sealTools (oneReply subject members) =
      .ok ⟨[oneRecord members], some { oneAnchor with witnesses := [oneReceipt] }, []⟩ := by
  obtain ⟨hok, henvelope, hbody, hreceipts, hrequest, -⟩ := oneReply_eq hsubject members
  have hset : servedSet sealTools (oneReply subject members)
      (oneEnvelope subject (utf8 (oneArtifact subject members).dumps)) =
        .ok ⟨[oneRecord members], some oneAnchor, []⟩ := by
    have htaken : takeRecords sealTools oneAnchor none 0 [(oneRow members, oneProof)] =
        .ok (.ok [oneRecord members]) := by
      rw [takeRecords, takeRecord_oneRow hmembers]
      rfl
    have hmaterial : (oneEnvelope subject (utf8 (oneArtifact subject members).dumps)).verification =
        [(KIND_CHECKPOINT, []), (KIND_INCLUSION, oneProof)] := rfl
    have hanchor : anchorOf sealTools (oneEnvelope subject (utf8 (oneArtifact subject members).dumps))
        [] (some (bodyMembers (oneReply subject members))) = .ok (.ok oneAnchor) := by
      rw [bodyMembers, hbody]
      rfl
    have hlisted : listedRecords (bodyMembers (oneReply subject members)) = some [oneRow members] := by
      rw [bodyMembers, hbody]
      rfl
    have habout : (!(((bodyMembers (oneReply subject members)).lookup "subject").getD .null).pyEq
        (oneEnvelope subject (utf8 (oneArtifact subject members).dumps)).subject.toWire ||
          ((bodyMembers (oneReply subject members)).lookup "derivation").isSome) = false := by
      rw [bodyMembers, hbody]
      cases hsubject with
      | correlation => rfl
      | first => rfl
    have hproblem : setProblem (oneEnvelope subject (utf8 (oneArtifact subject members).dumps)).subject
        oneAnchor [oneRecord members] = none := by
      cases hsubject with
      | correlation => rfl
      | first => rfl
    unfold servedSet
    simp only [hlisted, habout, Bool.false_eq_true, if_false, hmaterial]
    rw [if_neg (by simp), hanchor]
    simp only [Py.ok_bind, List.map_cons, List.map_nil, List.zip_cons_cons, List.zip_nil_right, htaken,
      hproblem]
    rfl
  have hform : servedForm sealTools (oneReply subject members)
      (oneEnvelope subject (utf8 (oneArtifact subject members).dumps)) =
        .ok ⟨[oneRecord members], some oneAnchor, []⟩ := by
    cases hsubject with
    | correlation => exact hset
    | first => exact hset
  have hreceipt : checkReceipts sealTools (oneReply subject members) [oneAnchor] = [] := by
    rw [checkReceipts, hreceipts]
    rfl
  have hcoverage : checkCoverage sealTools (oneReply subject members).request
      (oneEnvelope subject (utf8 (oneArtifact subject members).dumps)) oneAnchor [0] = [] := by
    rw [hrequest]
    cases hsubject with
    | correlation => rfl
    | first => rfl
  have hattached : oneAnchor.attach (oneReply subject members) =
      { oneAnchor with witnesses := [oneReceipt] } := by
    rw [CarriedCheckpoint.attach, hreceipts]
    rfl
  rw [servedRecords, henvelope]
  change (servedForm sealTools (oneReply subject members)
    (oneEnvelope subject (utf8 (oneArtifact subject members).dumps)) >>= _) = _
  rw [hform, Py.ok_bind]
  simp only [List.map_cons, List.map_nil, oneRecord, hcoverage, hreceipt, hattached]
  rfl

theorem verified_oneReply {subject : Subject} (hsubject : SetSubject subject)
    {members : List (String × Json)} (hmembers : (Json.obj members).Proper id) :
    verifiedRecords sealTools (oneReply subject members) = .ok [oneRecord members] := by
  obtain ⟨hok, henvelope, -⟩ := oneReply_eq hsubject members
  rw [verifiedRecords, hok, henvelope, servedRecords_oneReply hsubject hmembers]
  rfl

/-- A record without the identifier is returned as an answer about it. -/
theorem unrelated_record_returned :
    (oneReply (.correlation "x") []).envelope.map Envelope.subject = some (.correlation "x") ∧
      verifiedRecords sealTools (oneReply (.correlation "x") []) = .ok [oneRecord []] ∧
        ¬AskedFor oneEntry (.correlation "x") [oneRecord []] := by
  obtain ⟨-, henvelope, -⟩ := oneReply_eq .correlation []
  refine ⟨?_, verified_oneReply .correlation (by simp), ?_⟩
  · rw [henvelope]
    rfl
  · intro h
    exact absurd (h _ List.mem_cons_self) (by decide)

/-- A record with the identifier, and with a verdict that names another node. -/
def attributedRecord : List (String × Json) :=
  [("adjudication", .obj [("verdict", .str "contradicted:y")]), ("nonce", .str "x")]

theorem carrying_record_returned :
    verifiedRecords sealTools (oneReply (.correlation "x") attributedRecord) =
        .ok [oneRecord attributedRecord] ∧
      Committed oneEntry [oneRecord attributedRecord] ∧
        AskedFor oneEntry (.correlation "x") [oneRecord attributedRecord] := by
  have hproper : (Json.obj attributedRecord).Proper id := by simp [attributedRecord]
  have hverified := verified_oneReply .correlation hproper
  obtain ⟨-, henvelope, hbody, -⟩ := oneReply_eq .correlation attributedRecord
  obtain ⟨envelope, anchor, hsome, ⟨statement, hstated⟩, -, -, hiff⟩ :=
    verified_exact_iff hverified (List.cons_ne_nil _ _)
  obtain rfl := Option.some.inj (henvelope.symm.trans hsome)
  obtain rfl := Option.some.inj (Except.ok.inj hstated)
  refine ⟨hverified, (hiff oneEntry oneEntry_collisionFree rfl).mpr ?_⟩
  intro id hid listed hlisted record hrecord stated hrecordStated
  obtain rfl := Subject.correlation.inj hid
  rw [bodyMembers, hbody] at hlisted
  obtain rfl := Option.some.inj hlisted
  obtain rfl := List.mem_singleton.mp hrecord
  obtain rfl := Except.ok.inj ((statedRecord_oneRow _).symm.trans hrecordStated)
  rw [parsedRecord_dumps hproper]
  decide

end CapsuleMesh.AskHistory
