import CapsuleMesh.Library.Runs
import CapsuleMesh.Plugin.CapsuleEmit

/-!
# The plugin's counter key and the verifier's pair

The plugin counts under its own label and the requesting party; the verifier
files a record under the serving node it names and the requesting party.  A run
is any interleaving of admissions, of the three parts of an observed exchange
(learn, read the learned identity back, seal) and of restarts.  Its ledger passes
`verify_pair_continuity` exactly when the two keys count alike at every record.
-/

namespace CapsuleMesh.Plugin

open Python Sequence Library

/-! ## Records numbered by one key and filed under another -/

/-- The two ends a sealed record names. -/
structure Named where
  servedByNodeId : String
  requestingParty : String
deriving DecidableEq

/-- The pair under which `extract_pair_seq` files the record. -/
def Named.pair (e : Named) : String :=
  pairKey (orUnknown (some e.servedByNodeId)) (some e.requestingParty)

def Named.record (e : Named) (number : ℕ × Option ℕ) : PairSeq :=
  ⟨orUnknown (some e.servedByNodeId), orUnknown (some e.requestingParty), number.1,
    number.2.map Int.ofNat⟩

@[simp] theorem Named.record_key (e : Named) (number : ℕ × Option ℕ) :
    (e.record number).key = e.pair := by
  simp [PairSeq.key, Named.record, Named.pair, pairKey]

/-- How many records were counted under a requesting party. -/
def partyCount (es : List Named) (party : String) : ℕ :=
  (ofKey Named.requestingParty party es).length

/-- How many records the verifier files under a pair. -/
def pairCount (es : List Named) (pair : String) : ℕ := (ofKey Named.pair pair es).length

/-- The last of `n` numbers issued from 1 on. -/
def lastOf (n : ℕ) : Option ℕ := if n = 0 then none else some n

/-- The records of a list of exchanges, each numbered among those of its
requesting party. -/
def numberedAfter : List Named → List Named → List PairSeq
  | _, [] => []
  | before, e :: es =>
      let n := partyCount before e.requestingParty
      e.record (n + 1, lastOf n) :: numberedAfter (before ++ [e]) es

theorem numberedAfter_concat (before es : List Named) (e : Named) :
    numberedAfter before (es ++ [e]) = numberedAfter before es ++
      [e.record (partyCount (before ++ es) e.requestingParty + 1,
        lastOf (partyCount (before ++ es) e.requestingParty))] := by
  induction es generalizing before with
  | nil => simp [numberedAfter]
  | cons d es ih => simp [numberedAfter, ih]

theorem Named.record_honest (e : Named) (n : ℕ) : (e.record (n + 1, lastOf n)).Honest := by
  refine ⟨by simp only [Named.record]; omega, ?_⟩
  by_cases hn : n = 0
  · simp [Named.record, lastOf, hn]
  · have hne : ¬ ((n : ℤ) + 1 = 1) := by omega
    simp [Named.record, lastOf, hn, hne]

theorem numberedAfter_honest (before es : List Named) :
    ∀ r ∈ numberedAfter before es, r.Honest := by
  induction es generalizing before with
  | nil => simp [numberedAfter]
  | cons e es ih =>
      intro r hr
      rcases List.mem_cons.mp hr with rfl | hr
      · exact e.record_honest _
      · exact ih _ r hr

theorem length_ofKey_numberedAfter (before es : List Named) (k : String) :
    (ofKey PairSeq.key k (numberedAfter before es)).length = pairCount es k := by
  induction es generalizing before with
  | nil => rfl
  | cons e es ih =>
      simp only [numberedAfter, pairCount]
      by_cases hk : e.pair = k
      · rw [ofKey_cons_same (by simpa using hk), ofKey_cons_same hk, List.length_cons,
          List.length_cons, ih, pairCount]
      · rw [ofKey_cons_ne (by simpa using hk), ofKey_cons_ne hk, ih, pairCount]

/-- At every record as many earlier records have its requesting party as have its
pair. -/
def CountedAlike (es : List Named) : Prop :=
  ∀ before e after, es = before ++ e :: after →
    partyCount before e.requestingParty = pairCount before e.pair

theorem countedAlike_concat {es : List Named} {e : Named} :
    CountedAlike (es ++ [e]) ↔
      CountedAlike es ∧ partyCount es e.requestingParty = pairCount es e.pair := by
  constructor
  · intro h
    refine ⟨?_, h es e [] rfl⟩
    rintro before d after rfl
    exact h before d (after ++ [e]) (by simp)
  · rintro ⟨hes, he⟩ before d after hsplit
    rcases List.eq_nil_or_concat after with rfl | ⟨after', d', rfl⟩
    · obtain ⟨rfl, hd⟩ := List.append_inj' hsplit rfl
      obtain rfl : e = d := by simpa using hd
      exact he
    · have hsplit : es ++ [e] = (before ++ d :: after') ++ [d'] := by simpa using hsplit
      exact hes before d after' (List.append_inj' hsplit rfl).1

/-- The pairs of such records count `1, 2, 3, ...` exactly when the keys count
alike. -/
theorem consecutive_numbered_iff (es : List Named) :
    (∀ k, Consecutive none (ofKey PairSeq.key k (numberedAfter [] es))) ↔ CountedAlike es := by
  induction es using List.reverseRecOn with
  | nil =>
      constructor
      · rintro - before e after hnil
        simp at hnil
      · exact fun _ k => trivial
  | append_singleton es e ih =>
      rw [countedAlike_concat, ← ih, numberedAfter_concat, List.nil_append]
      set r := e.record (partyCount es e.requestingParty + 1,
        lastOf (partyCount es e.requestingParty)) with hr
      have hkey : r.key = e.pair := e.record_key _
      have hseq : r.seq = partyCount es e.requestingParty + 1 := by simp [hr, Named.record]
      have hlength := length_ofKey_numberedAfter [] es e.pair
      have hown : Consecutive none (ofKey PairSeq.key e.pair (numberedAfter [] es)) →
          (Consecutive none (ofKey PairSeq.key e.pair (numberedAfter [] es) ++ [r]) ↔
            partyCount es e.requestingParty = pairCount es e.pair) := by
        intro hcons
        rw [hcons.concat_iff (e.record_honest _), hseq, hlength]
        omega
      simp only [ofKey_append]
      constructor
      · intro h
        have hes : ∀ k, Consecutive none (ofKey PairSeq.key k (numberedAfter [] es)) :=
          fun k => ((consecutive_append _ _ _).mp (h k)).1
        have he := h e.pair
        rw [ofKey_cons_same hkey, ofKey_nil] at he
        exact ⟨hes, (hown (hes _)).mp he⟩
      · rintro ⟨hes, he⟩ k
        by_cases hk : e.pair = k
        · subst hk
          rw [ofKey_cons_same hkey, ofKey_nil]
          exact (hown (hes _)).mpr he
        · rw [ofKey_cons_ne (by rw [hkey]; exact hk), ofKey_nil, List.append_nil]
          exact hes k

/-- No two requesting parties share a pair: no id is empty or splits at `::` in
two ways. -/
def Separable (es : List Named) : Prop :=
  ∀ a ∈ es, ∀ b ∈ es, a.pair = b.pair → a.requestingParty = b.requestingParty

/-- All exchanges of one requesting party name one server. -/
def OneServerEach (es : List Named) : Prop :=
  ∀ a ∈ es, ∀ b ∈ es, a.requestingParty = b.requestingParty → a.pair = b.pair

theorem Separable.countedAlike_iff {es : List Named} (h : Separable es) :
    CountedAlike es ↔ OneServerEach es := by
  induction es using List.reverseRecOn with
  | nil =>
      constructor
      · simp [OneServerEach]
      · rintro - before e after hnil
        simp at hnil
  | append_singleton es e ih =>
      have hes : Separable es := fun a ha b hb =>
        h a (List.mem_append_left _ ha) b (List.mem_append_left _ hb)
      have hcount : partyCount es e.requestingParty = pairCount es e.pair ↔
          ∀ a ∈ es, a.requestingParty = e.requestingParty → a.pair = e.pair :=
        length_ofKey_eq_iff fun a ha hpair => h a (List.mem_append_left _ ha) e (by simp) hpair
      rw [countedAlike_concat, ih hes, hcount]
      constructor
      · rintro ⟨hone, hlast⟩ a ha b hb hparty
        rcases List.mem_append.mp ha with ha' | ha' <;>
          rcases List.mem_append.mp hb with hb' | hb'
        · exact hone a ha' b hb' hparty
        · obtain rfl := List.mem_singleton.mp hb'
          exact hlast a ha' hparty
        · obtain rfl := List.mem_singleton.mp ha'
          exact (hlast b hb' hparty.symm).symm
        · rw [List.mem_singleton.mp ha', List.mem_singleton.mp hb']
      · intro hone
        exact ⟨fun a ha b hb => hone a (List.mem_append_left _ ha) b (List.mem_append_left _ hb),
          fun a ha => hone a (List.mem_append_left _ ha) e (by simp)⟩

/-! ## The plugin's steps -/

/-- An observed exchange between its first and its last part: `learnedSelf` is
what it read back, once it has. -/
structure Handler where
  observed : ObservedHostExchange
  learnedSelf : Option (Option String)

def Handler.readSelf (learned : Option String) (handler : Handler) : Handler :=
  { handler with learnedSelf := some (handler.learnedSelf.getD learned) }

structure Process where
  state : CapsuleState
  handlers : List Handler

/-- A process with an empty ledger and the identity its file holds. -/
def Process.start (nodeId : String) (saved : Option String) : Process :=
  ⟨⟨nodeId, [], ∅, ⟨saved, saved⟩⟩, []⟩

inductive Step where
  | admission (moment : Moment) (exchange : ExchangeRecord)
  | learn (saves : Bool) (observed : ObservedHostExchange)
  | readSelf (i : ℕ)
  | finish (moment : Moment) (i : ℕ)
  | restart

/-- The observed exchange that is ready to be sealed, with what it read. -/
def Process.ready (p : Process) (i : ℕ) : Option (ObservedHostExchange × Option String) :=
  p.handlers[i]?.bind fun handler => handler.learnedSelf.map (handler.observed, ·)

def Process.step (crate : Crate) (p : Process) : Step → Process
  | .admission moment exchange =>
      { p with state := (emitForExchange crate moment p.state exchange).2 }
  | .learn saves observed => ⟨p.state.learn saves observed, p.handlers ++ [⟨observed, none⟩]⟩
  | .readSelf i =>
      { p with handlers :=
          p.handlers.modify i (Handler.readSelf p.state.learnedSelfNodeId.value) }
  | .finish moment i =>
      match p.ready i with
      | some (observed, learnedSelf) =>
        ⟨(sealObserved crate moment p.state observed learnedSelf).2, p.handlers.eraseIdx i⟩
      | none => p
  | .restart =>
      ⟨{ p.state with learnedSelfNodeId :=
          ⟨p.state.learnedSelfNodeId.saved, p.state.learnedSelfNodeId.saved⟩ }, []⟩

/-- What a step seals, if it seals. -/
def Process.emission (crate : Crate) (p : Process) : Step → Option (Except EmitError Json)
  | .admission moment exchange => some (emitForExchange crate moment p.state exchange).1
  | .finish moment i => (p.ready i).map fun exchange =>
      (sealObserved crate moment p.state exchange.1 exchange.2).1
  | _ => none

def Process.Succeeds (crate : Crate) (p : Process) (i : Step) : Prop :=
  ∀ result, p.emission crate i = some result → ∃ capsule, result = .ok capsule

/-- The ends that a step's record names, by the state before the step: a reported
server, else the learned identity for exchanges this node served. -/
def Process.names (p : Process) : Step → Option Named
  | .admission _ exchange =>
      some ⟨exchange.servedBy p.state.learnedSelfNodeId.value, exchange.counterparty⟩
  | .finish _ i => (p.ready i).map fun exchange => ⟨exchange.1.servedBy exchange.2, "unknown"⟩
  | _ => none

def Process.run (crate : Crate) (p : Process) (steps : List Step) : Process :=
  steps.foldl (Process.step crate) p

/-- The ends named along a run, in the order of the records. -/
def Process.namesAlong (crate : Crate) : Process → List Step → List Named
  | _, [] => []
  | p, i :: steps => (p.names i).toList ++ namesAlong crate (p.step crate i) steps

/-! ## One record -/

/-- `s'` is `s` after a record naming `e` was numbered, sealed and appended. -/
def Recorded (s s' : CapsuleState) (e : Named) : Prop :=
  s'.nodeId = s.nodeId ∧
  s'.sequenceCounters = (s.sequenceCounters.nextSeq s.nodeId e.requestingParty).2 ∧
  ∃ capsule, s'.ledger = s.ledger ++ [capsule] ∧ extractPairSeq capsule =
    .ok (some (e.record (s.sequenceCounters.nextSeq s.nodeId e.requestingParty).1))

theorem pocBlock_of_seal {sealCapsule : CapsuleInput → Option Json}
    (hseal : SealContract sealCapsule) {input : CapsuleInput} {capsule : Json} {mesh : MeshPocV1}
    {modelId : String} (hext : input.computeAttestationExtensions = extensions mesh modelId)
    (h : sealCapsule input = some capsule) : pocBlock capsule = .ok mesh.toValue := by
  have hblock := lookup_extensions mesh modelId
  rw [← hext] at hblock
  obtain ⟨members, attestation, compute, rfl, hmodel, hcompute, hpoc⟩ := hseal.extension h hblock
  simp [pocBlock, hmodel, hcompute, hpoc, MeshPocV1.toValue, Json.or]

/-- A successful emission, for whatever input is built around the number, as long
as its block names `e` and carries the number. -/
theorem sealNumbered_recorded {crate : Crate} (hseal : SealContract crate.sealCapsule)
    {moment : Moment} {s : CapsuleState} {e : Named} {input : ℕ × Option ℕ → CapsuleInput}
    {modelId : String} {mesh : ℕ × Option ℕ → MeshPocV1}
    (hext : ∀ number, (input number).computeAttestationExtensions =
      extensions (mesh number) modelId)
    (hserved : ∀ number, (mesh number).servingProvenance.servedByNodeId = e.servedByNodeId)
    (hparty : ∀ number, (mesh number).servingProvenance.requestingParty = e.requestingParty)
    (hnumber : ∀ number, ((mesh number).servingProvenance.seq,
      (mesh number).servingProvenance.prevSeq) = number)
    {capsule : Json}
    (h : (sealNumbered crate moment s e.requestingParty input).1 = .ok capsule) :
    Recorded s (sealNumbered crate moment s e.requestingParty input).2 e := by
  simp only [sealNumbered] at h ⊢
  cases hsaves : moment.counterSaves with
  | false => simp [hsaves] at h
  | true =>
      rw [hsaves] at h
      simp only [if_true] at h ⊢
      cases hsealed : crate.sealCapsule
          (input (s.sequenceCounters.nextSeq s.nodeId e.requestingParty).1) with
      | none => simp [hsealed] at h
      | some sealed =>
        cases happends : moment.appends with
        | false => simp [hsealed, happends] at h
        | true =>
          refine ⟨rfl, rfl, sealed, rfl, ?_⟩
          rw [extractPairSeq_of_pocBlock (pocBlock_of_seal hseal (hext _) hsealed)]
          have hn := hnumber (s.sequenceCounters.nextSeq s.nodeId e.requestingParty).1
          simp only [Named.record, hserved, hparty, ← congrArg Prod.fst hn,
            ← congrArg Prod.snd hn]

theorem emitForExchange_recorded {crate : Crate} (hseal : SealContract crate.sealCapsule)
    {moment : Moment} {s : CapsuleState} {exchange : ExchangeRecord} {capsule : Json}
    (h : (emitForExchange crate moment s exchange).1 = .ok capsule) :
    Recorded s (emitForExchange crate moment s exchange).2
      ⟨exchange.servedBy s.learnedSelfNodeId.value, exchange.counterparty⟩ := by
  unfold emitForExchange at h ⊢
  split at h
  · exact sealNumbered_recorded hseal
      (e := ⟨exchange.servedBy s.learnedSelfNodeId.value, exchange.counterparty⟩)
      (fun _ => rfl) (fun _ => rfl) (fun _ => rfl) (fun _ => rfl) h
  · simp at h

theorem sealObserved_recorded {crate : Crate} (hseal : SealContract crate.sealCapsule)
    {moment : Moment} {s : CapsuleState} {observed : ObservedHostExchange}
    {learnedSelf : Option String} {capsule : Json}
    (h : (sealObserved crate moment s observed learnedSelf).1 = .ok capsule) :
    Recorded s (sealObserved crate moment s observed learnedSelf).2
      ⟨observed.servedBy learnedSelf, "unknown"⟩ := by
  unfold sealObserved at h ⊢
  split at h
  · exact sealNumbered_recorded hseal (e := ⟨observed.servedBy learnedSelf, "unknown"⟩)
      (fun _ => rfl) (fun _ => rfl) (fun _ => rfl) (fun _ => rfl) h
  · simp at h

/-- What one step does to the ledger and the counters. -/
theorem Process.step_cases {crate : Crate} (hseal : SealContract crate.sealCapsule)
    {p : Process} {i : Step} (h : p.Succeeds crate i) :
    (∃ e, p.names i = some e ∧ Recorded p.state (p.step crate i).state e) ∨
    (p.names i = none ∧ (p.step crate i).state.nodeId = p.state.nodeId ∧
      (p.step crate i).state.sequenceCounters = p.state.sequenceCounters ∧
      (p.step crate i).state.ledger = p.state.ledger) := by
  cases i with
  | admission moment exchange =>
      obtain ⟨capsule, hcapsule⟩ := h _ rfl
      exact .inl ⟨_, rfl, emitForExchange_recorded hseal hcapsule⟩
  | learn saves observed =>
      refine .inr ⟨rfl, ?_⟩
      simp only [Process.step, CapsuleState.learn]
      split
      · split <;> simp
      · simp
  | readSelf i => exact .inr ⟨rfl, rfl, rfl, rfl⟩
  | finish moment i =>
      cases hready : p.ready i with
      | none => simp [Process.names, Process.step, hready]
      | some exchange =>
        obtain ⟨capsule, hcapsule⟩ := h _ (by simp only [Process.emission, hready]; rfl)
        refine .inl ⟨_, by simp only [Process.names, hready]; rfl, ?_⟩
        simp only [Process.step, hready]
        exact sealObserved_recorded hseal hcapsule
  | restart => exact .inr ⟨rfl, rfl, rfl, rfl⟩

/-! ## Whole runs -/

/-- After records that named `es`: the counters hold how often each requesting
party was counted, and the ledger holds the records so numbered. -/
structure Counted (s : CapsuleState) (es : List Named) : Prop where
  counters : ∀ party, s.sequenceCounters.lookup (s.nodeId, party) = lastOf (partyCount es party)
  ledger : s.ledger.map extractPairSeq = ((numberedAfter [] es).map some).map .ok

theorem lastOf_getD (n : ℕ) : (lastOf n).getD 0 = n := by
  by_cases hn : n = 0 <;> simp [lastOf, hn]

theorem partyCount_concat (es : List Named) (e : Named) (party : String) :
    partyCount (es ++ [e]) party =
      partyCount es party + if e.requestingParty = party then 1 else 0 := by
  by_cases h : e.requestingParty = party <;> simp [partyCount, ofKey, h]

theorem Counted.recorded {s s' : CapsuleState} {es : List Named} {e : Named}
    (h : Counted s es) (hrec : Recorded s s' e) : Counted s' (es ++ [e]) := by
  obtain ⟨hnode, hcounters, capsule, hledger, hextract⟩ := hrec
  have hlast := h.counters e.requestingParty
  refine ⟨?_, ?_⟩
  · intro party
    rw [hnode, hcounters, partyCount_concat]
    simp only [CounterStore.nextSeq, hlast, lastOf_getD]
    by_cases hparty : e.requestingParty = party
    · subst hparty
      simp [lastOf]
    · rw [AList.lookup_insert_ne (by simpa using Ne.symm hparty), h.counters]
      simp [hparty]
  · rw [hledger, List.map_append, h.ledger, numberedAfter_concat]
    simp [hextract, CounterStore.nextSeq, hlast, lastOf_getD]

theorem Counted.run {crate : Crate} (hseal : SealContract crate.sealCapsule) {p : Process}
    {es : List Named} (h : Counted p.state es) {steps : List Step}
    (hok : Along (Process.step crate) (Process.Succeeds crate) p steps) :
    Counted (p.run crate steps).state (es ++ p.namesAlong crate steps) := by
  induction steps generalizing p es with
  | nil => simpa [Process.run, Process.namesAlong] using h
  | cons i steps ih =>
      obtain ⟨hi, hok⟩ := hok
      rw [Process.namesAlong, ← List.append_assoc]
      refine ih ?_ hok
      obtain ⟨e, hnames, hrec⟩ | ⟨hnames, hnode, hcounters, hledger⟩ := Process.step_cases hseal hi
      · rw [hnames]
        exact h.recorded hrec
      · rw [hnames, Option.toList_none, List.append_nil]
        exact ⟨by rw [hnode, hcounters]; exact h.counters, by rw [hledger]; exact h.ledger⟩

theorem Counted.passes_iff {s : CapsuleState} {es : List Named} (h : Counted s es) :
    PassesContinuity s.ledger ↔ CountedAlike es := by
  have hmapM := Py.mapM_eq_ok.mpr h.ledger
  have hreduce : ((numberedAfter [] es).map some).reduceOption = numberedAfter [] es := by
    simp [List.reduceOption]
  rw [passesContinuity_iff hmapM, hreduce, consecutive_numbered_iff]
  rw [hreduce]
  exact numberedAfter_honest [] es

theorem counted_start (nodeId : String) (saved : Option String) :
    Counted (Process.start nodeId saved).state [] :=
  ⟨fun _ => rfl, rfl⟩

/-! ## A plain crate, for concrete runs -/

/-- Sealing with the shape of the real one. -/
def plainSeal (input : CapsuleInput) : Option Json :=
  some (.obj
    ([("capsule_id", .str ("id:" ++ input.storeNonce)),
      ("model_attestation", .obj
        [("model_id", .str input.modelId),
         ("compute_attestation", .obj input.computeAttestationExtensions)])] ++
     (input.chain.map fun link => ("chain", Json.obj
        [("parent_capsule_id", .str link.parentCapsuleId),
         ("relation", .str link.relation)])).toList))

theorem plainSeal_contract : SealContract plainSeal where
  extension {input capsule block} h hblock := by
    obtain rfl := Option.some.inj h
    exact ⟨_, _, _, rfl, rfl, rfl, hblock⟩
  capsuleId {input capsule} h := by
    obtain rfl := Option.some.inj h
    exact ⟨_, rfl⟩
  parent {input capsule} h := by
    obtain rfl := Option.some.inj h
    cases input.chain <;> rfl

/-- Every body decodes to an empty object. -/
def plainCrate : Crate where
  decodeRecord := fun _ => some (.obj [])
  jsonDigest := fun _ => some "digest"
  hexSha256 := id
  displayF64 := id
  sealCapsule := plainSeal

theorem plainCrate_contract : SealContract plainCrate.sealCapsule := plainSeal_contract

def plainMoment (nonce : String) : Moment where
  timestamp := "2026-09-07T00:00:00Z"
  storeNonce := nonce
  binaryAttestation := none
  counterSaves := true
  counterKeeps := true
  appends := true

/-- A host exchange that the node itself served. -/
def plainObserved (servedByNodeId : Option String) : ObservedHostExchange where
  model := "model"
  exchangeId := none
  requestDigest := none
  responseDigest := none
  toolCallsDigest := none
  reasoningDigest := none
  usage := none
  hostProvenance := { servedByNodeId := servedByNodeId }
  dispatchPath := .typedFrontend
  nonce := none
  peerCapsuleId := none
  peerCapsuleIdProvenance := none
  twinBracketId := none

def plainExchange : ExchangeRecord where
  model := "model"
  clientNonce := none
  requestBytes := []
  responseBytes := []
  latencyMs := "1.000"
  exchangeId := none
  requestingParty := none
  hostProvenance := none

theorem succeeds_admission_plain (p : Process) (nonce : String) (exchange : ExchangeRecord) :
    p.Succeeds plainCrate (.admission (plainMoment nonce) exchange) := by
  intro result h
  obtain rfl := Option.some.inj h
  exact ⟨_, rfl⟩

theorem succeeds_finish_plain (p : Process) (nonce : String) (i : ℕ) :
    p.Succeeds plainCrate (.finish (plainMoment nonce) i) := by
  intro result h
  obtain ⟨⟨observed, learnedSelf⟩, -, rfl⟩ := Option.map_eq_some_iff.mp h
  simp only [sealObserved, ObservedHostExchange.outputDigest]
  cases observed.responseDigest <;> exact ⟨_, rfl⟩

/-- One observed exchange, undisturbed. -/
def observedSteps (nonce : String) (servedByNodeId : Option String) : List Step :=
  [.learn true (plainObserved servedByNodeId), .readSelf 0, .finish (plainMoment nonce) 0]

theorem succeeds_observedSteps (p : Process) (nonce : String) (servedByNodeId : Option String) :
    Along (Process.step plainCrate) (Process.Succeeds plainCrate) p
      (observedSteps nonce servedByNodeId) := by
  refine ⟨?_, ?_, succeeds_finish_plain _ nonce 0, trivial⟩
  · simp [Process.Succeeds, Process.emission]
  · simp [Process.Succeeds, Process.emission]

/-! ## The verdict on a run -/

/-- The ledger of a run passes exactly when the counter and the verifier count
alike at every record; where requesting parties never share a pair, exactly when
no requesting party is ever served under two names. -/
theorem passesContinuity_run_iff_countedAlike {crate : Crate}
    (hseal : SealContract crate.sealCapsule) (nodeId : String) (saved : Option String)
    (steps : List Step) (hok : Along (Process.step crate) (Process.Succeeds crate)
      (Process.start nodeId saved) steps) :
    let names := (Process.start nodeId saved).namesAlong crate steps
    let ledger := ((Process.start nodeId saved).run crate steps).state.ledger
    (PassesContinuity ledger ↔ CountedAlike names) ∧
      (Separable names → (PassesContinuity ledger ↔ OneServerEach names)) := by
  intro names ledger
  have hcounted := (counted_start nodeId saved).run hseal hok
  rw [List.nil_append] at hcounted
  exact ⟨hcounted.passes_iff, fun h => hcounted.passes_iff.trans h.countedAlike_iff⟩

/-- The identity is known from the first exchange on. -/
theorem passesContinuity_run_iff_countedAlike_sameServer :
    PassesContinuity ((Process.start "capsule-emit-mesh" none).run plainCrate
      (observedSteps "1" (some "n1") ++
        [.admission (plainMoment "2") plainExchange])).state.ledger := by
  have hok := (along_concat (Process.start "capsule-emit-mesh" none) _ _).mpr
    ⟨succeeds_observedSteps _ "1" (some "n1"), succeeds_admission_plain _ "2" plainExchange⟩
  have hnames : (Process.start "capsule-emit-mesh" none).namesAlong plainCrate
      (observedSteps "1" (some "n1") ++ [.admission (plainMoment "2") plainExchange]) =
      [⟨"n1", "unknown"⟩, ⟨"n1", "unknown"⟩] := by
    decide +kernel
  have h := passesContinuity_run_iff_countedAlike plainCrate_contract "capsule-emit-mesh" none _ hok
  rw [hnames] at h
  apply (h.2 _).mpr
  · simp [OneServerEach]
  · simp [Separable]

/-- The first exchange is sealed before the node has learned who it is, the
second after: one counter, two pairs. -/
theorem learning_breaks_continuity :
    Along (Process.step plainCrate) (Process.Succeeds plainCrate)
        (Process.start "capsule-emit-mesh" none)
        (observedSteps "1" none ++ observedSteps "2" (some "n1")) ∧
      ¬ PassesContinuity ((Process.start "capsule-emit-mesh" none).run plainCrate
        (observedSteps "1" none ++ observedSteps "2" (some "n1"))).state.ledger := by
  have hok := (along_append (Process.start "capsule-emit-mesh" none) _ _).mpr
    ⟨succeeds_observedSteps _ "1" none, succeeds_observedSteps _ "2" (some "n1")⟩
  have hnames : (Process.start "capsule-emit-mesh" none).namesAlong plainCrate
      (observedSteps "1" none ++ observedSteps "2" (some "n1")) =
      [⟨"unknown", "unknown"⟩, ⟨"n1", "unknown"⟩] := by
    decide +kernel
  refine ⟨hok, ?_⟩
  have hcounted := (counted_start "capsule-emit-mesh" none).run plainCrate_contract hok
  rw [hcounted.passes_iff, List.nil_append, hnames]
  intro h
  have hcount := h [⟨"unknown", "unknown"⟩] ⟨"n1", "unknown"⟩ [] rfl
  revert hcount
  decide +kernel

end CapsuleMesh.Plugin
