import CapsuleMesh.Plugin.PairKeys
import CapsuleMesh.Sidecar.Chain

/-!
# Concurrent emissions of one plugin

`emit_for_exchange` and `emit_for_observed_host_exchange` step by step, between the points where
they touch what they share.  A call holds the ledger's mutex from the moment it reads the chain head
until it has appended or given up; the counters and the learned identity are locked only while they
are used.  A restart drops every call under way and reads both files back.
-/

namespace CapsuleMesh.Plugin

open Python Sequence Library

/-! ## Calls and their progress -/

inductive Exchange where
  | admitted (exchange : ExchangeRecord)
  | observed (saves : Bool) (observed : ObservedHostExchange)

/-- A call with what it meets on its way. -/
structure Call where
  moment : Moment
  exchange : Exchange

/-- The requesting party a call counts under. -/
def Exchange.party : Exchange → String
  | .admitted exchange => exchange.counterparty
  | .observed .. => "unknown"

/-- What a call knows when it asks for the ledger. -/
inductive Facts where
  | admitted (inputDigest outputDigest : String)
  | observed (learnedSelf : Option String) (outputDigest : String)

inductive Progress where
  | ready
  | learnt
  | waiting (facts : Facts)
  | locked (facts : Facts) (head : Option String)
  | numbered (facts : Facts) (head : Option String) (number : ℕ × Option ℕ)
  | sealed (capsule : Json)
  | done

/-- The process: the state of the plugin, the numbers in the counters' file, the call that holds
the ledger's mutex and how far each call has come. -/
structure Server where
  state : CapsuleState
  saved : CounterStore
  holder : Option ℕ
  progress : ℕ → Progress

def Server.setProgress (s : Server) (t : ℕ) (p : Progress) : Server :=
  { s with progress := Function.update s.progress t p }

/-- The guard of the ledger goes out of scope. -/
def Server.release (s : Server) (t : ℕ) : Server :=
  { s.setProgress t .done with holder := none }

/-- The capsule input of a call, with the chain head it read. -/
def Call.input (crate : Crate) (call : Call) (s : CapsuleState) (facts : Facts)
    (head : Option String) (number : ℕ × Option ℕ) : Option CapsuleInput :=
  match call.exchange, facts with
  | .admitted exchange, .admitted inputDigest outputDigest =>
      some { exchange.input crate call.moment s inputDigest outputDigest number with
        chain := head.map fun parent => ⟨parent, "follows"⟩ }
  | .observed _ observed, .observed learnedSelf outputDigest =>
      some { observed.input crate call.moment s learnedSelf outputDigest number with
        chain := head.map fun parent => ⟨parent, "follows"⟩ }
  | _, _ => none

/-- The first part of a call, before it waits for the ledger. -/
def Server.prepare (crate : Crate) (call : Call) (s : Server) (t : ℕ) : Server :=
  match call.exchange with
  | .admitted exchange =>
      match canonicalBodyDigest crate exchange.requestBytes,
          canonicalBodyDigest crate exchange.responseBytes with
      | some inputDigest, some outputDigest =>
        s.setProgress t (.waiting (.admitted inputDigest outputDigest))
      | _, _ => s.setProgress t .done
  | .observed saves observed =>
      { s.setProgress t .learnt with state := s.state.learn saves observed }

/-- An observed exchange reads the identity back and digests its facts. -/
def Server.readSelf (crate : Crate) (call : Call) (s : Server) (t : ℕ) : Server :=
  match call.exchange with
  | .admitted _ => s
  | .observed _ observed =>
      match observed.outputDigest crate with
      | some outputDigest =>
        s.setProgress t (.waiting (.observed s.state.learnedSelfNodeId.value outputDigest))
      | none => s.setProgress t .done

/-- `next_seq`, with the ledger held. -/
def Server.takeNumber (call : Call) (s : Server) (t : ℕ) (facts : Facts) (head : Option String) :
    Server :=
  let (number, counters) := s.state.sequenceCounters.nextSeq s.state.nodeId call.exchange.party
  if call.moment.counterSaves then
    { s.setProgress t (.numbered facts head number) with
      state := { s.state with sequenceCounters := counters }
      saved := counters }
  else
    { s.release t with
      state := if call.moment.counterKeeps then { s.state with sequenceCounters := counters }
        else s.state }

def Server.seal (crate : Crate) (call : Call) (s : Server) (t : ℕ) (facts : Facts)
    (head : Option String) (number : ℕ × Option ℕ) : Server :=
  match (call.input crate s.state facts head number).bind crate.sealCapsule with
  | some capsule => s.setProgress t (.sealed capsule)
  | none => s.release t

def Server.append (call : Call) (s : Server) (t : ℕ) (capsule : Json) : Server :=
  if call.moment.appends then
    { s.release t with state := { s.state with ledger := s.state.ledger ++ [capsule] } }
  else s.release t

/-- One step of call `t`; it waits while another call holds the ledger. -/
def Server.advance (crate : Crate) (call : Call) (s : Server) (t : ℕ) : Server :=
  match s.progress t with
  | .ready => s.prepare crate call t
  | .learnt => s.readSelf crate call t
  | .waiting facts =>
      if s.holder.isNone then
        { s.setProgress t (.locked facts s.state.chainHead) with holder := some t }
      else s
  | .locked facts head => s.takeNumber call t facts head
  | .numbered facts head number => s.seal crate call t facts head number
  | .sealed capsule => s.append call t capsule
  | .done => s

/-- Calls that had not begun are made by the new process. -/
def Server.restart (s : Server) : Server where
  state := { s.state with
    sequenceCounters := s.saved
    learnedSelfNodeId := ⟨s.state.learnedSelfNodeId.saved, s.state.learnedSelfNodeId.saved⟩ }
  saved := s.saved
  holder := none
  progress t :=
    match s.progress t with
    | .ready => .ready
    | _ => .done

inductive Move where
  | call (t : ℕ)
  | restart

def Server.step (crate : Crate) (calls : ℕ → Call) (s : Server) : Move → Server
  | .call t => s.advance crate (calls t) t
  | .restart => s.restart

/-- An empty data directory. -/
def Server.start (nodeId : String) : Server where
  state := (Process.start nodeId none).state
  saved := ∅
  holder := none
  progress _ := .ready

def Server.run (crate : Crate) (calls : ℕ → Call) (nodeId : String) (moves : List Move) : Server :=
  moves.foldl (Server.step crate calls) (Server.start nodeId)

/-! ## A call that is alone -/

/-- A call by itself, once it has the facts and the ledger, does what `sealNumbered` does. -/
theorem advance_locked {crate : Crate} {call : Call} {s : Server} {t : ℕ} {facts : Facts}
    {input : ℕ × Option ℕ → CapsuleInput}
    (hphase : s.progress t = .locked facts s.state.chainHead)
    (hinput : ∀ counters number, call.input crate { s.state with sequenceCounters := counters } facts
      s.state.chainHead number = some (input number)) :
    ((List.replicate 3 t).foldl (Server.advance crate call) s).state =
      (sealNumbered crate call.moment s.state call.exchange.party input).2 := by
  have hinput' := hinput
    (s.state.sequenceCounters.nextSeq s.state.nodeId call.exchange.party).2
    (s.state.sequenceCounters.nextSeq s.state.nodeId call.exchange.party).1
  cases hsaves : call.moment.counterSaves with
  | false =>
      cases hkeeps : call.moment.counterKeeps <;>
        simp [List.replicate, Server.advance, hphase, Server.takeNumber, hsaves, hkeeps,
          Server.release, Server.setProgress, sealNumbered]
  | true =>
      cases hsealed : crate.sealCapsule
          (input (s.state.sequenceCounters.nextSeq s.state.nodeId call.exchange.party).1) with
      | none =>
        simp [List.replicate, Server.advance, hphase, Server.takeNumber, hsaves,
          Server.setProgress, Server.seal, hinput', hsealed, Server.release, sealNumbered]
      | some capsule =>
        cases happends : call.moment.appends <;>
          simp [List.replicate, Server.advance, hphase, Server.takeNumber, hsaves,
            Server.setProgress, Server.seal, hinput', hsealed, Server.append, happends,
            Server.release, sealNumbered]

theorem advance_done {crate : Crate} {call : Call} {s : Server} {t : ℕ}
    (hphase : s.progress t = .done) (n : ℕ) :
    (List.replicate n t).foldl (Server.advance crate call) s = s := by
  induction n with
  | zero => rfl
  | succ n ih =>
      have hstep : s.advance crate call t = s := by simp only [Server.advance, hphase]
      rw [List.replicate_succ, List.foldl_cons, hstep, ih]

theorem alone_admitted (crate : Crate) (moment : Moment) (exchange : ExchangeRecord) {s : Server}
    {t : ℕ} (hphase : s.progress t = .ready) (hfree : s.holder = none) :
    ((List.replicate 5 t).foldl (Server.advance crate ⟨moment, .admitted exchange⟩) s).state =
      (emitForExchange crate moment s.state exchange).2 := by
  unfold emitForExchange
  split
  · rename_i inputDigest outputDigest hinput houtput
    have hfirst : (List.replicate 2 t).foldl (Server.advance crate ⟨moment, .admitted exchange⟩) s =
        { s.setProgress t (.locked (.admitted inputDigest outputDigest) s.state.chainHead) with
          holder := some t } := by
      simp [List.replicate, Server.advance, hphase, Server.prepare, hinput, houtput,
        Server.setProgress, hfree]
    rw [show 5 = 2 + 3 from rfl, List.replicate_add, List.foldl_append, hfirst]
    exact advance_locked (Function.update_self ..) fun _ _ => rfl
  · rename_i hdigests
    have hfirst : Server.advance crate ⟨moment, .admitted exchange⟩ s t = s.setProgress t .done := by
      simp only [Server.advance, hphase, Server.prepare]
    rw [show 5 = 1 + 4 from rfl, List.replicate_add, List.foldl_append, List.replicate_one,
      List.foldl_cons, List.foldl_nil, hfirst, advance_done (Function.update_self ..)]
    rfl

theorem alone_observed (crate : Crate) (moment : Moment) (saves : Bool)
    (observed : ObservedHostExchange) {s : Server} {t : ℕ} (hphase : s.progress t = .ready)
    (hfree : s.holder = none) :
    ((List.replicate 6 t).foldl
        (Server.advance crate ⟨moment, .observed saves observed⟩) s).state =
      (emitForObservedHostExchange crate moment saves s.state observed).2 := by
  unfold emitForObservedHostExchange sealObserved
  dsimp only
  cases houtput : observed.outputDigest crate with
  | some outputDigest =>
      have hfirst : (List.replicate 3 t).foldl
          (Server.advance crate ⟨moment, .observed saves observed⟩) s =
          { s.setProgress t (.locked (.observed (s.state.learn saves observed).learnedSelfNodeId.value
              outputDigest) (s.state.learn saves observed).chainHead) with
            state := s.state.learn saves observed
            holder := some t } := by
        simp [List.replicate, Server.advance, hphase, Server.prepare, Server.readSelf, houtput,
          Server.setProgress, hfree]
      rw [show 6 = 3 + 3 from rfl, List.replicate_add, List.foldl_append, hfirst]
      exact advance_locked (Function.update_self ..) fun _ _ => rfl
  | none =>
      simp [List.replicate, Server.advance, hphase, Server.prepare, Server.readSelf, houtput,
        Server.setProgress]

/-! ## What a record tells -/

def provenanceOf (capsule : Json) : Option Json :=
  match pocBlock capsule with
  | .ok block => member? "serving_provenance" block
  | .error _ => none

/-- The requesting party of a record: with the node's own label, its counter key. -/
def partyOf (capsule : Json) : Option String :=
  ((provenanceOf capsule).bind (member? "requesting_party")).bind Json.str?

def natural? : Json → Option ℕ
  | .int n => some n.toNat
  | _ => none

def seqOf (capsule : Json) : Option ℕ :=
  ((provenanceOf capsule).bind (member? "seq")).bind natural?

def prevSeqOf (capsule : Json) : Option ℕ :=
  ((provenanceOf capsule).bind (member? "prev_seq")).bind natural?

/-- The record was counted under this party with this number. -/
structure Carries (capsule : Json) (party : String) (number : ℕ × Option ℕ) : Prop where
  party : partyOf capsule = some party
  seq : seqOf capsule = some number.1
  prevSeq : prevSeqOf capsule = number.2

/-- Each record names the one before it as its parent, the first none. -/
def Chained (ledger : List Json) : Prop := Sidecar.Links [] ledger

/-- The numbers of a counter key go up, and each record names the number before its own. -/
structure Ascending (ledger : List Json) : Prop where
  increasing : ledger.Pairwise fun a b ↦ partyOf a = partyOf b → ∀ m ∈ seqOf a, ∀ n ∈ seqOf b, m < n
  prev : ∀ capsule ∈ ledger, ∃ seq, seqOf capsule = some seq ∧ seq = (prevSeqOf capsule).getD 0 + 1

theorem carries_of_seal {sealCapsule : CapsuleInput → Option Json}
    (hseal : SealContract sealCapsule) {input : CapsuleInput} {capsule : Json} {mesh : MeshPocV1}
    {modelId : String} (hext : input.computeAttestationExtensions = extensions mesh modelId)
    (h : sealCapsule input = some capsule) :
    Carries capsule mesh.servingProvenance.requestingParty
      (mesh.servingProvenance.seq, mesh.servingProvenance.prevSeq) := by
  have hprovenance : provenanceOf capsule = some mesh.servingProvenance.toValue := by
    rw [provenanceOf, pocBlock_of_seal hseal hext h]
    rfl
  refine ⟨?_, ?_, ?_⟩
  · rw [partyOf, hprovenance]
    rfl
  · rw [seqOf, hprovenance]
    rfl
  · rw [prevSeqOf, hprovenance]
    cases hprev : mesh.servingProvenance.prevSeq with
    | none | some n =>
        simp [member?, ServingProvenance.toValue, hprev, ofNat?, Json.ofInt?, natural?,
          List.lookup_cons]

theorem Call.carries {crate : Crate} (hseal : SealContract crate.sealCapsule) {call : Call}
    {s : CapsuleState} {facts : Facts} {head : Option String} {number : ℕ × Option ℕ}
    {capsule : Json}
    (h : (call.input crate s facts head number).bind crate.sealCapsule = some capsule) :
    Carries capsule call.exchange.party number ∧ parentOf capsule = head := by
  obtain ⟨input, hinput, hcapsule⟩ := Option.bind_eq_some_iff.mp h
  have hparent : ∀ head : Option String, (head.map fun parent ↦ (⟨parent, "follows"⟩ : ChainLink)).map
      ChainLink.parentCapsuleId = head := by
    intro head
    cases head <;> rfl
  obtain ⟨moment, exchange⟩ := call
  cases exchange with
  | admitted exchange =>
      cases facts with
      | admitted inputDigest outputDigest =>
        obtain rfl := Option.some.inj hinput
        have hcarries : Carries capsule
            (exchange.meshPoc crate moment s.learnedSelfNodeId.value
              number).servingProvenance.requestingParty _ := carries_of_seal hseal rfl hcapsule
        refine ⟨hcarries, ?_⟩
        rw [hseal.parent hcapsule]
        exact hparent head
      | observed learnedSelf outputDigest => cases hinput
  | observed saves observed =>
      cases facts with
      | admitted inputDigest outputDigest => cases hinput
      | observed learnedSelf outputDigest =>
        obtain rfl := Option.some.inj hinput
        have hcarries : Carries capsule
            (observed.meshPoc crate moment learnedSelf
              number).servingProvenance.requestingParty _ := carries_of_seal hseal rfl hcapsule
        refine ⟨hcarries, ?_⟩
        rw [hseal.parent hcapsule]
        exact hparent head

/-! ## The invariant -/

/-- The number continues its counter key: it is in the file, and no record carries it or a later
one. -/
structure Fresh (s : Server) (party : String) (number : ℕ × Option ℕ) : Prop where
  prev : number.1 = number.2.getD 0 + 1
  later : ∀ capsule ∈ s.state.ledger, partyOf capsule = some party → ∀ n ∈ seqOf capsule, n < number.1
  saved : number.1 ≤ (s.saved.lookup (s.state.nodeId, party)).getD 0

def Progress.holds : Progress → Bool
  | .locked .. => true
  | .numbered .. => true
  | .sealed _ => true
  | _ => false

/-- What a call that holds the ledger knows is still so. -/
def Progress.Fits (s : Server) (party : String) : Progress → Prop
  | .locked _ head => head = s.state.chainHead
  | .numbered _ head number => head = s.state.chainHead ∧ Fresh s party number
  | .sealed capsule => parentOf capsule = s.state.chainHead ∧
      ∃ number, Carries capsule party number ∧ Fresh s party number
  | _ => True

theorem Progress.fits_of_not_holds {s : Server} {party : String} {p : Progress}
    (h : p.holds = false) : p.Fits s party := by
  cases p <;> trivial

/-- Only the ledger, the label and the counters' file matter to it. -/
theorem Progress.Fits.congr {s s' : Server} {party : String} {p : Progress} (h : p.Fits s party)
    (hledger : s'.state.ledger = s.state.ledger) (hnode : s'.state.nodeId = s.state.nodeId)
    (hsaved : s'.saved = s.saved) : p.Fits s' party := by
  have hhead : s'.state.chainHead = s.state.chainHead := by
    rw [CapsuleState.chainHead, CapsuleState.chainHead, hledger]
  have hfresh : ∀ {number}, Fresh s party number → Fresh s' party number := by
    intro number hfresh
    refine ⟨hfresh.prev, ?_, ?_⟩
    · rw [hledger]
      exact hfresh.later
    · rw [hsaved, hnode]
      exact hfresh.saved
  cases p with
  | locked facts head => exact h.trans hhead.symm
  | numbered facts head number => exact ⟨h.1.trans hhead.symm, hfresh h.2⟩
  | sealed capsule =>
      obtain ⟨hparent, number, hcarries, hnumber⟩ := h
      exact ⟨hparent.trans hhead.symm, number, hcarries, hfresh hnumber⟩
  | _ => trivial

structure Sound (calls : ℕ → Call) (s : Server) : Prop where
  holder : ∀ {t}, (s.progress t).holds = true → s.holder = some t
  fits : ∀ t, (s.progress t).Fits s (calls t).exchange.party
  chained : Chained s.state.ledger
  ascending : Ascending s.state.ledger
  counted : ∀ capsule ∈ s.state.ledger, ∀ party ∈ partyOf capsule, ∀ n ∈ seqOf capsule,
    n ≤ (s.saved.lookup (s.state.nodeId, party)).getD 0
  memory : ∀ key, (s.saved.lookup key).getD 0 ≤ (s.state.sequenceCounters.lookup key).getD 0

/-- A step that changes neither the ledger nor the counters' file. -/
theorem Sound.quiet {calls : ℕ → Call} {s s' : Server} (h : Sound calls s) (t : ℕ)
    (hledger : s'.state.ledger = s.state.ledger) (hnode : s'.state.nodeId = s.state.nodeId)
    (hsaved : s'.saved = s.saved)
    (hmemory : ∀ key, (s.state.sequenceCounters.lookup key).getD 0 ≤
      (s'.state.sequenceCounters.lookup key).getD 0)
    (hother : ∀ u, u ≠ t → s'.progress u = s.progress u)
    (hholder : ∀ u, u ≠ t → s.holder = some u → s'.holder = some u)
    (hown : (s'.progress t).holds = true → s'.holder = some t)
    (hfits : (s'.progress t).Fits s' (calls t).exchange.party) : Sound calls s' := by
  refine ⟨?_, ?_, ?_, ?_, ?_, ?_⟩
  · intro u hu
    by_cases htu : u = t
    · subst htu
      exact hown hu
    · rw [hother u htu] at hu
      exact hholder u htu (h.holder hu)
  · intro u
    by_cases htu : u = t
    · subst htu
      exact hfits
    · rw [hother u htu]
      exact (h.fits u).congr hledger hnode hsaved
  · rw [hledger]
    exact h.chained
  · rw [hledger]
    exact h.ascending
  · rw [hledger, hnode, hsaved]
    exact h.counted
  · intro key
    rw [hsaved]
    exact (h.memory key).trans (hmemory key)

theorem getD_nextSeq (store : CounterStore) (selfId party : String) (key : String × String) :
    (store.lookup key).getD 0 ≤ ((store.nextSeq selfId party).2.lookup key).getD 0 := by
  rw [CounterStore.nextSeq]
  by_cases hkey : key = (selfId, party)
  · subst hkey
    rw [AList.lookup_insert, Option.getD_some]
    exact Nat.le_succ _
  · rw [AList.lookup_insert_ne hkey]

section Steps

variable {calls : ℕ → Call} {s : Server} {t : ℕ}

/-- A call that does not hold the ledger goes on to a place where it does not either. -/
theorem Sound.setProgress (h : Sound calls s) {p : Progress} (hp : p.holds = false)
    {state : CapsuleState} (hledger : state.ledger = s.state.ledger)
    (hnode : state.nodeId = s.state.nodeId)
    (hcounters : state.sequenceCounters = s.state.sequenceCounters) :
    Sound calls { s.setProgress t p with state := state } := by
  apply h.quiet t
  · exact hledger
  · exact hnode
  · rfl
  · intro key
    rw [hcounters]
  · exact fun u hu => Function.update_of_ne hu ..
  · exact fun u _ hu => hu
  · intro hholds
    simp [Server.setProgress, hp] at hholds
  · apply Progress.fits_of_not_holds
    simp [Server.setProgress, hp]

/-- The call that holds the ledger lets it go. -/
theorem Sound.release (h : Sound calls s) (hheld : s.holder = some t) {state : CapsuleState}
    (hledger : state.ledger = s.state.ledger) (hnode : state.nodeId = s.state.nodeId)
    (hmemory : ∀ key, (s.state.sequenceCounters.lookup key).getD 0 ≤
      (state.sequenceCounters.lookup key).getD 0) :
    Sound calls { s.release t with state := state } := by
  apply h.quiet t
  · exact hledger
  · exact hnode
  · rfl
  · exact hmemory
  · exact fun u hu => Function.update_of_ne hu ..
  · intro u hu hholder
    exact absurd (Option.some.inj (hholder.symm.trans hheld)) hu
  · intro hholds
    simp [Server.release, Server.setProgress, Progress.holds] at hholds
  · apply Progress.fits_of_not_holds
    simp [Server.release, Server.setProgress, Progress.holds]

theorem Sound.prepare (h : Sound calls s) (crate : Crate) (call : Call) :
    Sound calls (s.prepare crate call t) := by
  unfold Server.prepare
  split
  · split
    · exact h.setProgress rfl rfl rfl rfl
    · exact h.setProgress rfl rfl rfl rfl
  · rename_i saves observed _
    have hlearn : (s.state.learn saves observed).ledger = s.state.ledger ∧
        (s.state.learn saves observed).nodeId = s.state.nodeId ∧
        (s.state.learn saves observed).sequenceCounters = s.state.sequenceCounters := by
      unfold CapsuleState.learn
      split_ifs
      · cases observed.hostProvenance.servedByNodeId <;> exact ⟨rfl, rfl, rfl⟩
      · exact ⟨rfl, rfl, rfl⟩
    exact h.setProgress rfl hlearn.1 hlearn.2.1 hlearn.2.2

theorem Sound.readSelf (h : Sound calls s) (crate : Crate) (call : Call) :
    Sound calls (s.readSelf crate call t) := by
  unfold Server.readSelf
  split
  · exact h
  · split
    · exact h.setProgress rfl rfl rfl rfl
    · exact h.setProgress rfl rfl rfl rfl

theorem Sound.lock (h : Sound calls s) (hfree : s.holder = none) (facts : Facts) :
    Sound calls { s.setProgress t (.locked facts s.state.chainHead) with holder := some t } := by
  apply h.quiet t
  · rfl
  · rfl
  · rfl
  · exact fun _ => le_rfl
  · exact fun u hu => Function.update_of_ne hu ..
  · intro u _ hholder
    rw [hfree] at hholder
    cases hholder
  · exact fun _ => rfl
  · simp [Server.setProgress, Progress.Fits, CapsuleState.chainHead]

/-- No other call holds the ledger. -/
theorem Sound.others (h : Sound calls s) (hheld : s.holder = some t) {u : ℕ} (hu : u ≠ t) :
    (s.progress u).holds = false := by
  by_contra hholds
  have hholder := h.holder (Bool.eq_true_of_not_eq_false hholds)
  exact hu (Option.some.inj (hholder.symm.trans hheld))

theorem Sound.takeNumber (h : Sound calls s) {facts : Facts} {head : Option String}
    (hphase : s.progress t = .locked facts head) :
    Sound calls (s.takeNumber (calls t) t facts head) := by
  have hheld : s.holder = some t := h.holder (by rw [hphase]; rfl)
  have hhead : head = s.state.chainHead := by
    have hfits := h.fits t
    rw [hphase] at hfits
    exact hfits
  unfold Server.takeNumber
  dsimp only
  split_ifs
  · refine ⟨?_, ?_, h.chained, h.ascending, ?_, fun _ => le_rfl⟩
    · intro u hu
      by_cases htu : u = t
      · subst htu
        exact hheld
      · simp only [Server.setProgress, Function.update_of_ne htu] at hu
        exact h.holder hu
    · intro u
      by_cases htu : u = t
      · subst htu
        simp only [Server.setProgress, Function.update_self]
        refine ⟨hhead, rfl, ?_, ?_⟩
        · intro capsule hcapsule hparty n hn
          have hcounted := h.counted capsule hcapsule _ hparty n hn
          have hmemory := h.memory (s.state.nodeId, (calls u).exchange.party)
          exact Nat.lt_succ_of_le (hcounted.trans hmemory)
        · simp [CounterStore.nextSeq]
      · apply Progress.fits_of_not_holds
        simpa only [Server.setProgress, Function.update_of_ne htu] using h.others hheld htu
    · intro capsule hcapsule party hparty n hn
      have hcounted := h.counted capsule hcapsule party hparty n hn
      exact (hcounted.trans (h.memory _)).trans (getD_nextSeq ..)
  · apply h.release hheld
    · rfl
    · rfl
    · exact fun _ => getD_nextSeq ..
  · exact h.release hheld rfl rfl fun _ => le_rfl

theorem Sound.seal {crate : Crate} (hseal : SealContract crate.sealCapsule) (h : Sound calls s)
    {facts : Facts} {head : Option String} {number : ℕ × Option ℕ}
    (hphase : s.progress t = .numbered facts head number) :
    Sound calls (s.seal crate (calls t) t facts head number) := by
  have hheld : s.holder = some t := h.holder (by rw [hphase]; rfl)
  have hfits := h.fits t
  rw [hphase] at hfits
  obtain ⟨hhead, hfresh⟩ := hfits
  unfold Server.seal
  split
  · rename_i capsule hcapsule
    obtain ⟨hcarries, hparent⟩ := Call.carries hseal hcapsule
    apply h.quiet t
    · rfl
    · rfl
    · rfl
    · exact fun _ => le_rfl
    · exact fun u hu => Function.update_of_ne hu ..
    · exact fun u _ hu => hu
    · exact fun _ => hheld
    · simp only [Server.setProgress, Function.update_self]
      exact ⟨hparent.trans hhead, number, hcarries, hfresh.prev, hfresh.later, hfresh.saved⟩
  · exact h.release hheld rfl rfl fun _ => le_rfl

theorem Sound.append (h : Sound calls s) {capsule : Json}
    (hphase : s.progress t = .sealed capsule) :
    Sound calls (s.append (calls t) t capsule) := by
  have hheld : s.holder = some t := h.holder (by rw [hphase]; rfl)
  have hfits := h.fits t
  rw [hphase] at hfits
  obtain ⟨hparent, number, hcarries, hfresh⟩ := hfits
  unfold Server.append
  split_ifs
  · refine ⟨?_, ?_, ?_, ⟨?_, ?_⟩, ?_, h.memory⟩
    · intro u hu
      by_cases htu : u = t
      · subst htu
        simp [Server.release, Server.setProgress, Progress.holds] at hu
      · simp only [Server.release, Server.setProgress, Function.update_of_ne htu] at hu
        rw [h.others hheld htu] at hu
        cases hu
    · intro u
      apply Progress.fits_of_not_holds
      by_cases htu : u = t
      · subst htu
        simp [Server.release, Server.setProgress, Progress.holds]
      · simpa only [Server.release, Server.setProgress, Function.update_of_ne htu] using
          h.others hheld htu
    · exact (Sidecar.links_concat (Nat.zero_le _)).mpr ⟨h.chained, hparent⟩
    · apply List.pairwise_append.mpr
      refine ⟨h.ascending.increasing, List.pairwise_singleton .., ?_⟩
      intro a ha b hb hparty m hm n hn
      obtain rfl := List.mem_singleton.mp hb
      obtain rfl : number.1 = n := Option.some.inj (hcarries.seq.symm.trans hn)
      exact hfresh.later a ha (hparty.trans hcarries.party) m hm
    · intro a ha
      rcases List.mem_append.mp ha with ha | ha
      · exact h.ascending.prev a ha
      · obtain rfl := List.mem_singleton.mp ha
        exact ⟨number.1, hcarries.seq, by rw [hcarries.prevSeq, hfresh.prev]⟩
    · intro a ha party hparty n hn
      rcases List.mem_append.mp ha with ha | ha
      · exact h.counted a ha party hparty n hn
      · obtain rfl := List.mem_singleton.mp ha
        obtain rfl : (calls t).exchange.party = party :=
          Option.some.inj (hcarries.party.symm.trans hparty)
        obtain rfl : number.1 = n := Option.some.inj (hcarries.seq.symm.trans hn)
        exact hfresh.saved
  · exact h.release hheld rfl rfl fun _ => le_rfl

theorem Sound.restart (h : Sound calls s) : Sound calls s.restart := by
  have hdropped : ∀ u, (s.restart.progress u).holds = false := by
    intro u
    cases hphase : s.progress u <;> simp [Server.restart, hphase, Progress.holds]
  refine ⟨?_, fun u => Progress.fits_of_not_holds (hdropped u), h.chained, h.ascending, h.counted,
    fun _ => le_rfl⟩
  intro u hu
  rw [hdropped u] at hu
  cases hu

theorem Sound.step {crate : Crate} (hseal : SealContract crate.sealCapsule) (h : Sound calls s)
    (move : Move) : Sound calls (s.step crate calls move) := by
  cases move with
  | restart => exact h.restart
  | call t =>
      simp only [Server.step, Server.advance]
      cases hphase : s.progress t with
      | ready => exact h.prepare crate (calls t)
      | learnt => exact h.readSelf crate (calls t)
      | waiting facts =>
        cases hfree : s.holder with
        | none =>
          simp only [Option.isNone_none, if_true]
          exact h.lock hfree facts
        | some u =>
          simp only [Option.isNone_some, Bool.false_eq_true, if_false]
          exact h
      | locked facts head => exact h.takeNumber hphase
      | numbered facts head number => exact h.seal hseal hphase
      | sealed capsule => exact h.append hphase
      | done => exact h

theorem sound_start (calls : ℕ → Call) (nodeId : String) : Sound calls (Server.start nodeId) where
  holder h := by cases h
  fits _ := trivial
  chained := by
    intro before capsule after hsplit
    simp [Server.start, Process.start] at hsplit
  ascending := ⟨List.Pairwise.nil, fun _ h => by cases h⟩
  counted _ h := by cases h
  memory _ := le_rfl

end Steps

/-! ## Every run -/

/-- However calls on both paths, their failures and restarts interleave, the ledger is one chain
and the numbers of each counter key go up. -/
theorem ledger_of_run {crate : Crate} (hseal : SealContract crate.sealCapsule)
    (calls : ℕ → Call) (nodeId : String) (moves : List Move) :
    Chained (Server.run crate calls nodeId moves).state.ledger ∧
      Ascending (Server.run crate calls nodeId moves).state.ledger := by
  have hsound : Sound calls (Server.run crate calls nodeId moves) :=
    run_invariant (Sound calls) (fun _ move h => h.step hseal move) (sound_start calls nodeId) moves
  exact ⟨hsound.chained, hsound.ascending⟩

/-- Three calls: the second, a direct admission, loses its record at the append. -/
def threeCalls (t : ℕ) : Call where
  moment := { plainMoment (String.ofList (List.replicate t 'n')) with appends := t != 1 }
  exchange := if t = 1 then .admitted plainExchange else .observed true (plainObserved (some "n1"))

/-- The calls begin together and the third is interrupted by a restart and never recorded. -/
def threeMoves : List Move :=
  [.call 0, .call 1, .call 2, .call 0, .call 2, .call 1, .call 0, .call 1, .call 2, .call 1, .call 1,
    .call 1, .call 0, .call 0, .call 0, .call 0, .call 2, .call 2, .restart, .call 2, .call 3,
    .call 3, .call 3, .call 3, .call 3, .call 3]

theorem ledger_of_run_threeCalls :
    (Server.run plainCrate threeCalls "capsule-emit-mesh" threeMoves).state.ledger.map seqOf =
        [some 2, some 4] ∧
      Chained (Server.run plainCrate threeCalls "capsule-emit-mesh" threeMoves).state.ledger ∧
      Ascending (Server.run plainCrate threeCalls "capsule-emit-mesh" threeMoves).state.ledger :=
  ⟨by decide +kernel, ledger_of_run plainCrate_contract threeCalls "capsule-emit-mesh" threeMoves⟩

end CapsuleMesh.Plugin
