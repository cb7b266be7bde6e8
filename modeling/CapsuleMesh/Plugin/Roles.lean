import CapsuleMesh.Plugin.PairKeys

/-!
# The role of an observed exchange

`lifecycle_channel.rs` and the channel handler of `main.rs`.  A terminal envelope is sealed
as the served half or as the requester's half, never as both.  Its role is `"conflict"`
where a remote exchange names this node, as far as the node has learned its own name.
-/

namespace CapsuleMesh.Plugin

open Python Sequence

/-! ## Envelopes -/

inductive Phase where
  | effectiveRequest
  | terminal
deriving DecidableEq

inductive CapsuleIdProvenance where
  | selfMinted
  | peerAsserted
  | unknown
deriving DecidableEq

def capsuleIdProvenanceWireValue : CapsuleIdProvenance → String
  | .selfMinted => "self_minted"
  | .peerAsserted => "peer_asserted"
  | .unknown => "unknown"

/-- `HostServingProvenance` has the fields of `HostProvenance`, and `MirrorUsage` those of
`TokenUsage`. -/
structure OpenAiExchangeEnvelope where
  exchangeId : Option String
  dispatchPath : DispatchPath
  phase : Phase
  model : String
  status : Option ℕ
  capsuleId : Option String
  capsuleIdProvenance : Option CapsuleIdProvenance
  nonce : Option String
  servingProvenance : Option HostProvenance
  usage : Option TokenUsage
  requestDigest : Option String
  responseDigest : Option String
  toolCallsDigest : Option String
  reasoningDigest : Option String
  twinBracketId : Option String

namespace OpenAiExchangeEnvelope

def peerCapsuleIdForSeal (envelope : OpenAiExchangeEnvelope) : Option (String × String) :=
  match envelope.capsuleIdProvenance with
  | some .peerAsserted =>
      envelope.capsuleId.map fun id => (id, capsuleIdProvenanceWireValue .peerAsserted)
  | _ => none

/-- `matches!(status, Some(200..=299))`. -/
def succeeded (envelope : OpenAiExchangeEnvelope) : Bool :=
  envelope.status.any fun status => 200 ≤ status && status ≤ 299

def isSealableHostServed (envelope : OpenAiExchangeEnvelope) : Bool :=
  if envelope.phase ≠ .terminal then false
  else if !envelope.succeeded then false
  else if envelope.dispatchPath = .remoteMesh then false
  else
    match envelope.servingProvenance with
    | some prov => prov.architecture.isSome || prov.modelIdentityHash.isSome
    | none => false

def isSealableRequesterSide (envelope : OpenAiExchangeEnvelope) : Bool :=
  envelope.phase = .terminal && envelope.succeeded && envelope.dispatchPath = .remoteMesh

def sealable (envelope : OpenAiExchangeEnvelope) : Bool :=
  envelope.isSealableHostServed || envelope.isSealableRequesterSide

def servedByNodeId (envelope : OpenAiExchangeEnvelope) : Option String :=
  (envelope.servingProvenance.getD {}).servedByNodeId

/-- What `seal_observed_host_exchange` takes from an envelope. -/
def observed (envelope : OpenAiExchangeEnvelope) : ObservedHostExchange where
  model := envelope.model
  exchangeId := envelope.exchangeId
  requestDigest := envelope.requestDigest
  responseDigest := envelope.responseDigest
  toolCallsDigest := envelope.toolCallsDigest
  reasoningDigest := envelope.reasoningDigest
  usage := envelope.usage
  hostProvenance := envelope.servingProvenance.getD {}
  dispatchPath := envelope.dispatchPath
  nonce := envelope.nonce
  peerCapsuleId := envelope.peerCapsuleIdForSeal.map Prod.fst
  peerCapsuleIdProvenance := envelope.peerCapsuleIdForSeal.map Prod.snd
  twinBracketId := envelope.twinBracketId

end OpenAiExchangeEnvelope

/-! ## The channel -/

/-- A message on `openai.exchange.v1` with what its sealing meets; `none` is an envelope
that does not parse. -/
structure ChannelMessage where
  envelope : Option OpenAiExchangeEnvelope
  moment : Moment
  saves : Bool

/-- The handler of the channel: the outcome of sealing, where it seals, and the new state. -/
def onChannelMessage (crate : Crate) (s : CapsuleState) (message : ChannelMessage) :
    Option (Except EmitError Json) × CapsuleState :=
  match message.envelope with
  | some envelope =>
      if envelope.sealable then
        let (result, s') :=
          emitForObservedHostExchange crate message.moment message.saves s envelope.observed
        (some result, s')
      else (none, s)
  | none => (none, s)

def feed (crate : Crate) (s : CapsuleState) (messages : List ChannelMessage) : CapsuleState :=
  messages.foldl (fun s message => (onChannelMessage crate s message).2) s

/-- The id that a locally served exchange names, where the handler seals it. -/
def ChannelMessage.namesSelf (message : ChannelMessage) : Option String :=
  message.envelope.bind fun envelope =>
    if envelope.sealable && roleForDispatchPath envelope.dispatchPath = "served" then
      envelope.servedByNodeId
    else none

/-- The id that the most recent of the messages names, or the one that was known before. -/
def lastSelf (known : Option String) (messages : List ChannelMessage) : Option String :=
  ((messages.filterMap ChannelMessage.namesSelf).getLast?).or known

/-- The role that a sealed capsule carries. -/
def sealedRole (capsule : Json) : Py Json := do (← pocBlock capsule).get "role"

/-! ## What is learned -/

theorem sealNumbered_learned (crate : Crate) (moment : Moment) (s : CapsuleState)
    (counterparty : String) (input : ℕ × Option ℕ → CapsuleInput) :
    (sealNumbered crate moment s counterparty input).2.learnedSelfNodeId = s.learnedSelfNodeId := by
  simp only [sealNumbered]
  cases crate.sealCapsule (input (s.sequenceCounters.nextSeq s.nodeId counterparty).1) <;>
    split_ifs <;> rfl

theorem sealObserved_learned (crate : Crate) (moment : Moment) (s : CapsuleState)
    (observed : ObservedHostExchange) (learnedSelf : Option String) :
    (sealObserved crate moment s observed learnedSelf).2.learnedSelfNodeId =
      s.learnedSelfNodeId := by
  unfold sealObserved
  split
  · exact sealNumbered_learned _ _ _ _ _
  · rfl

theorem learn_value (s : CapsuleState) (saves : Bool) (observed : ObservedHostExchange) :
    (s.learn saves observed).learnedSelfNodeId.value =
      (if roleForDispatchPath observed.dispatchPath = "served" then
        observed.hostProvenance.servedByNodeId else none).or s.learnedSelfNodeId.value := by
  unfold CapsuleState.learn
  split_ifs with hrole
  · cases hserved : observed.hostProvenance.servedByNodeId with
    | none => rfl
    | some servedBy =>
        by_cases hknown : s.learnedSelfNodeId.value = some servedBy
        · simp [LearnedSelfNodeId.observe, hknown]
        · simp [LearnedSelfNodeId.observe, hknown]
  · rfl

/-- One message: the id is learned before the sealing, whatever becomes of that. -/
theorem onChannelMessage_learned (crate : Crate) (s : CapsuleState) (message : ChannelMessage) :
    (onChannelMessage crate s message).2.learnedSelfNodeId.value =
      message.namesSelf.or s.learnedSelfNodeId.value := by
  unfold onChannelMessage ChannelMessage.namesSelf
  cases message.envelope with
  | none => rfl
  | some envelope =>
      cases hsealable : envelope.sealable with
      | false => simp [hsealable]
      | true =>
        simp only [hsealable, if_true, emitForObservedHostExchange, sealObserved_learned,
          learn_value, Option.bind_some, Bool.true_and, decide_eq_true_eq]
        rfl

/-- After a run the node knows itself by the last name that it was given. -/
theorem feed_learned (crate : Crate) (s : CapsuleState) (messages : List ChannelMessage) :
    (feed crate s messages).learnedSelfNodeId.value =
      lastSelf s.learnedSelfNodeId.value messages := by
  induction messages using List.reverseRecOn with
  | nil => rfl
  | append_singleton messages message ih =>
      have hstep : feed crate s (messages ++ [message]) =
          (onChannelMessage crate (feed crate s messages) message).2 := by
        simp [feed]
      rw [hstep, onChannelMessage_learned, ih, lastSelf, lastSelf]
      cases hnames : message.namesSelf with
      | none => simp [hnames]
      | some id => simp [hnames]

/-! ## What is sealed -/

theorem sealNumbered_ok {crate : Crate} {moment : Moment} {s : CapsuleState}
    {counterparty : String} {input : ℕ × Option ℕ → CapsuleInput} {capsule : Json}
    (h : (sealNumbered crate moment s counterparty input).1 = .ok capsule) :
    ∃ number, crate.sealCapsule (input number) = some capsule := by
  simp only [sealNumbered] at h
  refine ⟨(s.sequenceCounters.nextSeq s.nodeId counterparty).1, ?_⟩
  cases hsealed : crate.sealCapsule
      (input (s.sequenceCounters.nextSeq s.nodeId counterparty).1) with
  | none => split_ifs at h <;> simp [hsealed] at h
  | some sealed => split_ifs at h with hsaves happends <;> simp_all

theorem sealedRole_observed {crate : Crate} (hseal : SealContract crate.sealCapsule)
    {moment : Moment} {s : CapsuleState} {observed : ObservedHostExchange}
    {learnedSelf : Option String} {capsule : Json}
    (h : (sealObserved crate moment s observed learnedSelf).1 = .ok capsule) :
    sealedRole capsule = .ok (.str (roleAndObservationPoint observed.dispatchPath
      observed.hostProvenance.servedByNodeId learnedSelf).1) := by
  unfold sealObserved at h
  split at h
  · next outputDigest _ =>
      obtain ⟨number, hsealed⟩ := sealNumbered_ok h
      have hblock : pocBlock capsule =
          .ok (observed.meshPoc crate moment learnedSelf number).toValue :=
        pocBlock_of_seal hseal rfl hsealed
      exact Py.bind_eq_ok.mpr ⟨_, hblock, rfl⟩
  · cases h

/-- Where a locally served exchange that names a node has been learned from, only a remote
one conflicts. -/
theorem role_eq_conflict_iff {path : DispatchPath} {servedBy self : Option String}
    (hself : roleForDispatchPath path = "served" → ∀ id ∈ servedBy, self = some id) :
    (roleAndObservationPoint path servedBy self).1 = "conflict" ↔
      path = .remoteMesh ∧ ∃ id, servedBy = some id ∧ self = some id := by
  cases servedBy with
  | none => cases path <;> simp [roleAndObservationPoint, roleForDispatchPath]
  | some servedBy =>
      cases path with
      | remoteMesh =>
        cases self with
        | none => simp [roleAndObservationPoint, roleForDispatchPath]
        | some self =>
          by_cases heq : servedBy = self
          · simp [roleAndObservationPoint, roleForDispatchPath, heq]
          · simp [roleAndObservationPoint, roleForDispatchPath, heq, eq_comm]
      | unknown => simp [roleAndObservationPoint, roleForDispatchPath]
      | typedFrontend =>
        obtain rfl := hself rfl servedBy rfl
        simp [roleAndObservationPoint, roleForDispatchPath]
      | rawProxy =>
        obtain rfl := hself rfl servedBy rfl
        simp [roleAndObservationPoint, roleForDispatchPath]

theorem role_unknown (servedBy self : Option String) :
    (roleAndObservationPoint .unknown servedBy self).1 = "unknown" := rfl

theorem not_sealable_twice (envelope : OpenAiExchangeEnvelope) :
    ¬(envelope.isSealableHostServed = true ∧ envelope.isSealableRequesterSide = true) := by
  rintro ⟨hserved, hrequested⟩
  have hremote : envelope.dispatchPath = .remoteMesh := by
    simp only [OpenAiExchangeEnvelope.isSealableRequesterSide, Bool.and_eq_true,
      decide_eq_true_eq] at hrequested
    exact hrequested.2
  simp [OpenAiExchangeEnvelope.isSealableHostServed, hremote] at hserved

/-- The role of every capsule sealed along a run: a conflict is a remote exchange that names
the node by the last name that a locally served exchange gave it, be that one sealed or not. -/
theorem sealedRole_conflict_iff {crate : Crate} (hseal : SealContract crate.sealCapsule)
    (nodeId : String) (saved : Option String) (before : List ChannelMessage)
    {envelope : OpenAiExchangeEnvelope} {moment : Moment} {saves : Bool} {capsule : Json}
    (h : (onChannelMessage crate (feed crate (Process.start nodeId saved).state before)
      ⟨some envelope, moment, saves⟩).1 = some (.ok capsule)) :
    (sealedRole capsule = .ok (.str "conflict") ↔
      envelope.dispatchPath = .remoteMesh ∧
        ∃ id, envelope.servedByNodeId = some id ∧ lastSelf saved before = some id) ∧
    (roleForDispatchPath envelope.dispatchPath = "served" →
      sealedRole capsule ≠ .ok (.str "conflict")) ∧
    (envelope.dispatchPath = .unknown → sealedRole capsule ≠ .ok (.str "served")) ∧
    ∀ envelope' : OpenAiExchangeEnvelope,
      ¬(envelope'.isSealableHostServed = true ∧ envelope'.isSealableRequesterSide = true) := by
  have hlearned : (feed crate (Process.start nodeId saved).state before).learnedSelfNodeId.value =
      lastSelf saved before := feed_learned crate _ before
  generalize feed crate (Process.start nodeId saved).state before = s at h hlearned
  have hsealed : (emitForObservedHostExchange crate moment saves s envelope.observed).1 =
      .ok capsule := by
    simp only [onChannelMessage] at h
    split_ifs at h
    exact Option.some.inj h
  have hrole := sealedRole_observed hseal hsealed
  rw [learn_value, hlearned] at hrole
  change sealedRole capsule = .ok (.str (roleAndObservationPoint envelope.dispatchPath
    envelope.servedByNodeId (Option.or (if roleForDispatchPath envelope.dispatchPath = "served"
      then envelope.servedByNodeId else none) (lastSelf saved before))).1) at hrole
  set self := Option.or (if roleForDispatchPath envelope.dispatchPath = "served"
    then envelope.servedByNodeId else none) (lastSelf saved before) with hset
  have hself : roleForDispatchPath envelope.dispatchPath = "served" →
      ∀ id ∈ envelope.servedByNodeId, self = some id := by
    intro hserved id hid
    rw [hset, if_pos hserved, hid, Option.some_or]
  have hremote : envelope.dispatchPath = .remoteMesh → self = lastSelf saved before := by
    intro hpath
    rw [hset, hpath]
    rfl
  have hconflict : sealedRole capsule = .ok (.str "conflict") ↔
      envelope.dispatchPath = .remoteMesh ∧
        ∃ id, envelope.servedByNodeId = some id ∧ lastSelf saved before = some id := by
    rw [hrole, Except.ok.injEq, Json.str.injEq]
    refine (role_eq_conflict_iff hself).trans (and_congr_right fun hpath => ?_)
    rw [hremote hpath]
  refine ⟨hconflict, ?_, ?_, not_sealable_twice⟩
  · intro hserved hcapsule
    rw [(hconflict.mp hcapsule).1] at hserved
    exact absurd hserved (by decide)
  · intro hpath hcapsule
    rw [hrole] at hcapsule
    rw [hpath, role_unknown] at hcapsule
    exact absurd (Json.str.inj (Except.ok.inj hcapsule)) (by decide)

/-! ## A name that was not sealed -/

def plainEnvelope (path : DispatchPath) (servedBy : Option String) : OpenAiExchangeEnvelope where
  exchangeId := none
  dispatchPath := path
  phase := .terminal
  model := "model"
  status := some 200
  capsuleId := none
  capsuleIdProvenance := none
  nonce := none
  servingProvenance := some { servedByNodeId := servedBy, architecture := some "llama" }
  usage := none
  requestDigest := none
  responseDigest := none
  toolCallsDigest := none
  reasoningDigest := none
  twinBracketId := none

/-- A locally served exchange that names `n1` and whose ledger append fails. -/
def unsealedLocal : ChannelMessage :=
  ⟨some (plainEnvelope .typedFrontend (some "n1")), { plainMoment "1" with appends := false }, true⟩

def remoteNamed (id : String) : ChannelMessage :=
  ⟨some (plainEnvelope .remoteMesh (some id)), plainMoment "2", true⟩

/-- No locally served exchange was ever sealed, and the remote one is sealed as a conflict. -/
theorem conflict_without_sealed_local :
    let s := (Process.start "capsule-emit-mesh" none).state
    (onChannelMessage plainCrate s unsealedLocal).1 = some (.error .append) ∧
      (feed plainCrate s [unsealedLocal]).ledger = [] ∧
      ∃ capsule, (onChannelMessage plainCrate (feed plainCrate s [unsealedLocal])
          (remoteNamed "n1")).1 = some (.ok capsule) ∧
        sealedRole capsule = .ok (.str "conflict") := by
  intro s
  exact ⟨rfl, rfl, _, rfl, rfl⟩

theorem sealedRole_conflict_iff_rotated :
    ∃ capsule, (onChannelMessage plainCrate (feed plainCrate
        (Process.start "capsule-emit-mesh" (some "n0")).state [unsealedLocal])
        (remoteNamed "n1")).1 = some (.ok capsule) ∧
      sealedRole capsule = .ok (.str "conflict") := by
  refine ⟨_, rfl, ?_⟩
  apply (sealedRole_conflict_iff plainCrate_contract "capsule-emit-mesh" (some "n0")
    [unsealedLocal] (rfl : (onChannelMessage plainCrate (feed plainCrate
      (Process.start "capsule-emit-mesh" (some "n0")).state [unsealedLocal])
      ⟨some (plainEnvelope .remoteMesh (some "n1")), plainMoment "2", true⟩).1 = _)).1.mpr
  exact ⟨rfl, "n1", rfl, rfl⟩

end CapsuleMesh.Plugin
