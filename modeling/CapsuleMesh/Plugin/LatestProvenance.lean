import CapsuleMesh.Plugin.Roles

/-!
# The provenance of a directly served capsule

A chat completion that the plugin answers itself is sealed with the provenance that the host last
reported for the model.  The lookup asks neither for the phase of the reporting event nor for who
served it.
-/

namespace CapsuleMesh.Plugin

open Python Sequence

/-- `latest_provenance_for_model`, over the events in the order in which they were recorded. -/
def latestProvenanceForModel (events : List OpenAiExchangeEnvelope) (model : String) :
    Option HostProvenance :=
  (events.reverse.find? fun e => e.model = model && e.servingProvenance.isSome).bind
    OpenAiExchangeEnvelope.servingProvenance

/-- A terminal event of an exchange that this node served. -/
def OpenAiExchangeEnvelope.TerminalLocal (e : OpenAiExchangeEnvelope) : Prop :=
  e.phase = .terminal ∧ roleForDispatchPath e.dispatchPath = "served"

/-- Some event in the buffer reports the provenance for the model, from this node's own serving. -/
def ReportedLocally (events : List OpenAiExchangeEnvelope) (model : String)
    (provenance : HostProvenance) : Prop :=
  ∃ e ∈ events, e.TerminalLocal ∧ e.model = model ∧ e.servingProvenance = some provenance

/-- The capsule has the role and the facts of the host in its `x-mesh-poc-v1` block. -/
def SealedWith (capsule : Json) (role : String) (host : HostProvenance) : Prop :=
  ∃ mesh : MeshPocV1, pocBlock capsule = .ok mesh.toValue ∧ mesh.role = role ∧
    ∃ served party exchangeId usage number dispatchPath peer peerProvenance bracket,
      mesh.servingProvenance = { servingProvenance host served party exchangeId usage number with
        dispatchPath := dispatchPath
        peerCapsuleId := peer
        peerCapsuleIdProvenance := peerProvenance
        twinBracketId := bracket }

/-- The provenance that the lookup returns, and that a capsule of the role `served` is sealed with,
be it that of a chat completion that read the buffer or that of an observed event, in whatever
state it is sealed. -/
structure LocalProvenance (crate : Crate) (events : List OpenAiExchangeEnvelope) : Prop where
  returned : ∀ model provenance, latestProvenanceForModel events model = some provenance →
    ReportedLocally events model provenance
  sealed : ∀ moment s exchange capsule,
    exchange.hostProvenance = latestProvenanceForModel events exchange.model →
    (emitForExchange crate moment s exchange).1 = .ok capsule →
      ∃ host, SealedWith capsule "served" host ∧
        (exchange.hostProvenance = none ∧ host = {} ∨ ReportedLocally events exchange.model host)
  observed : ∀ e ∈ events, ∀ moment saves s capsule,
    (onChannelMessage crate s ⟨some e, moment, saves⟩).1 = some (.ok capsule) →
    sealedRole capsule = .ok (.str "served") →
      SealedWith capsule "served" (e.servingProvenance.getD {}) ∧ e.TerminalLocal

/-- A lookup after one more event. -/
theorem latestProvenanceForModel_append (events : List OpenAiExchangeEnvelope)
    (e : OpenAiExchangeEnvelope) (model : String) :
    latestProvenanceForModel (events ++ [e]) model =
      if e.model = model then e.servingProvenance.or (latestProvenanceForModel events model)
      else latestProvenanceForModel events model := by
  rw [latestProvenanceForModel, List.reverse_append, List.reverse_singleton, List.singleton_append,
    List.find?_cons]
  by_cases hmodel : e.model = model
  · rw [if_pos hmodel]
    cases hprovenance : e.servingProvenance with
    | none => simp [latestProvenanceForModel]
    | some provenance => simp [hmodel, hprovenance]
  · rw [if_neg hmodel]
    simp [hmodel, latestProvenanceForModel]

theorem ReportedLocally.mono {events more : List OpenAiExchangeEnvelope} {model : String}
    {provenance : HostProvenance} (h : ReportedLocally events model provenance) :
    ReportedLocally (events ++ more) model provenance := by
  obtain ⟨e, he, hlocal⟩ := h
  exact ⟨e, List.mem_append_left _ he, hlocal⟩

/-- The capsule of a chat completion has the role `served` and the facts of the provenance that
was looked up. -/
theorem sealedWith_of_emit {crate : Crate} (hseal : SealContract crate.sealCapsule)
    {moment : Moment} {s : CapsuleState} {exchange : ExchangeRecord} {capsule : Json}
    (h : (emitForExchange crate moment s exchange).1 = .ok capsule) :
    SealedWith capsule "served" exchange.host := by
  unfold emitForExchange at h
  split at h
  · obtain ⟨number, hsealed⟩ := sealNumbered_ok h
    exact ⟨_, pocBlock_of_seal hseal rfl hsealed, rfl, _, _, _, _, number, _, _, _, _, rfl⟩
  · cases h

/-- Only an event that this node served is sealed with the role `served`. -/
theorem role_eq_served {path : DispatchPath} {servedBy self : Option String}
    (h : (roleAndObservationPoint path servedBy self).1 = "served") :
    roleForDispatchPath path = "served" := by
  cases path with
  | typedFrontend => rfl
  | rawProxy => rfl
  | unknown =>
      rw [role_unknown] at h
      exact absurd h (by decide)
  | remoteMesh =>
      cases servedBy with
      | none => simp [roleAndObservationPoint, roleForDispatchPath] at h
      | some servedBy =>
        cases self with
        | none => simp [roleAndObservationPoint, roleForDispatchPath] at h
        | some self =>
          by_cases hsame : servedBy = self
          · simp [roleAndObservationPoint, roleForDispatchPath, hsame] at h
          · simp [roleAndObservationPoint, roleForDispatchPath, hsame] at h

theorem terminal_of_sealable {e : OpenAiExchangeEnvelope} (h : e.sealable = true) :
    e.phase = .terminal := by
  by_contra hphase
  simp [OpenAiExchangeEnvelope.sealable, OpenAiExchangeEnvelope.isSealableHostServed,
    OpenAiExchangeEnvelope.isSealableRequesterSide, hphase] at h

theorem sealedWith_of_observed {crate : Crate} (hseal : SealContract crate.sealCapsule)
    {e : OpenAiExchangeEnvelope} {moment : Moment} {saves : Bool} {s : CapsuleState}
    {capsule : Json}
    (h : (onChannelMessage crate s ⟨some e, moment, saves⟩).1 = some (.ok capsule))
    (hrole : sealedRole capsule = .ok (.str "served")) :
    SealedWith capsule "served" (e.servingProvenance.getD {}) ∧ e.TerminalLocal := by
  simp only [onChannelMessage] at h
  split_ifs at h with hsealable
  have hok := Option.some.inj h
  have hrole' := sealedRole_observed hseal hok
  rw [hrole, Except.ok.injEq, Json.str.injEq] at hrole'
  refine ⟨?_, terminal_of_sealable hsealable, role_eq_served hrole'.symm⟩
  rw [emitForObservedHostExchange, sealObserved] at hok
  split at hok
  · obtain ⟨number, hsealed⟩ := sealNumbered_ok hok
    exact ⟨_, pocBlock_of_seal hseal rfl hsealed, hrole'.symm, _, _, _, _, number, _, _, _, _, rfl⟩
  · cases hok

/-- The capsules add nothing to what the lookup returns. -/
theorem localProvenance_of_returned {crate : Crate} (hseal : SealContract crate.sealCapsule)
    {events : List OpenAiExchangeEnvelope}
    (h : ∀ model provenance, latestProvenanceForModel events model = some provenance →
      ReportedLocally events model provenance) : LocalProvenance crate events where
  returned := h
  sealed := by
    intro moment s exchange capsule hread hok
    refine ⟨exchange.host, sealedWith_of_emit hseal hok, ?_⟩
    cases hprovenance : exchange.hostProvenance with
    | none =>
        refine .inl ⟨rfl, ?_⟩
        rw [ExchangeRecord.host, hprovenance]
        rfl
    | some provenance =>
        refine .inr ?_
        rw [ExchangeRecord.host, hprovenance]
        apply h
        rw [← hread, hprovenance]
        rfl
  observed := fun _ _ _ _ _ _ hok hrole => sealedWith_of_observed hseal hok hrole

/-- Along a history only locally reported provenance is given out exactly when each event that
carries one is such a report, or repeats one for its model. -/
theorem localProvenance_run_iff {crate : Crate} (hseal : SealContract crate.sealCapsule)
    (events : List OpenAiExchangeEnvelope) :
    (∀ buffer, buffer <+: events → LocalProvenance crate buffer) ↔
      ∀ before e, before ++ [e] <+: events → ∀ provenance, e.servingProvenance = some provenance →
        ReportedLocally (before ++ [e]) e.model provenance := by
  constructor
  · intro h before e hprefix provenance hprovenance
    apply (h _ hprefix).returned
    rw [latestProvenanceForModel_append, if_pos rfl, hprovenance, Option.some_or]
  · intro h buffer hprefix
    apply localProvenance_of_returned hseal
    induction buffer using List.reverseRecOn with
    | nil =>
        intro model provenance hlookup
        cases hlookup
    | append_singleton before e ih =>
        intro model provenance hlookup
        have hbefore := ih ((List.prefix_append before [e]).trans hprefix)
        rw [latestProvenanceForModel_append] at hlookup
        split_ifs at hlookup with hmodel
        · cases hprovenance : e.servingProvenance with
          | none =>
            rw [hprovenance, Option.none_or] at hlookup
            exact (hbefore model provenance hlookup).mono
          | some reported =>
            rw [hprovenance, Option.some_or] at hlookup
            cases hlookup
            rw [← hmodel]
            exact h before e hprefix provenance hprovenance
        · exact (hbefore model provenance hlookup).mono

/-- An exchange that a peer served repeats the provenance that this node reported before, and one
more carries none. -/
theorem localProvenance_run_local :
    LocalProvenance plainCrate
      [plainEnvelope .typedFrontend (some "self"),
       { plainEnvelope .remoteMesh none with servingProvenance := none },
       plainEnvelope .remoteMesh (some "self")] := by
  refine (localProvenance_run_iff plainCrate_contract _).mpr ?_ _ (List.prefix_refl _)
  intro before e hprefix provenance hprovenance
  obtain ⟨rest, hrest⟩ := hprefix
  have hfirst : plainEnvelope .typedFrontend (some "self") ∈ before ++ [e] := by
    cases before with
    | nil => exact (List.cons.inj hrest).1 ▸ List.mem_cons_self
    | cons first before => exact (List.cons.inj hrest).1 ▸ List.mem_cons_self
  refine ⟨_, hfirst, ⟨rfl, rfl⟩, ?_⟩
  have hmem : e ∈ before ++ [e] ++ rest := List.mem_append_left _ (List.mem_append_right _ (by simp))
  rw [hrest] at hmem
  rcases List.mem_cons.mp hmem with rfl | hmem
  · exact ⟨rfl, hprovenance⟩
  · rcases List.mem_cons.mp hmem with rfl | hmem
    · cases hprovenance
    · obtain rfl := List.mem_singleton.mp hmem
      exact ⟨rfl, hprovenance⟩

/-- The provenance of a peer that served an exchange of this model, alone in the buffer. -/
theorem peer_provenance_sealed :
    ∃ provenance capsule,
      latestProvenanceForModel [plainEnvelope .remoteMesh (some "peer")] "model" = some provenance ∧
      ¬ ReportedLocally [plainEnvelope .remoteMesh (some "peer")] "model" provenance ∧
      (emitForExchange plainCrate (plainMoment "n") (Process.start "self" none).state
        { plainExchange with hostProvenance := some provenance }).1 = .ok capsule ∧
      sealedRole capsule = .ok (.str "served") ∧
      (do (← (← pocBlock capsule).get "serving_provenance").get "served_by_node_id") =
        .ok (.str "peer") := by
  refine ⟨_, _, rfl, ?_, rfl, rfl, rfl⟩
  rintro ⟨e, he, ⟨-, hrole⟩, -⟩
  obtain rfl := List.mem_singleton.mp he
  exact absurd hrole (by decide)

end CapsuleMesh.Plugin
