import CapsuleMesh.Sidecar.NativeLog

/-!
# Numbers of the bodies in a capsule

`json_digest` and `emit` refuse floats and integers beyond `±(2^53 - 1)`.  The digests of the two
bodies are guarded against that, but some values of the bodies are embedded in the capsule as they
are, or with only their floats or only their integers checked.
-/

namespace CapsuleMesh.Sidecar

open Python Sequence

/-! ## Digestible values -/

theorem digestible_obj {members : List (String × Json)} :
    digestible (.obj members) = true ↔ ∀ m ∈ members, digestible m.2 = true := by
  rw [digestible]
  induction members with
  | nil => simp [digestibleMembers]
  | cons m ms ih => rw [digestibleMembers, Bool.and_eq_true, ih, List.forall_mem_cons]

theorem digestible_arr {elems : List Json} :
    digestible (.arr elems) = true ↔ ∀ e ∈ elems, digestible e = true := by
  rw [digestible]
  induction elems with
  | nil => simp [digestibleElems]
  | cons e es ih => rw [digestibleElems, Bool.and_eq_true, ih, List.forall_mem_cons]

@[simp] theorem digestible_str (s : String) : digestible (.str s) = true := by simp [digestible]

@[simp] theorem digestible_null : digestible .null = true := by simp [digestible]

@[simp] theorem digestible_bool (b : Bool) : digestible (.bool b) = true := by simp [digestible]

@[simp] theorem digestible_ofStr? (s : Option String) : digestible (.ofStr? s) = true := by
  cases s <;> simp [Json.ofStr?]

/-- Every integer in the value is in the range; floats do not matter. -/
def IntegersFit (value : Json) : Prop := digestible (stringifyFloats value) = true

/-! ## What is assumed -/

/-- The values that `emit` puts into the capsule. -/
def numbersSafe (args : EmitArgs) : Bool :=
  digestible args.computeAttestation && digestible args.effect && digestible args.disposition

/-- `emit` and `json_digest` refuse exactly the unsafe numbers. -/
structure RefusesNumbers (emit : Emit) (digests : Digests) : Prop where
  emit : ∀ args, (∃ capsule, emit args = .ok capsule) ↔ numbersSafe args = true
  digest : ∀ value, (digests.jsonDigest value).isSome = digestible value

/-- What a capsule takes from the node itself holds no unsafe number. -/
structure CleanNode (digests : Digests) (ctx : SealContext) : Prop where
  manifest : ∃ members modelId, ctx.cfg.manifest = .obj members ∧
    members.lookup "model_id" = some modelId ∧ digestible modelId = true ∧
    ∀ args, ∃ verdict,
      ctx.cfg.reconcile (servingProvenance ctx.cfg args ctx.number modelId) = .ok verdict ∧
      digestible verdict = true
  advertisement : digestible ctx.cfg.advertisement = true
  number : digestible (.int ctx.number.1) = true ∧ digestible (.ofInt? ctx.number.2) = true
  owner : ∃ owner, Ownership.ownerProvenanceBlock digests.cert ctx.cfg.nodeOwnership
    (ctx.cfg.ownerNodeEndpointId.getD "") ctx.cfg.identityCapsuleId ctx.nowUnixMs = .ok owner ∧
    digestible owner = true

/-! ## The fields that come from the bodies -/

/-- The generation parameters of the request hold no integer out of range. -/
def ParametersFit (request : List (String × Json)) : Prop :=
  ∀ key ∈ GENERATION_PARAM_KEYS, ∀ value, request.lookup key = some value → IntegersFit value

/-- The usage is left out for an integer out of range, and else holds no float. -/
def UsageSafe (response : List (String × Json)) : Prop :=
  ∀ usage, response.lookup "usage" = some (.obj usage) → IntegersFit (.obj usage) →
    digestible (.obj usage) = true

/-- The nonce of an attestation that came with the request. -/
def NonceSafe (eval : Option BilateralEvalResult) : Prop :=
  ∀ result ∈ eval, result.present = true → digestible result.correlator = true

/-- The finish reason of the first choice. -/
def FinishSafe (response : List (String × Json)) : Prop :=
  ∀ choice choices, response.lookup "choices" = some (.arr (.obj choice :: choices)) →
    ∀ value, choice.lookup "finish_reason" = some value → digestible value = true

theorem presentEntries_obj (request : List (String × Json)) (keys : List String) :
    ∃ entries, presentEntries (.obj request) keys = .ok entries ∧
      ((∀ m ∈ entries, IntegersFit m.2) ↔
        ∀ key ∈ keys, ∀ value, request.lookup key = some value → IntegersFit value) := by
  induction keys with
  | nil => exact ⟨[], rfl, by simp⟩
  | cons key keys ih =>
      obtain ⟨entries, hentries, hfit⟩ := ih
      have hnull : IntegersFit .null := by simp [IntegersFit, stringifyFloats]
      cases hlookup : request.lookup key with
      | none =>
        refine ⟨entries, ?_, ?_⟩
        · simp [presentEntries, hlookup, hentries, Json.isNull]
        · rw [hfit, List.forall_mem_cons]
          simp [hlookup]
      | some value =>
        cases hvalue : value.isNull with
        | true =>
          obtain rfl : value = .null := by
            cases value with
            | null => rfl
            | _ => cases hvalue
          refine ⟨entries, ?_, ?_⟩
          · simp [presentEntries, hlookup, hentries, Json.isNull]
          · rw [hfit, List.forall_mem_cons]
            simp [hlookup, hnull]
        | false =>
          refine ⟨(key, value) :: entries, ?_, ?_⟩
          · simp [presentEntries, hlookup, hentries, hvalue]
          · rw [List.forall_mem_cons, List.forall_mem_cons, hfit]
            simp [hlookup]

theorem digestible_invocation {facts : List (String × Json × String)} :
    digestible (.obj (invocation facts)) = true ↔ ∀ fact ∈ facts, digestible fact.2.1 = true := by
  have hentries : (∀ m ∈ (facts.filter fun fact => !fact.2.1.isNull).map
      fun fact => (fact.1, fact.2.1), digestible m.2 = true) ↔
      ∀ fact ∈ facts, digestible fact.2.1 = true := by
    rw [List.forall_mem_map]
    constructor
    · intro h fact hfact
      cases hnull : fact.2.1.isNull with
      | true =>
        cases hvalue : fact.2.1 with
        | null => exact digestible_null
        | _ => simp [hvalue, Json.isNull] at hnull
      | false => exact h fact (List.mem_filter.mpr ⟨hfact, by simp [hnull]⟩)
    · exact fun h fact hfact => h fact (List.mem_of_mem_filter hfact)
  have hsource : ∀ known : List (String × Json × String), digestible
      (.obj (known.map fun fact => (fact.1, Json.str fact.2.2))) = true := by
    intro known
    rw [digestible_obj, List.forall_mem_map]
    exact fun fact _ => digestible_str fact.2.2
  rw [digestible_obj, ← hentries]
  unfold invocation
  dsimp only
  split_ifs
  · rfl
  · rw [List.forall_mem_append]
    refine and_iff_left ?_
    intro m hm
    obtain rfl := List.mem_singleton.mp hm
    exact hsource _

theorem finishStatus_obj (response : List (String × Json)) :
    ∃ value, finishStatus (.obj response) = .ok value ∧
      (digestible value = true ↔ FinishSafe response) := by
  unfold finishStatus FinishSafe
  rw [Json.get_obj, Py.ok_bind]
  split
  · rename_i choice choices hchoices
    refine ⟨(choice.lookup "finish_reason").getD .null, rfl, ?_⟩
    have hlookup : response.lookup "choices" = some (.arr (.obj choice :: choices)) := by
      cases hresponse : response.lookup "choices" with
      | none => simp [hresponse] at hchoices
      | some v => simpa [hresponse] using hchoices
    constructor
    · rintro h choice' choices' hlookup' value hvalue
      rw [hlookup] at hlookup'
      obtain ⟨rfl, rfl⟩ : choice = choice' ∧ choices = choices' := by simpa using hlookup'
      simpa [hvalue] using h
    · intro h
      cases hvalue : choice.lookup "finish_reason" with
      | none => simp
      | some value => simpa using h choice choices hlookup value hvalue
  · rename_i hother
    refine ⟨.null, rfl, iff_of_true digestible_null ?_⟩
    intro choice choices hlookup
    exact absurd (by rw [hlookup, Option.getD_some]) (hother choice choices)

theorem responseRef_obj (digests : Digests) (response : List (String × Json)) :
    ∃ value, responseRef digests (.obj response) = .ok value ∧ digestible value = true := by
  unfold responseRef
  rw [Json.get_obj, Py.ok_bind]
  split
  · split_ifs
    · exact ⟨.null, rfl, digestible_null⟩
    · exact ⟨_, rfl, by simp [digestible_obj]⟩
  · exact ⟨.null, rfl, digestible_null⟩

/-- The usage as it is embedded. -/
def embeddedUsage (digests : Digests) (usage : Json) : Json :=
  match usage with
  | .obj _ => safeEmbed digests usage
  | _ => .null

theorem digestible_embeddedUsage {digests : Digests}
    (hdigest : ∀ value, (digests.jsonDigest value).isSome = digestible value)
    (response : List (String × Json)) :
    digestible (embeddedUsage digests ((response.lookup "usage").getD .null)) = true ↔
      UsageSafe response := by
  unfold UsageSafe embeddedUsage safeEmbed safeDigestJson IntegersFit
  cases hlookup : response.lookup "usage" with
  | none => simp
  | some value =>
      cases value with
      | obj usage =>
        simp only [Option.getD_some, hdigest]
        split_ifs with hfit
        · simp [hfit]
        · simp [hfit]
      | _ => simp

theorem invocationFacts_obj {digests : Digests}
    (hdigest : ∀ value, (digests.jsonDigest value).isSome = digestible value)
    (request response : List (String × Json)) :
    ∃ facts, invocationFacts digests (.obj request) (.obj response) = .ok facts ∧
      ((∀ fact ∈ facts, digestible fact.2.1 = true) ↔
        UsageSafe response ∧ FinishSafe response) := by
  obtain ⟨finish, hfinish, hfinishSafe⟩ := finishStatus_obj response
  obtain ⟨ref, href, hrefSafe⟩ := responseRef_obj digests response
  have husage := digestible_embeddedUsage hdigest response
  have hmodel : ∀ members : List (String × Json),
      ∃ value, modelField (.obj members) = .ok value ∧ digestible value = true :=
    fun members => ⟨_, rfl, digestible_ofStr? _⟩
  obtain ⟨requested, hrequested, hrequestedSafe⟩ := hmodel request
  obtain ⟨resolved, hresolved, hresolvedSafe⟩ := hmodel response
  cases response with
  | nil =>
      refine ⟨[("requested_model_id", requested, "self_reported")], ?_, ?_⟩
      · simp [invocationFacts, hrequested]
      · simp [hrequestedSafe, UsageSafe, FinishSafe]
  | cons m ms =>
      refine ⟨[("requested_model_id", requested, "self_reported"),
        ("resolved_model_id", resolved, "provider_reported"),
        ("usage", embeddedUsage digests (((m :: ms).lookup "usage").getD .null),
          "provider_reported"),
        ("finish_status", finish, "provider_reported"),
        ("response_ref", ref, "provider_reported")], ?_, ?_⟩
      · simp only [invocationFacts, hrequested, hresolved, hfinish, href, Json.get_obj, Py.ok_bind,
          Json.truthy_obj, List.isEmpty_cons, Bool.not_false, if_true, Py.pure_eq_ok]
        rfl
      simp only [List.forall_mem_cons, hrequestedSafe, hresolvedSafe, hrefSafe, hfinishSafe,
        true_and, List.not_mem_nil, false_implies, implies_true, and_true]
      rw [husage]

/-! ## The capsule -/

theorem digestible_servingProvenance {digests : Digests} {ctx : SealContext}
    (hnode : CleanNode digests ctx) (args : BuildArgs) {modelId : Json}
    (hmodelId : digestible modelId = true) :
    digestible (servingProvenance ctx.cfg args ctx.number modelId) = true := by
  have hasserted : digestible (if (counterpartyRef ctx.cfg args).any (· ≠ "") then
      .str "peer_asserted" else .null) = true := by
    split_ifs
    · exact digestible_str _
    · exact digestible_null
  rw [servingProvenance, digestible_obj]
  simp only [List.forall_mem_cons, List.not_mem_nil, false_implies, implies_true, and_true,
    digestible_str, digestible_ofStr?, hnode.number.1, hnode.number.2, hmodelId, hasserted]

theorem digestible_crossParty {eval : Option BilateralEvalResult} :
    digestible (crossParty eval) = true ↔ NonceSafe eval := by
  unfold NonceSafe
  cases eval with
  | none => simp [crossParty]
  | some result =>
      have hinitiator : digestible
          (if result.valid then .ofStr? result.initiatorRef else .null) = true := by
        cases result.valid
        · exact digestible_null
        · exact digestible_ofStr? _
      cases hpresent : result.present with
      | false => simp [crossParty, hpresent]
      | true =>
        rw [crossParty, if_pos hpresent, digestible_obj]
        simp only [List.forall_mem_cons, List.not_mem_nil, false_implies, implies_true, and_true,
          hinitiator, digestible_null, digestible_bool, true_and]
        simp [hpresent]

theorem digestible_pocFields {cfg : NodeConfig} {args : BuildArgs}
    {parameters provenance reconciliation owner : Json}
    (hprovenance : digestible provenance = true) (hreconciliation : digestible reconciliation = true)
    (howner : digestible owner = true)
    (hadvertisement : digestible cfg.advertisement = true) :
    digestible (pocFields cfg args parameters provenance reconciliation owner) = true ↔
      digestible parameters = true ∧ digestible args.forwardedCopy = true ∧
        NonceSafe args.bilateralEval := by
  have hmeter : digestible (computeMeter args.latencyMs) = true := by
    rw [computeMeter, digestible_obj]
    simp
  have href : ∀ name, digestible (emptyEvidenceRef name).2 = true := by
    intro name
    rw [emptyEvidenceRef, digestible_obj]
    simp
  have hevidence : digestible (.obj
      [emptyEvidenceRef "statistical_fingerprint", emptyEvidenceRef "tee_attestation"]) = true := by
    rw [digestible_obj]
    simp [href]
  have hcaveat : digestible (if args.bilateralEval.any (·.present) then
      .str IDENTITY_LIMITATION_CAVEAT else .null) = true := by
    split_ifs
    · exact digestible_str _
    · exact digestible_null
  rw [pocFields, digestible_obj]
  simp only [List.forall_mem_cons, List.not_mem_nil, false_implies, implies_true, and_true,
    digestible_str, hprovenance, hreconciliation, howner, hadvertisement, hmeter, hevidence,
    hcaveat, true_and, digestible_crossParty]

/-- A block that is left out when it is empty. -/
theorem digestible_unlessEmpty (key : String) (members : List (String × Json)) :
    (∀ m ∈ if members.isEmpty then [] else [(key, Json.obj members)], digestible m.2 = true) ↔
      digestible (.obj members) = true := by
  cases members with
  | nil => simp [digestible_obj]
  | cons m ms => rw [if_neg (by simp), List.forall_mem_singleton]

theorem computeAttestation_obj {digests : Digests} {ctx : SealContext}
    (hnode : CleanNode digests ctx)
    (hdigest : ∀ value, (digests.jsonDigest value).isSome = digestible value)
    {args : BuildArgs} {request response : List (String × Json)}
    (hrequest : args.requestJson = .obj request) (hresponse : args.responseJson = .obj response)
    (hnow : args.nowUnixMs = ctx.nowUnixMs) :
    ∃ attestation, computeAttestation digests ctx.cfg args ctx.number = .ok attestation ∧
      (digestible attestation = true ↔ ParametersFit request ∧ UsageSafe response ∧
        FinishSafe response ∧ digestible args.forwardedCopy = true ∧
        NonceSafe args.bilateralEval) := by
  obtain ⟨members, modelId, hmanifest, hlookup, hmodelId, hreconcile⟩ := hnode.manifest
  obtain ⟨verdict, hverdict, hverdictSafe⟩ := hreconcile args
  obtain ⟨owner, howner, hownerSafe⟩ := hnode.owner
  obtain ⟨entries, hentries, hparameters⟩ := presentEntries_obj request GENERATION_PARAM_KEYS
  obtain ⟨facts, hfacts, hfactsSafe⟩ := invocationFacts_obj hdigest request response
  have hmodel : ctx.cfg.manifest.get "model_id" = .ok modelId := by
    rw [hmanifest, Json.get_obj, hlookup, Option.getD_some]
  rw [← hnow] at howner
  have hstringified : digestible (.obj (stringifyMembers entries)) = true ↔
      ParametersFit request := by
    rw [digestible_obj, stringifyMembers_eq_map, List.forall_mem_map]
    exact hparameters
  have hpoc : digestible (pocFields ctx.cfg args (.obj (stringifyMembers entries))
      (servingProvenance ctx.cfg args ctx.number modelId) verdict owner) = true ↔
      ParametersFit request ∧ digestible args.forwardedCopy = true ∧
        NonceSafe args.bilateralEval := by
    rw [← hstringified]
    apply digestible_pocFields
    · exact digestible_servingProvenance hnode args hmodelId
    · exact hverdictSafe
    · exact hownerSafe
    · exact hnode.advertisement
  have hruntime : digestible (runtimeBlock ctx.cfg) = true := by
    unfold runtimeBlock
    rw [digestible_obj]
    split_ifs <;> simp
  have hdecoding : ParametersFit request → digestible (.obj
      ((stringifyMembers entries).filter
        fun entry => entry.1 = "temperature" || entry.1 = "seed")) = true := by
    rw [← hstringified, digestible_obj, digestible_obj]
    exact fun h m hm => h m (List.mem_of_mem_filter hm)
  have hsource : ∀ m ∈ if ((stringifyMembers entries).filter
        fun entry => entry.1 = "temperature" || entry.1 = "seed").isEmpty then []
      else [("source", Json.obj [("decoding", .str "self_reported")])], digestible m.2 = true := by
    split_ifs
    · exact List.forall_mem_nil _
    · rw [List.forall_mem_singleton, digestible_obj, List.forall_mem_singleton]
      exact digestible_str _
  have hrefs : digestible (.arr []) = true := digestible_arr.mpr (List.forall_mem_nil _)
  refine ⟨?attestation, ?ok, ?safe⟩
  case ok =>
    unfold computeAttestation ownerBlock
    simp only [hrequest, hresponse, hentries, hmodel, hverdict, hfacts, howner, Py.ok_bind]
    rfl
  rw [digestible_obj]
  simp only [List.forall_mem_append, List.forall_mem_cons, digestible_unlessEmpty, hruntime, hpoc,
    digestible_invocation, hfactsSafe, digestible_str, digestible_ofStr?, hrefs, true_and]
  constructor
  · rintro ⟨⟨⟨⟨⟨hfit, hcopy, hnonce⟩, -⟩, -⟩, husage, hfinish⟩, -⟩
    exact ⟨hfit, husage, hfinish, hcopy, hnonce⟩
  · rintro ⟨hfit, husage, hfinish, hcopy, hnonce⟩
    exact ⟨⟨⟨⟨⟨hfit, hcopy, hnonce⟩, List.forall_mem_nil _⟩, hdecoding hfit⟩, husage, hfinish⟩,
      hsource⟩

/-! ## The ids of the tool calls -/

/-- The ids that the upstream gave to these tool calls. -/
def callIds (calls : List Json) : List Json :=
  calls.filterMap fun call =>
    match call with
    | .obj members => some ((members.lookup "id").getD .null)
    | _ => none

def choiceCallIds : Json → List Json
  | .obj members =>
      match members.lookup "message" with
      | some (.obj message) =>
        match message.lookup "tool_calls" with
        | some (.arr calls) => (callIds calls).filter Json.truthy
        | _ => []
      | _ => []
  | _ => []

def toolCallIds (response : List (String × Json)) : List Json :=
  match response.lookup "choices" with
  | some (.arr choices) => choices.flatMap choiceCallIds
  | _ => []

@[simp] theorem note_upstreamToolCallIds (log : ForwardLog) (t : Transform) :
    (log.note t).upstreamToolCallIds = log.upstreamToolCallIds := by
  unfold ForwardLog.note
  split_ifs <;> rfl

theorem forwardToolCalls_ids {uuids : ℕ → String} {calls copies : List Json}
    {log log' : ForwardLog} (h : forwardToolCalls uuids calls log = .ok (copies, log')) :
    log'.upstreamToolCallIds = log.upstreamToolCallIds ++ (callIds calls).filter Json.truthy := by
  induction calls generalizing log copies with
  | nil =>
      obtain ⟨-, rfl⟩ := Prod.mk.inj (Except.ok.inj h)
      simp [callIds]
  | cons call calls ih =>
      cases call with
      | obj members =>
        simp only [forwardToolCalls] at h
        split_ifs at h with hid
        · obtain ⟨⟨rest, log''⟩, hrest, h⟩ := Py.bind_eq_ok.mp h
          obtain ⟨-, rfl⟩ := Prod.mk.inj (Except.ok.inj h)
          rw [ih hrest]
          simp [callIds, hid]
        · obtain ⟨⟨rest, log''⟩, hrest, h⟩ := Py.bind_eq_ok.mp h
          obtain ⟨-, rfl⟩ := Prod.mk.inj (Except.ok.inj h)
          rw [ih hrest, note_upstreamToolCallIds]
          simp [callIds, hid]
      | _ => cases h

/-- Only a list of tool calls gets through the loop. -/
theorem forwardToolCalls_arr {uuids : ℕ → String} {value : Json} {calls copies : List Json}
    {log log' : ForwardLog} (hvalue : value.truthy = true) (hiter : value.iter = .ok calls)
    (h : forwardToolCalls uuids calls log = .ok (copies, log')) : value = .arr calls := by
  cases value with
  | arr elems =>
      obtain rfl := Except.ok.inj hiter
      rfl
  | str text =>
      obtain rfl := Except.ok.inj hiter
      cases htext : text.toList with
      | nil =>
        obtain rfl : text = "" := by simpa using htext
        cases hvalue
      | cons c cs =>
        rw [htext] at h
        cases h
  | obj members =>
      obtain rfl := Except.ok.inj hiter
      cases members with
      | nil => cases hvalue
      | cons m ms => cases h
  | _ => cases hiter

theorem forwardChoice_ids {uuids : ℕ → String} {choice copy : Json} {log log' : ForwardLog}
    (h : forwardChoice uuids choice log = .ok (copy, log')) :
    log'.upstreamToolCallIds = log.upstreamToolCallIds ++ choiceCallIds choice := by
  cases choice with
  | obj members =>
      simp only [forwardChoice, Json.getD_obj, Py.ok_bind] at h
      cases hmessage : members.lookup "message" with
      | none =>
        rw [hmessage] at h
        obtain ⟨-, rfl⟩ := Prod.mk.inj (Except.ok.inj h)
        simp [choiceCallIds, hmessage]
      | some value =>
        cases value with
        | obj message =>
          simp only [hmessage, Option.getD_some] at h
          split at h
          · rename_i hcalls
            obtain ⟨calls, hiter, h⟩ := Py.bind_eq_ok.mp h
            obtain ⟨⟨copies, log₁⟩, hloop, h⟩ := Py.bind_eq_ok.mp h
            obtain ⟨-, rfl⟩ := Prod.mk.inj (Except.ok.inj h)
            rw [forwardToolCalls_ids hloop]
            have harr := forwardToolCalls_arr hcalls hiter hloop
            have hlookup : message.lookup "tool_calls" = some (.arr calls) := by
              cases htool : message.lookup "tool_calls" with
              | none => simp [htool] at harr
              | some value => simpa [htool] using harr
            simp only [choiceCallIds, hmessage, hlookup]
            split_ifs
            · rw [note_upstreamToolCallIds]
            · rfl
          · rename_i hcalls
            obtain ⟨-, rfl⟩ := Prod.mk.inj (Except.ok.inj h)
            have hids : choiceCallIds (.obj members) = [] := by
              simp only [choiceCallIds, hmessage]
              cases htool : message.lookup "tool_calls" with
              | none => rfl
              | some value =>
                cases value with
                | arr calls =>
                  cases calls with
                  | nil => rfl
                  | cons c cs => simp [htool, Json.truthy] at hcalls
                | _ => rfl
            simp [hids, hcalls]
        | _ =>
          rw [hmessage] at h
          cases h
  | _ => cases h

theorem forwardChoices_ids {uuids : ℕ → String} {choices copies : List Json}
    {log log' : ForwardLog} (h : forwardChoices uuids choices log = .ok (copies, log')) :
    log'.upstreamToolCallIds = log.upstreamToolCallIds ++ choices.flatMap choiceCallIds := by
  induction choices generalizing log copies with
  | nil =>
      obtain ⟨-, rfl⟩ := Prod.mk.inj (Except.ok.inj h)
      simp
  | cons choice choices ih =>
      obtain ⟨⟨copy, log₁⟩, hchoice, h⟩ := Py.bind_eq_ok.mp h
      obtain ⟨⟨rest, log₂⟩, hrest, h⟩ := Py.bind_eq_ok.mp h
      obtain ⟨-, rfl⟩ := Prod.mk.inj (Except.ok.inj h)
      rw [ih hrest, forwardChoice_ids hchoice, List.flatMap_cons, List.append_assoc]

theorem buildForwardedCopy_ids {uuids : ℕ → String} {response : List (String × Json)}
    {forwarded : Json} {log : ForwardLog}
    (h : buildForwardedCopy uuids (.obj response) = .ok (forwarded, log)) :
    log.upstreamToolCallIds = toolCallIds response := by
  simp only [buildForwardedCopy, Json.getD_obj, Py.ok_bind] at h
  obtain ⟨choices, hiter, h⟩ := Py.bind_eq_ok.mp h
  obtain ⟨⟨copies, log'⟩, hchoices, h⟩ := Py.bind_eq_ok.mp h
  have hlog : log' = log := by
    simp only at h
    split_ifs at h
    · exact (Prod.mk.inj (Except.ok.inj h)).2
    · exact (Prod.mk.inj (Except.ok.inj h)).2
  subst hlog
  rw [forwardChoices_ids hchoices]
  unfold toolCallIds
  cases hlookup : response.lookup "choices" with
  | none =>
      rw [hlookup] at hiter
      obtain rfl := Except.ok.inj hiter
      rfl
  | some value =>
      rw [hlookup, Option.getD_some] at hiter
      cases value with
      | arr elems =>
        obtain rfl := Except.ok.inj hiter
        rfl
      | str text =>
        obtain rfl := Except.ok.inj hiter
        cases htext : text.toList with
        | nil => rfl
        | cons c cs =>
          rw [htext] at hchoices
          cases hchoices
      | obj members =>
        obtain rfl := Except.ok.inj hiter
        cases members with
        | nil => rfl
        | cons m ms => cases hchoices
      | _ => cases hiter

/-! ## Building the capsule of a handled exchange -/

/-- What `do_POST` hands to `build_capsule` for a parsed request. -/
def Handling.exchange (h : Handling) (requestJson : Json) : Py Handling.Exchange := do
  let stream ← requestJson.get "stream"
  if stream.truthy then h.streamExchange else h.chatExchange

/-- An error reply to a streaming request is sealed without a copy of its tool calls. -/
def relaysError (request : List (String × Json)) (reply : Reply) : Bool :=
  ((request.lookup "stream").getD .null).truthy && !reply.succeeded

/-- Every value that goes into the capsule unguarded is one that `emit` takes. -/
structure SafeBodies (request response : List (String × Json)) (reply : Reply)
    (eval : Option BilateralEvalResult) : Prop where
  parameters : ParametersFit request
  usage : UsageSafe response
  finish : FinishSafe response
  calls : relaysError request reply = false → ∀ id ∈ toolCallIds response, digestible id = true
  nonce : NonceSafe eval

theorem digestible_forwardedCopyRecord (digests : Digests) (forwarded : Json)
    (transforms : List Transform) (ids : List Json) :
    digestible (forwardedCopyRecord digests forwarded transforms ids) = true ↔
      ∀ id ∈ ids, digestible id = true := by
  have htransforms : digestible (.arr (transforms.map fun t => .str t.name)) = true := by
    rw [digestible_arr, List.forall_mem_map]
    exact fun t _ => digestible_str t.name
  rw [forwardedCopyRecord, digestible_obj, ← digestible_arr]
  simp only [List.forall_mem_cons, List.not_mem_nil, false_implies, implies_true, and_true,
    digestible_ofStr?, htransforms, true_and]

theorem digestible_forwardedCopy {h : Handling} {request response : List (String × Json)}
    {reply : Reply} {x : Handling.Exchange} (hreply : h.upstream = .ok reply)
    (hx : h.exchange (.obj request) = .ok x) (hresponse : x.response = .obj response) :
    digestible x.forwardedCopy = true ↔
      (relaysError request reply = false → ∀ id ∈ toolCallIds response, digestible id = true) := by
  rw [Handling.exchange, Json.get_obj, Py.ok_bind] at hx
  unfold relaysError
  split_ifs at hx with hstream
  · simp only [Handling.streamExchange, hreply, Py.ok_bind] at hx
    obtain ⟨eval, -, hx⟩ := Py.bind_eq_ok.mp hx
    split_ifs at hx with hstatus
    · obtain ⟨whole, -, hx⟩ := Py.bind_eq_ok.mp hx
      obtain ⟨⟨forwarded, log⟩, hcopy, hx⟩ := Py.bind_eq_ok.mp hx
      obtain ⟨-, -, hx⟩ := Py.bind_eq_ok.mp hx
      obtain rfl := Except.ok.inj hx
      obtain rfl : whole = .obj response := hresponse
      rw [digestible_forwardedCopyRecord, buildForwardedCopy_ids hcopy]
      simp [hstatus]
    · obtain ⟨-, -, hx⟩ := Py.bind_eq_ok.mp hx
      obtain ⟨whole, -, hx⟩ := Py.bind_eq_ok.mp hx
      obtain rfl := Except.ok.inj hx
      simp [hstatus, hstream]
  · simp only [Handling.chatExchange, hreply, Py.ok_bind] at hx
    obtain ⟨eval, -, hx⟩ := Py.bind_eq_ok.mp hx
    split at hx
    · rename_i whole _
      obtain ⟨⟨forwarded, log⟩, hcopy, hx⟩ := Py.bind_eq_ok.mp hx
      obtain ⟨-, -, hx⟩ := Py.bind_eq_ok.mp hx
      obtain rfl := Except.ok.inj hx
      obtain rfl : whole = .obj response := hresponse
      rw [digestible_forwardedCopyRecord, buildForwardedCopy_ids hcopy]
      simp [hstream]
    · cases hx

/-- Whatever the bodies hold, the capsule of the exchange is built exactly when their digests
raise nothing but the two errors that are caught and no unsafe number sits in a generation
parameter, the usage, the finish reason, a tool-call id or the nonce. -/
theorem buildCapsule_iff_safeBodies {h : Handling} (hcode : RefusesNumbers h.emit h.digests)
    {number : Int × Option Int} (hnumber : h.nextSeq = .ok number)
    (hnode : CleanNode h.digests { h.ctx with number := number })
    {request response : List (String × Json)} {reply : Reply} {x : Handling.Exchange}
    (hreply : h.upstream = .ok reply) (hx : h.exchange (.obj request) = .ok x)
    (hresponse : x.response = .obj response) :
    (∃ capsule, h.buildCapsule (.obj request) x = .ok capsule) ↔
      (h.digestErrors (.obj request) = .ok () ∧ h.digestErrors (.obj response) = .ok ()) ∧
        SafeBodies request response reply x.eval := by
  obtain ⟨source, hsource⟩ : ∃ source, exchangeIdFromResponse (.obj response) = .ok source := by
    unfold exchangeIdFromResponse
    rw [Json.get_obj, Py.ok_bind]
    split
    · exact ⟨_, rfl⟩
    · exact ⟨_, rfl⟩
  let ctx : SealContext := { h.ctx with bilateralEval := x.eval, number := number }
  let args := sealArgs h.digests ctx (.obj request) (.obj response) x.status x.forwardedCopy source
  have hctx : CleanNode h.digests ctx :=
    ⟨hnode.manifest, hnode.advertisement, hnode.number, hnode.owner⟩
  have hargs : args.requestJson = .obj request ∧ args.responseJson = .obj response ∧
      args.nowUnixMs = ctx.nowUnixMs ∧ args.forwardedCopy = x.forwardedCopy ∧
      args.bilateralEval = x.eval := ⟨rfl, rfl, rfl, rfl, rfl⟩
  obtain ⟨attestation, hattestation, hsafe⟩ :=
    computeAttestation_obj hctx hcode.digest hargs.1 hargs.2.1 hargs.2.2.1
  rw [hargs.2.2.2.1, hargs.2.2.2.2, digestible_forwardedCopy hreply hx hresponse] at hsafe
  obtain ⟨members, modelId, hmanifest, hlookup, -⟩ := hctx.manifest
  have hitem : ctx.cfg.manifest.item "model_id" = .ok modelId := by
    rw [hmanifest]
    simp [Json.item, hlookup]
  have heffect : digestible (effectRecord args) = true := by
    rw [effectRecord, digestible_obj]
    simp
  have hdisposition : digestible (disposition args) = true := by
    rw [disposition, digestible_obj]
    simp
  obtain ⟨ea, hea, hattest, heffect', hdisposition'⟩ : ∃ ea,
      emitArgs h.digests ctx.cfg args number ctx.prior ctx.relationHead = .ok ea ∧
      ea.computeAttestation = attestation ∧ ea.effect = effectRecord args ∧
      ea.disposition = disposition args := by
    rw [emitArgs, hattestation, Py.ok_bind, hitem]
    exact ⟨_, rfl, rfl, rfl, rfl⟩
  have hseal : sealChatCompletion h.emit h.digests ctx (.obj request) (.obj response) x.status
      x.forwardedCopy = h.emit ea := by
    rw [sealChatCompletion, hsource, Py.ok_bind, emitServing]
    exact congrArg (· >>= h.emit) hea
  have hbuild : (∃ capsule, h.buildCapsule (.obj request) x = .ok capsule) ↔
      (h.digestErrors (.obj request) = .ok () ∧ h.digestErrors (.obj response) = .ok ()) ∧
        ∃ capsule, h.emit ea = .ok capsule := by
    rw [Handling.buildCapsule, hnumber, Py.ok_bind, hresponse, ← hseal]
    cases h.digestErrors (.obj request) <;> cases h.digestErrors (.obj response) <;> simp [ctx]
  rw [hbuild, hcode.emit, numbersSafe, hattest, heffect', hdisposition', heffect, hdisposition,
    Bool.and_true, Bool.and_true, hsafe]
  refine and_congr_right fun _ => ?_
  constructor
  · rintro ⟨hparameters, husage, hfinish, hcalls, hnonce⟩
    exact ⟨hparameters, husage, hfinish, hcalls, hnonce⟩
  · rintro ⟨hparameters, husage, hfinish, hcalls, hnonce⟩
    exact ⟨hparameters, husage, hfinish, hcalls, hnonce⟩

/-! ## Concrete bodies -/

def numberEmit : Emit := fun args =>
  if numbersSafe args then plainEmit args
  else .error (.valueError "a float or an unsafe integer in the capsule")

def numberDigests : Digests where
  cert := plainDigests.cert
  jsonDigest := fun value => if digestible value then some "digest" else none

theorem numberEmit_refuses : RefusesNumbers numberEmit numberDigests where
  emit args := by
    unfold numberEmit
    split_ifs with hsafe
    · exact iff_of_true ⟨_, rfl⟩ hsafe
    · exact iff_of_false (by simp) hsafe
  digest value := by
    cases hvalue : digestible value <;> simp [numberDigests, hvalue]

/-- A plain exchange with this response. -/
def numberHandling (response : List (String × Json)) : Handling where
  emit := numberEmit
  digests := numberDigests
  digestErrors := fun _ => .ok ()
  ctx := plainContext "provider" .provider
  requestId := "request"
  clock := fun _ => "now"
  body := none
  evaluation := .ok none
  upstream := .ok ⟨200, ⟨.value (.obj response), []⟩⟩
  nextSeq := .ok (1, none)
  sign := .ok []
  verify := fun _ => true
  append := .ok ()
  writeStatement := .ok ()
  persistDisclosure := .ok ()
  send := .ok ()

theorem numberHandling_clean (response : List (String × Json)) :
    CleanNode (numberHandling response).digests
      { (numberHandling response).ctx with number := (1, none) } where
  manifest := ⟨[("model_id", .str "model")], .str "model", rfl, rfl, rfl, fun _ => ⟨_, rfl, rfl⟩⟩
  advertisement := rfl
  number := ⟨rfl, rfl⟩
  owner := ⟨_, rfl, rfl⟩

def temperatureRequest : List (String × Json) :=
  [("temperature", .float "0.5"), ("metadata", .int (2 ^ 53))]

def usageResponse : List (String × Json) :=
  [("id", .str "chatcmpl-1"), ("usage", .obj [("total_tokens", .int 3)])]

/-- Floats among the parameters and integers outside them do no harm. -/
theorem buildCapsule_iff_safeBodies_temperature :
    ∃ x, (numberHandling usageResponse).exchange (.obj temperatureRequest) = .ok x ∧
      ∃ capsule,
        (numberHandling usageResponse).buildCapsule (.obj temperatureRequest) x = .ok capsule := by
  refine ⟨_, rfl, ?_⟩
  refine (buildCapsule_iff_safeBodies (h := numberHandling usageResponse) numberEmit_refuses rfl
    (numberHandling_clean usageResponse) rfl rfl rfl).mpr ⟨⟨rfl, rfl⟩, ?_, ?_, ?_, ?_, ?_⟩
  · intro key hkey value hvalue
    have hmetadata : (key == "metadata") = false := by
      rw [beq_eq_false_iff_ne]
      rintro rfl
      exact absurd hkey (by decide)
    cases htemperature : key == "temperature" with
    | true =>
        rw [temperatureRequest, List.lookup_cons, htemperature] at hvalue
        obtain rfl := Option.some.inj hvalue
        rfl
    | false => simp [temperatureRequest, List.lookup_cons, htemperature, hmetadata] at hvalue
  · intro usage husage _
    obtain rfl := Json.obj.inj (Option.some.inj husage)
    rfl
  · intro choice choices hchoices
    cases hchoices
  · intro _ id hid
    cases hid
  · intro result hresult
    cases hresult

/-- A large seed, or a cost in the usage, and no capsule is sealed. -/
theorem unsafe_numbers_refused :
    (∃ x error, (numberHandling usageResponse).exchange (.obj [("seed", .int (2 ^ 53))]) = .ok x ∧
      (numberHandling usageResponse).buildCapsule (.obj [("seed", .int (2 ^ 53))]) x =
        .error error) ∧
    ∃ x error, (numberHandling [("usage", .obj [("cost", .float "0.1")])]).exchange (.obj []) =
        .ok x ∧
      (numberHandling [("usage", .obj [("cost", .float "0.1")])]).buildCapsule (.obj []) x =
        .error error :=
  ⟨⟨_, _, rfl, rfl⟩, _, _, rfl, rfl⟩

end CapsuleMesh.Sidecar
