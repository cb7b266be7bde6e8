import CapsuleMesh.Coordinator.DisclosureEndpoint
import CapsuleMesh.Library.Runs

/-!
# A serving host with plugin hooks

`exemplar/plugin_host.py` drives an exchange through three phases and calls the plugin in each.  The
plugin is any machine with a state of its own: it may change its manifest, answer what it likes, and
raise.  Timestamps are left out, and the exchange's id is part of the exchange.
-/

namespace CapsuleMesh.Exemplar

open Python Library

/-! ## What a trace records -/

inductive LifecyclePhase where
  | requestReceived
  | backendSelected
  | exchangeFinished
deriving DecidableEq

def LifecyclePhase.value : LifecyclePhase → String
  | .requestReceived => "request_received"
  | .backendSelected => "backend_selected"
  | .exchangeFinished => "exchange_finished"

inductive TerminalState where
  | completed
  | policyDenied
  | requestInvalid
  | backendError
  | transportError
  | clientCancelled
  | timedOut
  | evidenceUnavailable
deriving DecidableEq

inductive ObservationPoint where
  | gatewayIngress
  | servingHostIngress
  | backendDispatch
  | clientEgress
deriving DecidableEq

def ObservationPoint.value : ObservationPoint → String
  | .gatewayIngress => "gateway_ingress"
  | .servingHostIngress => "serving_host_ingress"
  | .backendDispatch => "backend_dispatch"
  | .clientEgress => "client_egress"

inductive SideStream where
  | anchoring
  | delegation
  | evidence
deriving DecidableEq

structure ObservationRecord where
  observationPoint : ObservationPoint
  exchangeId : String
  phaseAtObservation : LifecyclePhase
  observerRole : String
  payloadDigest : Option String
  metadata : List (String × String)
deriving DecidableEq

def ObservationRecord.isGatewayObservation (r : ObservationRecord) : Bool :=
  r.observationPoint = .gatewayIngress

/-- The error is the text of the `ObservationPointIntegrityError`. -/
def ObservationRecord.assertServingHostProvenance (r : ObservationRecord) : Except String Unit :=
  if r.isGatewayObservation ∧ r.observerRole = "serving_host" then
    .error ("Integrity violation: observation_point=" ++ pyRepr r.observationPoint.value ++
      " is a gateway observation and cannot be presented with observer_role='serving_host'. " ++
      "(exchange_id=" ++ pyRepr r.exchangeId ++
      ") A gateway observation is not proof from the serving target.")
  else .ok ()

structure SideStreamEvent where
  stream : SideStream
  exchangeId : String
  eventName : String
  detail : List (String × String)
deriving DecidableEq

structure PhaseTransition where
  fromPhase : Option LifecyclePhase
  toPhase : LifecyclePhase
  trigger : String
deriving DecidableEq

structure LifecycleTrace where
  exchangeId : String
  terminalState : Option TerminalState
  terminalReason : Option String
  phases : List PhaseTransition
  observations : List ObservationRecord
  sideStreamEvents : List SideStreamEvent
  requestMetadata : List (String × String)
  responseMetadata : List (String × String)
deriving DecidableEq

namespace LifecycleTrace

def reachedPhase (t : LifecycleTrace) (phase : LifecyclePhase) : Bool :=
  t.phases.any fun transition => transition.toPhase = phase

def observationAt (t : LifecycleTrace) (point : ObservationPoint) : Option ObservationRecord :=
  t.observations.find? fun o => o.observationPoint = point

def assertObservationPointIntegrity (t : LifecycleTrace) : Except String Unit :=
  t.observations.forM ObservationRecord.assertServingHostProvenance

end LifecycleTrace

/-! ## The contract -/

def ABSTAIN : String := "abstain"

def DENY : String := "deny"

/-- The fields of a manifest that the host reads. -/
structure Manifest where
  sanitizedHeaders : List String
  decisionMode : String
deriving DecidableEq

structure HostConfig where
  bodyAccessGranted : Bool := true
deriving DecidableEq

structure PhaseContext where
  exchangeId : String
  phase : String
  endpoint : String
  sanitizedHeaders : List (String × String)
  body : Option Bytes
  bodyAccessGranted : Bool
deriving DecidableEq

/-- What a hook may raise: the error the host catches, or one that escapes it. -/
inductive HookError where
  | bodyAccessDenied (exc : String)
  | raised (e : PyError)
deriving DecidableEq

structure Plugin (σ : Type) where
  manifest : σ → Manifest
  onPhase : PhaseContext → σ → Except HookError String × σ

/-! ## The host -/

/-- The arguments of `run_with_plugin`, and the id the host draws for the exchange. -/
structure Exchange where
  exchangeId : String
  requestBody : Bytes
  endpoint : String := "/v1/chat/completions"
  headers : List (String × String) := [("content-type", "application/json")]
  backendResponseBody : Bytes := utf8 ("\x7b\"id\":\"cmpl-ok\",\"object\":\"chat.completion\"," ++
    "\"choices\":[\x7b\"index\":0,\"message\":\x7b\"role\":\"assistant\"," ++
    "\"content\":\"hello\"\x7d,\"finish_reason\":\"stop\"\x7d]\x7d")
deriving DecidableEq

section Host

variable (digest : Bytes → String)

def observe (point : ObservationPoint) (exchangeId : String) (phase : LifecyclePhase)
    (payload : Bytes) (metadata : List (String × String)) : ObservationRecord :=
  ⟨point, exchangeId, phase, "serving_host", some (digest payload), metadata⟩

variable {σ : Type} (P : Plugin σ) (config : HostConfig)

/-- The context of `_call_plugin`, from the manifest the plugin declares now. -/
def phaseContext (manifest : Manifest) (exchangeId : String) (phase : LifecyclePhase)
    (endpoint : String) (headers : List (String × String)) (body : Bytes) : PhaseContext where
  exchangeId := exchangeId
  phase := phase.value
  endpoint := endpoint
  sanitizedHeaders := headers.filter fun header => header.1 ∈ manifest.sanitizedHeaders
  body := if config.bodyAccessGranted then some body else none
  bodyAccessGranted := config.bodyAccessGranted

def callPlugin (exchangeId : String) (phase : LifecyclePhase) (endpoint : String)
    (headers : List (String × String)) (body : Bytes) (s : σ) : Except HookError String × σ :=
  P.onPhase (phaseContext config (P.manifest s) exchangeId phase endpoint headers body) s

/-- `_honor_deny`. -/
def honorDeny (s : σ) (decision : String) : Bool :=
  decision = DENY ∧ (P.manifest s).decisionMode = "admission_policy"

/-- The lists that a run appends to. -/
structure Progress where
  phases : List PhaseTransition
  observations : List ObservationRecord
deriving DecidableEq

def rejectionBody : Bytes :=
  utf8 ("\x7b\"error\":\x7b\"code\":\"policy_denied\"," ++
    "\"message\":\"request rejected by plugin admission policy\"," ++
    "\"type\":\"invalid_request_error\",\"param\":null\x7d\x7d")

/-- `phases[-1].to_phase if phases else None`. -/
def Progress.last (progress : Progress) : Option LifecyclePhase :=
  progress.phases.getLast?.map PhaseTransition.toPhase

def terminalPolicyDenied (xid : String) (progress : Progress) (requestBody : Bytes)
    (trigger : String) : LifecycleTrace where
  exchangeId := xid
  terminalState := some .policyDenied
  terminalReason := some "plugin_admission_policy"
  phases := progress.phases ++ [⟨progress.last, .exchangeFinished, trigger⟩]
  observations := progress.observations ++ [observe digest .clientEgress xid .exchangeFinished
    rejectionBody [("note", "denied by plugin admission policy")]]
  sideStreamEvents :=
    [⟨.anchoring, xid, "submitted", [("outcome", "policy_denied"), ("denied_by", "plugin")]⟩]
  requestMetadata := [("body_digest", digest requestBody)]
  responseMetadata := [("body_digest", digest rejectionBody)]

def terminalBodyAccessDenied (xid : String) (progress : Progress) (requestBody : Bytes)
    (phaseName exc : String) (responseBody : Option Bytes) : LifecycleTrace where
  exchangeId := xid
  terminalState := some .evidenceUnavailable
  terminalReason := some "internal_hook_failure"
  phases := progress.phases ++
    [⟨progress.last, .exchangeFinished, "plugin raised BodyAccessDenied at " ++ phaseName⟩]
  observations := progress.observations
  sideStreamEvents := [⟨.evidence, xid, "failed", [("reason", "internal_hook_failure"),
    ("cause", "body_access_denied"), ("plugin_error", exc), ("phase", phaseName)]⟩]
  requestMetadata := [("body_digest", digest requestBody)]
  responseMetadata := [("error", "plugin_body_access_denied"), ("phase", phaseName),
    ("detail", exc)] ++ (responseBody.map fun body => ("body_digest", digest body)).toList

/-- The trace of an exchange that went through all three phases. -/
def terminalCompleted (x : Exchange) (progress : Progress) : LifecycleTrace where
  exchangeId := x.exchangeId
  terminalState := some .completed
  terminalReason := none
  phases := progress.phases
  observations := progress.observations
  sideStreamEvents := [⟨.anchoring, x.exchangeId, "submitted", [("outcome", "completed")]⟩]
  requestMetadata := [("body_digest", digest x.requestBody),
    ("dispatched_request_digest", digest x.requestBody)]
  responseMetadata := [("body_digest", digest x.backendResponseBody)]

/-- Phase 1. -/
def received (x : Exchange) : Progress where
  phases := [⟨none, .requestReceived, "host received request"⟩]
  observations :=
    [observe digest .servingHostIngress x.exchangeId .requestReceived x.requestBody []]

/-- Phase 2. -/
def selected (x : Exchange) : Progress where
  phases := (received digest x).phases ++
    [⟨some .requestReceived, .backendSelected, "plugin abstained; backend assigned"⟩]
  observations := (received digest x).observations ++
    [observe digest .backendDispatch x.exchangeId .backendSelected x.requestBody []]

/-- Phase 3. -/
def finished (x : Exchange) : Progress where
  phases := (selected digest x).phases ++
    [⟨some .backendSelected, .exchangeFinished, "backend returned response"⟩]
  observations := (selected digest x).observations ++
    [observe digest .clientEgress x.exchangeId .exchangeFinished x.backendResponseBody []]

def runWithPlugin (x : Exchange) (s : σ) : Except PyError LifecycleTrace × σ :=
  let xid := x.exchangeId
  match callPlugin P config xid .requestReceived x.endpoint x.headers x.requestBody s with
  | (.error (.raised e), s) => (.error e, s)
  | (.error (.bodyAccessDenied exc), s) =>
      (.ok (terminalBodyAccessDenied digest xid (received digest x) x.requestBody
        "request_received" exc none), s)
  | (.ok decision, s) =>
      if honorDeny P s decision then
        (.ok (terminalPolicyDenied digest xid (received digest x) x.requestBody
          "plugin denied at request_received"), s)
      else
        match callPlugin P config xid .backendSelected x.endpoint x.headers x.requestBody s with
        | (.error (.raised e), s) => (.error e, s)
        | (.error (.bodyAccessDenied exc), s) =>
          (.ok (terminalBodyAccessDenied digest xid (selected digest x) x.requestBody
            "backend_selected" exc none), s)
        | (.ok decision, s) =>
          if honorDeny P s decision then
            (.ok (terminalPolicyDenied digest xid (selected digest x) x.requestBody
              "plugin denied at backend_selected"), s)
          else
            match callPlugin P config xid .exchangeFinished x.endpoint x.headers
              x.backendResponseBody s with
            | (.error (.raised e), s) => (.error e, s)
            | (.error (.bodyAccessDenied exc), s) =>
              (.ok (terminalBodyAccessDenied digest xid (finished digest x) x.requestBody
                "exchange_finished" exc (some x.backendResponseBody)), s)
            -- The decision of the last phase is not read.
            | (.ok _, s) => (.ok (terminalCompleted digest x (finished digest x)), s)

/-- One host, with one plugin, that takes exchange after exchange. -/
def serve (xs : List Exchange) (s : σ) : List (Except PyError LifecycleTrace) × σ :=
  answers (fun s x => runWithPlugin digest P config x s) s xs

end Host

/-! ## The plugins -/

structure HookRecord where
  exchangeId : String
  phase : String
  decision : String
  bodyDigest : Option String
  bodyAccessGranted : Bool
  denyReason : Option String := none
deriving DecidableEq

def observeOnlyManifest : Manifest := ⟨["content-type", "x-request-id"], "observe_only"⟩

def observeOnlyRefusal (ctx : PhaseContext) : String :=
  "observe-only plugin requires body access to record a meaningful observation at phase=" ++
    pyRepr ctx.phase ++ "; host config withheld it for exchange_id=" ++ pyRepr ctx.exchangeId ++
    ". Returning abstain here would silently produce an empty observation record — that is the " ++
    "fail-toward-reassurance shape this plugin explicitly rejects."

/-- `ObserveOnlyPlugin`, with its records as the state. -/
def observeOnlyPlugin (digest : Bytes → String) : Plugin (List HookRecord) where
  manifest _ := observeOnlyManifest
  onPhase ctx records :=
    if !ctx.bodyAccessGranted then (.error (.bodyAccessDenied (observeOnlyRefusal ctx)), records)
    else
      match ctx.body with
      | none => (.error (.raised .typeError), records)
      | some body =>
        (.ok ABSTAIN, records ++ [⟨ctx.exchangeId, ctx.phase, ABSTAIN, some (digest body), true,
          none⟩])

def admissionPolicyManifest : Manifest := ⟨["content-type", "x-request-id"], "admission_policy"⟩

def BLOCKED_MODEL_PREFIX : String := "blocked-"

def admissionPolicyRefusal (ctx : PhaseContext) : String :=
  "admission-policy plugin cannot evaluate policy at phase=" ++ pyRepr ctx.phase ++
    " without body access; host config withheld it for exchange_id=" ++ pyRepr ctx.exchangeId ++
    ". Returning abstain would be fail-open: a request that should have been denied would " ++
    "silently reach the backend."

/-- The library calls of the admission policy; `parseFailure` is the text of the error that octets
raise where they are no JSON text. -/
structure PolicyTools where
  digest : Bytes → String
  decoder : Coordinator.Decoder
  parseFailure : Bytes → String

/-- `json.loads(body.decode("utf-8"))`, with `none` where the plugin catches the error: a limit of
the interpreter is not among them. -/
def parseRequest (D : Coordinator.Decoder) (body : Bytes) : Option (Py Json) :=
  match decodeUtf8 body with
  | .error _ => none
  | .ok text =>
      match D.beyondLimit text with
      | some e => some (.error e)
      | none =>
        match loads D.floatRepr text with
        | .error _ => none
        | .ok request => some (.ok request)

/-- What the admission policy makes of a request's body. -/
inductive Ruling where
  | malformed
  | raises (e : PyError)
  | blocked (model : String)
  | admitted
deriving DecidableEq

def ruling (D : Coordinator.Decoder) (body : Bytes) : Ruling :=
  match parseRequest D body with
  | none => .malformed
  | some (.error e) => .raises e
  | some (.ok request) =>
      match request.getD "model" (.str "") with
      | .error e => .raises e
      | .ok (.str model) =>
        if BLOCKED_MODEL_PREFIX.toList <+: model.toList then .blocked model else .admitted
      | .ok _ => .admitted

/-- `AdmissionPolicyPlugin`, with its records as the state. -/
def admissionPolicyPlugin (T : PolicyTools) : Plugin (List HookRecord) where
  manifest _ := admissionPolicyManifest
  onPhase ctx records :=
    if !ctx.bodyAccessGranted then
      (.error (.bodyAccessDenied (admissionPolicyRefusal ctx)), records)
    else if ctx.phase ≠ "request_received" then
      match ctx.body with
      | none => (.error (.raised .typeError), records)
      | some body =>
        (.ok ABSTAIN, records ++ [⟨ctx.exchangeId, ctx.phase, ABSTAIN, some (T.digest body), true,
          none⟩])
    else
      match ctx.body with
      | none => (.error (.raised .attributeError), records)
      | some body =>
        match ruling T.decoder body with
        | .malformed =>
          (.ok DENY, records ++ [⟨ctx.exchangeId, ctx.phase, DENY, none, true,
            some ("body_parse_failure: " ++ T.parseFailure body)⟩])
        | .raises e => (.error (.raised e), records)
        | .blocked model =>
          (.ok DENY, records ++ [⟨ctx.exchangeId, ctx.phase, DENY, some (T.digest body), true,
            some ("blocked_model_prefix: " ++ pyRepr model ++ " matches '" ++
              BLOCKED_MODEL_PREFIX ++ "*' policy")⟩])
        | .admitted =>
          (.ok ABSTAIN, records ++ [⟨ctx.exchangeId, ctx.phase, ABSTAIN, some (T.digest body),
            true, none⟩])

/-! ## What an answer of the plugin comes to -/

inductive Verdict where
  | passed
  | denied
  | withheld (exc : String)
  | raised (e : PyError)
deriving DecidableEq

section Verdicts

variable (digest : Bytes → String) {σ : Type} (P : Plugin σ) (config : HostConfig)

def bodyAt (x : Exchange) : LifecyclePhase → Bytes
  | .exchangeFinished => x.backendResponseBody
  | _ => x.requestBody

/-- The verdict of the plugin in a phase, and the state the call leaves it in. -/
def ask (x : Exchange) (phase : LifecyclePhase) (s : σ) : Verdict × σ :=
  match callPlugin P config x.exchangeId phase x.endpoint x.headers (bodyAt x phase) s with
  | (.error (.raised e), s) => (.raised e, s)
  | (.error (.bodyAccessDenied exc), s) => (.withheld exc, s)
  | (.ok decision, s) => (if honorDeny P s decision then .denied else .passed, s)

/-- What was appended when a phase is entered. -/
def progressAt (x : Exchange) : LifecyclePhase → Progress
  | .requestReceived => received digest x
  | .backendSelected => selected digest x
  | .exchangeFinished => finished digest x

def withheldAt (x : Exchange) (phase : LifecyclePhase) (exc : String) : LifecycleTrace :=
  terminalBodyAccessDenied digest x.exchangeId (progressAt digest x phase) x.requestBody phase.value
    exc (if phase = .exchangeFinished then some x.backendResponseBody else none)

def deniedAt (x : Exchange) (phase : LifecyclePhase) : LifecycleTrace :=
  terminalPolicyDenied digest x.exchangeId (progressAt digest x phase) x.requestBody
    ("plugin denied at " ++ phase.value)

def completed (x : Exchange) : LifecycleTrace := terminalCompleted digest x (finished digest x)

/-- What the host makes of a verdict before the last phase. -/
def settle (x : Exchange) (phase : LifecyclePhase) (next : σ → Except PyError LifecycleTrace × σ) :
    Verdict × σ → Except PyError LifecycleTrace × σ
  | (.raised e, s) => (.error e, s)
  | (.withheld exc, s) => (.ok (withheldAt digest x phase exc), s)
  | (.denied, s) => (.ok (deniedAt digest x phase), s)
  | (.passed, s) => next s

/-- And of one in the last phase. -/
def conclude (x : Exchange) : Verdict × σ → Except PyError LifecycleTrace × σ
  | (.raised e, s) => (.error e, s)
  | (.withheld exc, s) => (.ok (withheldAt digest x .exchangeFinished exc), s)
  | (.denied, s) => (.ok (completed digest x), s)
  | (.passed, s) => (.ok (completed digest x), s)

/-- A run follows the verdicts: nothing else of the plugin's answers reaches its trace. -/
theorem runWithPlugin_eq (x : Exchange) (s : σ) :
    runWithPlugin digest P config x s =
      settle digest x .requestReceived
        (fun s => settle digest x .backendSelected
          (fun s => conclude digest x (ask P config x .exchangeFinished s))
          (ask P config x .backendSelected s))
        (ask P config x .requestReceived s) := by
  simp only [runWithPlugin, ask, bodyAt]
  rcases callPlugin P config x.exchangeId .requestReceived x.endpoint x.headers x.requestBody s with
    ⟨(exc | e) | decision, s⟩
  · rfl
  · rfl
  · cases hdeny : honorDeny P s decision with
    | true => simp [hdeny, settle, deniedAt, progressAt, LifecyclePhase.value]
    | false =>
        simp only [hdeny, Bool.false_eq_true, if_false, settle]
        rcases callPlugin P config x.exchangeId .backendSelected x.endpoint x.headers
          x.requestBody s with ⟨(exc | e) | decision, s⟩
        · rfl
        · rfl
        · cases hdeny : honorDeny P s decision with
          | true => simp [hdeny, deniedAt, progressAt, LifecyclePhase.value]
          | false =>
            simp only [hdeny, Bool.false_eq_true, if_false]
            rcases callPlugin P config x.exchangeId .exchangeFinished x.endpoint x.headers
              x.backendResponseBody s with ⟨(exc | e) | decision, s⟩
            · rfl
            · rfl
            · cases hdeny : honorDeny P s decision with
              | true => simp [hdeny, conclude, completed]
              | false => simp [hdeny, conclude, completed]

variable {digest P config} {x : Exchange} {s : σ}

theorem ask_denied {phase : LifecyclePhase} (h : (ask P config x phase s).1 = .denied) :
    (P.manifest (ask P config x phase s).2).decisionMode = "admission_policy" := by
  unfold ask at h ⊢
  rcases hcall : callPlugin P config x.exchangeId phase x.endpoint x.headers (bodyAt x phase) s with
    ⟨(exc | e) | decision, s'⟩
  · simp [hcall] at h
  · simp [hcall] at h
  · simp only [hcall] at h ⊢
    by_contra hmode
    simp [honorDeny, hmode] at h

variable (digest P x) in
/-- The traces that a run can return, with the state that it leaves the plugin in. -/
inductive Course : LifecycleTrace → σ → Prop
  | withheld (phase : LifecyclePhase) (exc : String) (s : σ) : Course (withheldAt digest x phase exc) s
  | denied (phase : LifecyclePhase) (s : σ) (hphase : phase ≠ .exchangeFinished)
      (hmode : (P.manifest s).decisionMode = "admission_policy") : Course (deniedAt digest x phase) s
  | completed (s : σ) : Course (completed digest x) s

theorem settle_eq_ok {phase : LifecyclePhase} {next : σ → Except PyError LifecycleTrace × σ}
    {asked : Verdict × σ} {t : LifecycleTrace} (h : (settle digest x phase next asked).1 = .ok t) :
    (∃ exc, t = withheldAt digest x phase exc) ∨
      (asked.1 = .denied ∧ t = deniedAt digest x phase ∧
        (settle digest x phase next asked).2 = asked.2) ∨
      asked.1 = .passed ∧ (next asked.2).1 = .ok t ∧
        (settle digest x phase next asked).2 = (next asked.2).2 := by
  obtain ⟨_ | _ | exc | e, s⟩ := asked
  · exact .inr (.inr ⟨rfl, h, rfl⟩)
  · exact .inr (.inl ⟨rfl, (Except.ok.inj h).symm, rfl⟩)
  · exact .inl ⟨exc, (Except.ok.inj h).symm⟩
  · cases h

theorem conclude_eq_ok {asked : Verdict × σ} {t : LifecycleTrace}
    (h : (conclude digest x asked).1 = .ok t) :
    (∃ exc, t = withheldAt digest x .exchangeFinished exc) ∨ t = completed digest x := by
  obtain ⟨_ | _ | exc | e, s⟩ := asked
  · exact .inr (Except.ok.inj h).symm
  · exact .inr (Except.ok.inj h).symm
  · exact .inl ⟨exc, (Except.ok.inj h).symm⟩
  · cases h

theorem settle_passed {phase : LifecyclePhase} {next : σ → Except PyError LifecycleTrace × σ}
    {asked : Verdict × σ} (h : asked.1 = .passed) :
    settle digest x phase next asked = next asked.2 := by
  obtain ⟨verdict, s⟩ := asked
  obtain rfl : verdict = .passed := h
  rfl

theorem conclude_passed {asked : Verdict × σ} (h : asked.1 = .passed) :
    conclude digest x asked = (.ok (completed digest x), asked.2) := by
  obtain ⟨verdict, s⟩ := asked
  obtain rfl : verdict = .passed := h
  rfl

theorem course_of_run {t : LifecycleTrace} (h : (runWithPlugin digest P config x s).1 = .ok t) :
    Course digest P x t (runWithPlugin digest P config x s).2 := by
  rw [runWithPlugin_eq] at h ⊢
  obtain ⟨exc, rfl⟩ | ⟨hdenied, rfl, hstate⟩ | ⟨-, h, hstate⟩ := settle_eq_ok h
  · exact .withheld .requestReceived exc _
  · rw [hstate]
    exact .denied .requestReceived _ (by decide) (ask_denied hdenied)
  · rw [hstate]
    obtain ⟨exc, rfl⟩ | ⟨hdenied, rfl, hstate⟩ | ⟨-, h, hstate⟩ := settle_eq_ok h
    · exact .withheld .backendSelected exc _
    · rw [hstate]
      exact .denied .backendSelected _ (by decide) (ask_denied hdenied)
    · obtain ⟨exc, rfl⟩ | rfl := conclude_eq_ok h
      · exact .withheld .exchangeFinished exc _
      · exact .completed _

end Verdicts

/-! ## What every trace keeps -/

/-- What a reader of a trace relies on, whatever the plugin did. -/
structure Sound (digest : Bytes → String) (x : Exchange) (t : LifecycleTrace) : Prop where
  starts : t.phases.head?.map (fun p => (p.fromPhase, p.toPhase)) = some (none, .requestReceived)
  chained : t.phases.IsChain fun p q => q.fromPhase = some p.toPhase
  ends : t.phases.getLast?.map PhaseTransition.toPhase = some .exchangeFinished
  integrity : t.assertObservationPointIntegrity = .ok ()
  exchange : t.exchangeId = x.exchangeId ∧ (∀ o ∈ t.observations, o.exchangeId = x.exchangeId) ∧
    ∀ e ∈ t.sideStreamEvents, e.exchangeId = x.exchangeId
  reached : ∀ o ∈ t.observations, t.reachedPhase o.phaseAtObservation = true
  dispatched : (t.observationAt .backendDispatch).isSome = t.reachedPhase .backendSelected
  /-- The octets dispatched are the octets received, and both are the request's. -/
  unaltered : ∀ o ∈ t.observations,
    o.observationPoint = .servingHostIngress ∨ o.observationPoint = .backendDispatch →
      o.payloadDigest = t.requestMetadata.lookup "body_digest" ∧
        o.payloadDigest = some (digest x.requestBody)
  egress : ((t.observationAt .clientEgress).bind ObservationRecord.payloadDigest) =
    t.responseMetadata.lookup "body_digest"
  settled : t.sideStreamEvents.map SideStreamEvent.stream =
    if t.terminalState = some .evidenceUnavailable then [.evidence] else [.anchoring]

/-- Observations that the serving host itself made pass the integrity rule. -/
theorem integrity_of_host {observations : List ObservationRecord}
    (h : ∀ o ∈ observations, o.observationPoint ≠ .gatewayIngress) :
    observations.forM ObservationRecord.assertServingHostProvenance = .ok () := by
  induction observations with
  | nil => rfl
  | cons o observations ih =>
      have hhost : o.assertServingHostProvenance = .ok () := by
        simp [ObservationRecord.assertServingHostProvenance,
          ObservationRecord.isGatewayObservation, h o List.mem_cons_self]
      rw [List.forM_eq_forM, List.forM_cons, hhost]
      exact ih fun o ho => h o (List.mem_cons_of_mem _ ho)

theorem sound_of_course {digest : Bytes → String} {σ : Type} {P : Plugin σ} {x : Exchange}
    {t : LifecycleTrace} {s : σ} (h : Course digest P x t s) : Sound digest x t := by
  cases h with
  | withheld phase exc =>
      cases phase <;> constructor <;>
        simp [withheldAt, terminalBodyAccessDenied, progressAt, finished, selected, received,
          observe, Progress.last, LifecycleTrace.reachedPhase, LifecycleTrace.observationAt,
          LifecycleTrace.assertObservationPointIntegrity, integrity_of_host, List.lookup_cons]
  | denied phase s hphase hmode =>
      cases phase <;> constructor <;>
        simp_all [deniedAt, terminalPolicyDenied, progressAt, selected, received, observe,
          Progress.last, LifecycleTrace.reachedPhase, LifecycleTrace.observationAt,
          LifecycleTrace.assertObservationPointIntegrity, integrity_of_host]
  | completed =>
      constructor <;>
        simp [completed, terminalCompleted, finished, selected, received, observe,
          LifecycleTrace.reachedPhase, LifecycleTrace.observationAt,
          LifecycleTrace.assertObservationPointIntegrity, integrity_of_host]

/-- Every trace of every session is sound, whatever the plugin is; and where an exchange is denied,
the state that its DENY left the plugin in has a manifest of the admission mode. -/
theorem session_sound (digest : Bytes → String) {σ : Type} (P : Plugin σ) (config : HostConfig)
    (s : σ) (before : List Exchange) (x : Exchange) (after : List Exchange) :
    let run := runWithPlugin digest P config x (serve digest P config before s).2
    (serve digest P config (before ++ x :: after) s).1[before.length]? = some run.1 ∧
      ∀ t, run.1 = .ok t → Sound digest x t ∧
        (t.terminalState = some .policyDenied →
          (P.manifest run.2).decisionMode = "admission_policy") := by
  intro run
  refine ⟨answers_getElem? s before x after, fun t ht => ?_⟩
  have hcourse : Course digest P x t run.2 := course_of_run ht
  refine ⟨sound_of_course hcourse, fun hdenied => ?_⟩
  cases hcourse with
  | withheld phase exc => simp [withheldAt, terminalBodyAccessDenied] at hdenied
  | denied phase s hphase hmode => exact hmode
  | completed => simp [completed, terminalCompleted] at hdenied

/-! ## Runs that ask the same -/

section Related

variable {digest : Bytes → String} {σ τ γ : Type} {P : Plugin σ} {Q : Plugin τ}
  {config config' : HostConfig} {x y : Exchange} {R : σ → τ → Prop} {f : LifecycleTrace → γ}

/-- What is read of the traces of two exchanges is the same where they take the same course. -/
structure SameReading (digest : Bytes → String) (f : LifecycleTrace → γ) (x y : Exchange) :
    Prop where
  withheld : ∀ phase exc, f (withheldAt digest x phase exc) = f (withheldAt digest y phase exc)
  denied : ∀ phase, f (deniedAt digest x phase) = f (deniedAt digest y phase)
  completed : f (completed digest x) = f (completed digest y)

/-- The answers read the same, and the plugins are left in related states. -/
def Alike (R : σ → τ → Prop) (f : LifecycleTrace → γ) (run : Except PyError LifecycleTrace × σ)
    (run' : Except PyError LifecycleTrace × τ) : Prop :=
  run.1.map f = run'.1.map f ∧ R run.2 run'.2

theorem alike_settle (hread : SameReading digest f x y) {phase : LifecyclePhase}
    {next : σ → Except PyError LifecycleTrace × σ} {next' : τ → Except PyError LifecycleTrace × τ}
    {asked : Verdict × σ} {asked' : Verdict × τ} (hverdict : asked.1 = asked'.1)
    (hstate : R asked.2 asked'.2) (hnext : ∀ s t, R s t → Alike R f (next s) (next' t)) :
    Alike R f (settle digest x phase next asked) (settle digest y phase next' asked') := by
  obtain ⟨verdict, s⟩ := asked
  obtain ⟨verdict', t⟩ := asked'
  obtain rfl : verdict = verdict' := hverdict
  cases verdict with
  | passed => exact hnext s t hstate
  | denied => exact ⟨congrArg Except.ok (hread.denied phase), hstate⟩
  | withheld exc => exact ⟨congrArg Except.ok (hread.withheld phase exc), hstate⟩
  | raised e => exact ⟨rfl, hstate⟩

theorem alike_conclude (hread : SameReading digest f x y) {asked : Verdict × σ}
    {asked' : Verdict × τ} (hverdict : asked.1 = asked'.1) (hstate : R asked.2 asked'.2) :
    Alike R f (conclude digest x asked) (conclude digest y asked') := by
  obtain ⟨verdict, s⟩ := asked
  obtain ⟨verdict', t⟩ := asked'
  obtain rfl : verdict = verdict' := hverdict
  cases verdict with
  | passed => exact ⟨congrArg Except.ok hread.completed, hstate⟩
  | denied => exact ⟨congrArg Except.ok hread.completed, hstate⟩
  | withheld exc => exact ⟨congrArg Except.ok (hread.withheld _ exc), hstate⟩
  | raised e => exact ⟨rfl, hstate⟩

/-- Two plugins that give the same verdicts get the same out of the host. -/
theorem alike_run (hread : SameReading digest f x y)
    (hask : ∀ phase s t, R s t → (ask P config x phase s).1 = (ask Q config' y phase t).1 ∧
      R (ask P config x phase s).2 (ask Q config' y phase t).2) {s : σ} {t : τ} (h : R s t) :
    Alike R f (runWithPlugin digest P config x s) (runWithPlugin digest Q config' y t) := by
  rw [runWithPlugin_eq, runWithPlugin_eq]
  obtain ⟨hverdict, hstate⟩ := hask .requestReceived s t h
  apply alike_settle hread hverdict hstate
  intro s t h
  obtain ⟨hverdict, hstate⟩ := hask .backendSelected s t h
  apply alike_settle hread hverdict hstate
  intro s t h
  obtain ⟨hverdict, hstate⟩ := hask .exchangeFinished s t h
  exact alike_conclude hread hverdict hstate

variable (digest) in
/-- And over whole sessions. -/
theorem alike_serve {I : Exchange → Exchange → Prop}
    (hread : ∀ x y, I x y → SameReading digest f x y)
    (hask : ∀ x y, I x y → ∀ phase s t, R s t →
      (ask P config x phase s).1 = (ask Q config' y phase t).1 ∧
        R (ask P config x phase s).2 (ask Q config' y phase t).2)
    {xs ys : List Exchange} (hxs : List.Forall₂ I xs ys) {s : σ} {t : τ} (h : R s t) :
    List.Forall₂ (fun r r' => r.map f = r'.map f) (serve digest P config xs s).1
        (serve digest Q config' ys t).1 ∧
      R (serve digest P config xs s).2 (serve digest Q config' ys t).2 := by
  refine answers_related R I (fun (r r' : Except PyError LifecycleTrace) => r.map f = r'.map f) ?_
    hxs h
  intro s t x y h hxy
  exact alike_run (hread x y hxy) (hask x y hxy) h

end Related

/-! ## What a plugin learns -/

section Learns

variable {digest : Bytes → String} {σ : Type} (P : Plugin σ) (config : HostConfig)

def SameBodies (x y : Exchange) : Prop :=
  x.requestBody = y.requestBody ∧ x.backendResponseBody = y.backendResponseBody

/-- Two exchanges that differ only in what the host withholds from the plugin. -/
structure SameGrants (x y : Exchange) : Prop where
  exchangeId : x.exchangeId = y.exchangeId
  endpoint : x.endpoint = y.endpoint
  headers : ∀ s, (x.headers.filter fun header => header.1 ∈ (P.manifest s).sanitizedHeaders) =
    y.headers.filter fun header => header.1 ∈ (P.manifest s).sanitizedHeaders
  bodies : config.bodyAccessGranted = true → SameBodies x y

/-- Metadata with the values of its digests taken out. -/
def withoutDigest (entry : String × String) : String × String :=
  if entry.1 ∈ ["body_digest", "dispatched_request_digest"] then (entry.1, "") else entry

/-- A trace with the digests of the bodies taken out. -/
def LifecycleTrace.withoutDigests (t : LifecycleTrace) : LifecycleTrace :=
  { t with
    observations := t.observations.map fun o => { o with payloadDigest := none }
    requestMetadata := t.requestMetadata.map withoutDigest
    responseMetadata := t.responseMetadata.map withoutDigest }

variable {P config} {x y : Exchange}

theorem SameGrants.ask (h : SameGrants P config x y) (phase : LifecyclePhase) (s : σ) :
    ask P config x phase s = ask P config y phase s := by
  have hcall : callPlugin P config x.exchangeId phase x.endpoint x.headers (bodyAt x phase) s =
      callPlugin P config y.exchangeId phase y.endpoint y.headers (bodyAt y phase) s := by
    unfold callPlugin phaseContext
    rw [h.exchangeId, h.endpoint, h.headers s]
    cases hgranted : config.bodyAccessGranted with
    | false => rfl
    | true =>
        obtain ⟨hrequest, hresponse⟩ := h.bodies hgranted
        cases phase <;> simp [bodyAt, hrequest, hresponse]
  unfold Exemplar.ask
  rw [hcall]

theorem sameReading_withoutDigests (h : x.exchangeId = y.exchangeId) :
    SameReading digest LifecycleTrace.withoutDigests x y where
  withheld phase exc := by
    cases phase <;>
      simp [LifecycleTrace.withoutDigests, withheldAt, terminalBodyAccessDenied, progressAt,
        finished, selected, received, observe, Progress.last, withoutDigest, h]
  denied phase := by
    cases phase <;>
      simp [LifecycleTrace.withoutDigests, deniedAt, terminalPolicyDenied, progressAt, finished,
        selected, received, observe, Progress.last, withoutDigest, h]
  completed := by
    simp [LifecycleTrace.withoutDigests, completed, terminalCompleted, finished, selected, received,
      observe, withoutDigest, h]

theorem sameReading_id (h : x.exchangeId = y.exchangeId) (hbodies : SameBodies x y) :
    SameReading digest id x y := by
  obtain ⟨hrequest, hresponse⟩ := hbodies
  have hat : ∀ phase, progressAt digest x phase = progressAt digest y phase := by
    intro phase
    cases phase <;> simp [progressAt, finished, selected, received, h, hrequest, hresponse]
  constructor
  · intro phase exc
    simp [withheldAt, hat, h, hrequest, hresponse]
  · intro phase
    simp [deniedAt, hat, h, hrequest]
  · have hfinished := hat .exchangeFinished
    simp only [progressAt] at hfinished
    simp [completed, terminalCompleted, hfinished, h, hrequest, hresponse]

/-- A plugin is left with what it was granted: two sessions that differ only in withheld headers and
bodies leave it in one state and take one course, and where the bodies are the same the traces are
too. -/
theorem plugin_learns_grants {xs ys : List Exchange} (h : List.Forall₂ (SameGrants P config) xs ys)
    (s : σ) :
    (serve digest P config xs s).2 = (serve digest P config ys s).2 ∧
      List.Forall₂
        (fun r r' => r.map LifecycleTrace.withoutDigests = r'.map LifecycleTrace.withoutDigests)
        (serve digest P config xs s).1 (serve digest P config ys s).1 ∧
      (List.Forall₂ SameBodies xs ys →
        (serve digest P config xs s).1 = (serve digest P config ys s).1) := by
  have hask : ∀ x y, SameGrants P config x y → ∀ phase s t, s = t →
      (ask P config x phase s).1 = (ask P config y phase t).1 ∧
        (ask P config x phase s).2 = (ask P config y phase t).2 := by
    intro x y hxy phase s t hst
    subst hst
    rw [hxy.ask phase s]
    exact ⟨rfl, rfl⟩
  obtain ⟨hanswers, hstate⟩ := alike_serve digest
    (fun x y hxy => sameReading_withoutDigests hxy.exchangeId) hask h rfl (s := s)
  refine ⟨hstate, hanswers, fun hbodies => ?_⟩
  obtain ⟨hsame, -⟩ := alike_serve (f := id) digest
    (fun x y hxy => sameReading_id hxy.1.exchangeId hxy.2) (fun x y hxy => hask x y hxy.1)
    (List.Forall₂.mp (fun _ _ hxy hbody => And.intro hxy hbody) h hbodies) rfl (s := s)
  simpa [Except.map_id, List.forall₂_eq_eq_eq] using hsame

/-- The octets themselves, as a digest. -/
def plainDigest (data : Bytes) : String := String.ofList (data.map fun b => Char.ofNat b.toNat)

def secretSession : List Exchange :=
  [⟨"x1", [123], "/v1", [("authorization", "a"), ("content-type", "json")], [7]⟩]

def publicSession : List Exchange :=
  [⟨"x1", [], "/v1", [("content-type", "json"), ("cookie", "c")], []⟩]

/-- A credential and two bodies that a host without body access keeps from the plugin. -/
theorem plugin_learns_grants_secret :
    (serve plainDigest (observeOnlyPlugin plainDigest) ⟨false⟩ secretSession []).2 =
      (serve plainDigest (observeOnlyPlugin plainDigest) ⟨false⟩ publicSession []).2 :=
  have hgrants : List.Forall₂ (SameGrants (observeOnlyPlugin plainDigest) ⟨false⟩)
      secretSession publicSession :=
    .cons ⟨rfl, rfl, fun _ => by simp [observeOnlyPlugin, observeOnlyManifest],
      fun h => by cases h⟩ .nil
  (plugin_learns_grants hgrants []).1

end Learns

/-! ## What a plugin decides -/

section Decides

variable (digest : Bytes → String) {σ : Type}

/-- The plugin that abstains. -/
def abstaining : Plugin Unit where
  manifest _ := observeOnlyManifest
  onPhase _ s := (.ok ABSTAIN, s)

/-- A plugin that never raises in a context that the host can build. -/
def NeverRaises (P : Plugin σ) (config : HostConfig) : Prop :=
  ∀ ctx s, ctx.bodyAccessGranted = config.bodyAccessGranted →
    ctx.body.isSome = config.bodyAccessGranted → ∃ decision, (P.onPhase ctx s).1 = .ok decision

variable {digest} {P : Plugin σ} {config : HostConfig}

/-- A verdict other than passing comes from an error, or from a denial under the admission mode. -/
theorem ask_observer (hmode : ∀ s, (P.manifest s).decisionMode ≠ "admission_policy")
    (hnever : NeverRaises P config) (x : Exchange) (phase : LifecyclePhase) (s : σ) :
    (ask P config x phase s).1 = .passed := by
  obtain ⟨decision, hdecision⟩ :=
    hnever (phaseContext config (P.manifest s) x.exchangeId phase x.endpoint x.headers
      (bodyAt x phase)) s rfl (by cases hgranted : config.bodyAccessGranted <;>
        simp [phaseContext, hgranted])
  unfold ask callPlugin
  rcases hcall : P.onPhase (phaseContext config (P.manifest s) x.exchangeId phase x.endpoint
    x.headers (bodyAt x phase)) s with ⟨outcome, s'⟩
  rw [hcall] at hdecision
  obtain rfl : outcome = .ok decision := hdecision
  simp [honorDeny, hmode s']

/-- A plugin that does not declare the admission mode, and does not raise, leaves no mark on any
trace: whatever it decides, the host does what it does beside a plugin that abstains. -/
theorem observer_changes_nothing (hmode : ∀ s, (P.manifest s).decisionMode ≠ "admission_policy")
    (hnever : NeverRaises P config) (config' : HostConfig) (xs : List Exchange) (s : σ) :
    (serve digest P config xs s).1 = (serve digest abstaining config' xs ()).1 ∧
      List.Forall₂
        (fun x r => ∃ t, r = .ok t ∧ Sound digest x t ∧ t.terminalState = some .completed)
        xs (serve digest P config xs s).1 := by
  have habstaining : ∀ x phase, (ask abstaining config' x phase ()).1 = .passed :=
    fun x phase => ask_observer (by simp [abstaining, observeOnlyManifest])
      (fun _ _ _ _ => ⟨ABSTAIN, rfl⟩) x phase ()
  have hsame : List.Forall₂ (fun r r' => r.map id = r'.map id) (serve digest P config xs s).1
      (serve digest abstaining config' xs ()).1 := by
    apply (alike_serve (R := fun _ _ => True) (I := Eq) digest ?_ ?_ (List.forall₂_refl xs)
      trivial).1
    · intro x y h
      subst h
      exact sameReading_id rfl ⟨rfl, rfl⟩
    · intro x y h phase s _ _
      subst h
      exact ⟨(ask_observer hmode hnever x phase s).trans (habstaining x phase).symm, trivial⟩
  refine ⟨by simpa [Except.map_id, List.forall₂_eq_eq_eq] using hsame, ?_⟩
  apply answers_forall
  intro s x
  have hcompleted : (runWithPlugin digest P config x s).1 = .ok (completed digest x) := by
    have hpassed := fun phase s => ask_observer hmode hnever x phase s
    rw [runWithPlugin_eq, settle_passed (hpassed _ _), settle_passed (hpassed _ _),
      conclude_passed (hpassed _ _)]
  exact ⟨_, hcompleted, sound_of_course (course_of_run hcompleted), rfl⟩

/-- A plugin that denies everything, but declares itself an observer. -/
def rogueDeny (decisionMode : String) : Plugin Unit where
  manifest _ := ⟨["content-type"], decisionMode⟩
  onPhase _ s := (.ok DENY, s)

theorem observer_changes_nothing_rogue :
    (serve plainDigest (rogueDeny "observe_only") ⟨true⟩ [⟨"x1", [123], "/v1", [], []⟩] ()).1 =
      (serve plainDigest abstaining ⟨false⟩ [⟨"x1", [123], "/v1", [], []⟩] ()).1 :=
  (observer_changes_nothing (P := rogueDeny "observe_only")
    (fun _ => by simp [rogueDeny]) (fun _ _ _ _ => ⟨DENY, rfl⟩) ⟨false⟩ _ ()).1

end Decides

/-! ## Sessions of the observer -/

section Observe

variable {digest : Bytes → String}

variable (digest) in
/-- The record of a phase in which a plugin abstained. -/
def abstention (x : Exchange) (phase : LifecyclePhase) : HookRecord :=
  ⟨x.exchangeId, phase.value, ABSTAIN, some (digest (bodyAt x phase)), true, none⟩

variable (digest) in
def abstentions (x : Exchange) : List HookRecord :=
  [abstention digest x .requestReceived, abstention digest x .backendSelected,
    abstention digest x .exchangeFinished]

/-- A plugin that records an abstention in each phase lets the exchange through. -/
theorem runWithPlugin_abstaining {P : Plugin (List HookRecord)} {config : HostConfig} {x : Exchange}
    (h : ∀ phase records, ask P config x phase records =
      (.passed, records ++ [abstention digest x phase])) (records : List HookRecord) :
    runWithPlugin digest P config x records =
      (.ok (completed digest x), records ++ abstentions digest x) := by
  rw [runWithPlugin_eq, h, settle_passed rfl, h, settle_passed rfl, h, conclude_passed rfl]
  simp [abstentions]

end Observe

/-! ## Sessions of the admission policy -/

section Admission

variable (T : PolicyTools)

/-- What the host answers, for a plugin that may read the body. -/
def policyAnswer (x : Exchange) : Except PyError LifecycleTrace :=
  match ruling T.decoder x.requestBody with
  | .raises e => .error e
  | .admitted => .ok (completed T.digest x)
  | _ => .ok (deniedAt T.digest x .requestReceived)

/-- What the plugin records of an exchange. -/
def policyRecords (x : Exchange) : List HookRecord :=
  match ruling T.decoder x.requestBody with
  | .raises _ => []
  | .malformed => [⟨x.exchangeId, "request_received", DENY, none, true,
      some ("body_parse_failure: " ++ T.parseFailure x.requestBody)⟩]
  | .blocked model => [⟨x.exchangeId, "request_received", DENY, some (T.digest x.requestBody), true,
      some ("blocked_model_prefix: " ++ pyRepr model ++ " matches '" ++ BLOCKED_MODEL_PREFIX ++
        "*' policy")⟩]
  | .admitted => abstentions T.digest x

variable {T}

theorem ask_policy_admitted {x : Exchange} (h : ruling T.decoder x.requestBody = .admitted)
    (phase : LifecyclePhase) (records : List HookRecord) :
    ask (admissionPolicyPlugin T) ⟨true⟩ x phase records =
      (.passed, records ++ [abstention T.digest x phase]) := by
  cases phase <;>
    simp [ask, callPlugin, phaseContext, admissionPolicyPlugin, LifecyclePhase.value, bodyAt, h,
      honorDeny, ABSTAIN, DENY, abstention]

/-- One exchange: the ruling on its body decides the answer and what is recorded. -/
theorem runWithPlugin_policy (records : List HookRecord) (x : Exchange) :
    runWithPlugin T.digest (admissionPolicyPlugin T) ⟨true⟩ x records =
      (policyAnswer T x, records ++ policyRecords T x) := by
  unfold policyAnswer policyRecords
  cases hruling : ruling T.decoder x.requestBody with
  | malformed =>
      simp [runWithPlugin_eq, ask, callPlugin, phaseContext, admissionPolicyPlugin,
        LifecyclePhase.value, bodyAt, hruling, honorDeny, admissionPolicyManifest, settle]
  | raises e =>
      simp [runWithPlugin_eq, ask, callPlugin, phaseContext, admissionPolicyPlugin,
        LifecyclePhase.value, bodyAt, hruling, settle]
  | blocked model =>
      simp [runWithPlugin_eq, ask, callPlugin, phaseContext, admissionPolicyPlugin,
        LifecyclePhase.value, bodyAt, hruling, honorDeny, admissionPolicyManifest, settle]
  | admitted => exact runWithPlugin_abstaining (ask_policy_admitted hruling) records

/-- The exchanges whose traces ended in a state, in the order they were served. -/
def idsOf (state : TerminalState) (session : List (Except PyError LifecycleTrace)) : List String :=
  session.filterMap fun
    | .error _ => none
    | .ok t => if t.terminalState = some state then some t.exchangeId else none

variable (T) in
/-- What the client of an exchange meets. -/
def Ruled (x : Exchange) (r : Except PyError LifecycleTrace) : Prop :=
  match ruling T.decoder x.requestBody with
  | .raises e => r = .error e
  | .admitted => ∃ t, r = .ok t ∧ t.terminalState = some .completed ∧
      (t.observationAt .backendDispatch).bind ObservationRecord.payloadDigest =
        some (T.digest x.requestBody)
  | _ => ∃ t, r = .ok t ∧ t.terminalState = some .policyDenied ∧
      t.observationAt .backendDispatch = none ∧
      (t.observationAt .clientEgress).bind ObservationRecord.payloadDigest =
        some (T.digest rejectionBody)

theorem serve_policy (xs : List Exchange) (log : List HookRecord) :
    serve T.digest (admissionPolicyPlugin T) ⟨true⟩ xs log =
      (xs.map (policyAnswer T), log ++ xs.flatMap (policyRecords T)) :=
  answers_logging (policyAnswer T) (policyRecords T) runWithPlugin_policy log xs

/-- A request that is written with `json.dumps` is ruled by the model it names. -/
theorem ruling_dumps {D : Coordinator.Decoder} {members : List (String × Json)}
    (hproper : (Json.obj members).Proper D.floatRepr)
    (hlimit : D.beyondLimit (Json.obj members).dumps = none) :
    ruling D (utf8 (Json.obj members).dumps) =
      match members.lookup "model" with
      | some (.str model) =>
        if BLOCKED_MODEL_PREFIX.toList <+: model.toList then .blocked model else .admitted
      | _ => .admitted := by
  have hparse : parseRequest D (utf8 (Json.obj members).dumps) = some (.ok (.obj members)) := by
    simp [parseRequest, decodeUtf8_utf8, hlimit, loads_dumps hproper]
  simp only [ruling, hparse, Json.getD]
  cases hmodel : members.lookup "model" with
  | none => simp [BLOCKED_MODEL_PREFIX]
  | some model => cases model <;> rfl

def namesBlocked (members : List (String × Json)) : Bool :=
  match members.lookup "model" with
  | some (.str model) => BLOCKED_MODEL_PREFIX.toList <+: model.toList
  | _ => false

/-- The body of the exchange is what `json.dumps` writes of a dictionary. -/
structure Written (D : Coordinator.Decoder) (x : Exchange) (members : List (String × Json)) :
    Prop where
  body : x.requestBody = utf8 (Json.obj members).dumps
  proper : (Json.obj members).Proper D.floatRepr
  limit : D.beyondLimit (Json.obj members).dumps = none

theorem policyAnswer_written {x : Exchange} {members : List (String × Json)}
    (h : Written T.decoder x members) :
    policyAnswer T x = .ok (if namesBlocked members then deniedAt T.digest x .requestReceived
      else completed T.digest x) := by
  have hruling := ruling_dumps h.proper h.limit
  rw [← h.body] at hruling
  unfold policyAnswer namesBlocked
  rw [hruling]
  cases members.lookup "model" with
  | none => rfl
  | some model =>
      cases model with
      | str name => by_cases hname : BLOCKED_MODEL_PREFIX.toList <+: name.toList <;> simp [hname]
      | _ => rfl

/-- In a session of written requests exactly those that name a blocked model are denied, and exactly
the others complete. -/
theorem blocked_models_denied {written : List (Exchange × List (String × Json))}
    (h : ∀ w ∈ written, Written T.decoder w.1 w.2) (log : List HookRecord) :
    idsOf .policyDenied
        (serve T.digest (admissionPolicyPlugin T) ⟨true⟩ (written.map Prod.fst) log).1 =
        (written.filter fun w => namesBlocked w.2).map (fun w => w.1.exchangeId) ∧
      idsOf .completed
        (serve T.digest (admissionPolicyPlugin T) ⟨true⟩ (written.map Prod.fst) log).1 =
        (written.filter fun w => !namesBlocked w.2).map fun w => w.1.exchangeId := by
  rw [serve_policy]
  induction written with
  | nil => exact ⟨rfl, rfl⟩
  | cons w written ih =>
      obtain ⟨hdenied, hcompleted⟩ := ih fun w' hw' => h w' (List.mem_cons_of_mem w hw')
      have hanswer := policyAnswer_written (h w List.mem_cons_self)
      cases hblocked : namesBlocked w.2 with
      | true =>
        rw [hblocked, if_pos rfl] at hanswer
        simp_all [idsOf, deniedAt, terminalPolicyDenied]
      | false => simp_all [idsOf, completed, terminalCompleted]

def plainPolicy : PolicyTools := ⟨plainDigest, ⟨id, fun _ => none⟩, fun _ => ""⟩

def requestOf (xid model : String) : Exchange × List (String × Json) :=
  (⟨xid, utf8 (Json.obj [("model", .str model)]).dumps, "/v1", [], []⟩, [("model", .str model)])

theorem written_requestOf (xid model : String) :
    Written plainPolicy.decoder (requestOf xid model).1 (requestOf xid model).2 where
  body := rfl
  proper := .obj (List.nodup_singleton _) fun m hm => by
    obtain rfl := List.mem_singleton.mp hm
    exact .str model
  limit := rfl

theorem blocked_models_denied_two :
    idsOf .policyDenied (serve plainDigest (admissionPolicyPlugin plainPolicy) ⟨true⟩
      ([requestOf "x1" "blocked-7b", requestOf "x2" "7b"].map Prod.fst) []).1 = ["x1"] := by
  refine (blocked_models_denied (T := plainPolicy) (fun w hw => ?_) []).1.trans (by decide)
  simp only [List.mem_cons, List.not_mem_nil, or_false] at hw
  obtain rfl | rfl := hw
  · exact written_requestOf "x1" "blocked-7b"
  · exact written_requestOf "x2" "7b"

end Admission

end CapsuleMesh.Exemplar
