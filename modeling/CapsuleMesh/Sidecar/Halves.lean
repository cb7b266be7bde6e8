import CapsuleMesh.Digest
import CapsuleMesh.Sidecar.StreamRoundTrip

/-!
# The two halves of an exchange

A requester sidecar in front of a provider sidecar: the request passes both
unchanged, and the reply of the provider is the upstream reply of the requester.
`handle_chat_completion` and `_handle_streaming_chat_completion` are modelled from
the reply they receive to the capsule they seal and the reply they send;
`digest_match_grade` of `capsule_exchange_tab.py` compares the two capsules.
-/

namespace CapsuleMesh.Sidecar

open Python Sequence

/-! ## One sidecar -/

/-- `json.loads(body.decode("utf-8"))`, with what the error branch makes of a body that
is not JSON. -/
inductive Decoded where
  | value (j : Json)
  | notJson (text : String)
  | notUtf8

/-- A body by its two readings: as one document and as an event stream. -/
structure Body where
  decoded : Decoded
  lines : List SseLine

structure Reply where
  status : ℕ
  body : Body

/-- `urlopen` raises `HTTPError` on every other status. -/
def Reply.succeeded (reply : Reply) : Bool := 200 ≤ reply.status ∧ reply.status < 300

def sseText (lines : List SseLine) : String :=
  String.join (lines.map fun line =>
    match line with
    | .data chunk => "data: " ++ chunk.dumps ++ "\n\n"
    | .done => "data: [DONE]\n\n"
    | .other => "")

/-- The response that is sealed for an `HTTPError` while streaming. -/
def errorResponse : Decoded → Py Json
  | .value response => .ok response
  | .notJson text => .ok (.obj [("error", .obj [("message", .str text)])])
  | .notUtf8 => .error (.valueError "the error body is not UTF-8")

def exchangeIdFromResponse (response : Json) : Py (String × String) := do
  match ← response.get "id" with
  | .str id => return if id = "" then ("unknown", "unavailable") else (id, "response_id")
  | _ => return ("unknown", "unavailable")

/-- What `build_capsule` is given or reads beside the exchange itself. -/
structure SealContext where
  cfg : NodeConfig
  clientNonce : String
  clientNonceSource : String
  bilateralEval : Option BilateralEvalResult
  peerCapsuleId : Option String
  latencyMs : String
  nowUnixMs : Int
  uuid : String
  number : Int × Option Int
  prior : Option String
  relationHead : Option String
  /-- The `uuid4` values drawn for tool calls. -/
  uuids : ℕ → String

section Handlers

variable (emit : Emit) (digests : Digests) (ctx : SealContext)

def sealArgs (requestJson responseJson : Json) (status : ℕ) (forwardedCopy : Json)
    (exchange : String × String) : BuildArgs :=
  let responseDigest := safeDigestJson digests responseJson
  let confirmed := (200 ≤ status ∧ status < 300) ∧ responseDigest.isSome
  { clientNonce := ctx.clientNonce
    clientNonceSource := ctx.clientNonceSource
    requestJson := requestJson
    requestDigest := safeDigestJson digests requestJson
    status := if confirmed then "confirmed" else "failed"
    responseDigest := responseDigest
    verdictClass := if confirmed then "executed" else "errored"
    dispositionDecision := if confirmed then "accept" else "reject"
    latencyMs := ctx.latencyMs
    exchangeId := exchange.1
    exchangeIdSource := exchange.2
    forwardedCopy := forwardedCopy
    bilateralEval := ctx.bilateralEval
    peerCapsuleId := ctx.peerCapsuleId
    responseJson := responseJson
    nowUnixMs := ctx.nowUnixMs
    uuid := ctx.uuid }

/-- `_seal_chat_completion`, and the same steps in `handle_chat_completion`. -/
def sealChatCompletion (requestJson responseJson : Json) (status : ℕ) (forwardedCopy : Json) :
    Py Json := do
  let exchange ← exchangeIdFromResponse responseJson
  emitServing emit digests ctx.cfg
    (sealArgs digests ctx requestJson responseJson status forwardedCopy exchange)
    ctx.number ctx.prior ctx.relationHead

/-- `handle_chat_completion` from the upstream reply on. -/
def handleChatCompletion (requestJson : Json) (reply : Reply) : Py (Json × Reply) :=
  match reply.body.decoded with
  | .value response => do
      let (_, log) ← buildForwardedCopy ctx.uuids response
      let capsule ← sealChatCompletion emit digests ctx requestJson response reply.status
        (forwardedCopyRecord digests response [] log.upstreamToolCallIds)
      return (capsule, reply)
  | _ => .error (.valueError "the response is not JSON")

/-- `_handle_streaming_chat_completion` from the upstream reply on. -/
def handleStreamingChatCompletion (requestJson : Json) (reply : Reply) : Py (Json × Reply) :=
  if reply.succeeded then do
    let response ← reassembleStreamedResponse (readSse reply.body.lines)
    let (forwarded, log) ← buildForwardedCopy ctx.uuids response
    let capsule ← sealChatCompletion emit digests ctx requestJson response reply.status
      (forwardedCopyRecord digests forwarded log.transforms log.upstreamToolCallIds)
    let lines ← synthesizeSse forwarded
    return (capsule, ⟨reply.status, ⟨.notJson (sseText lines), lines⟩⟩)
  else do
    let response ← errorResponse reply.body.decoded
    let capsule ← sealChatCompletion emit digests ctx requestJson response reply.status .null
    return (capsule, reply)

/-- `do_POST` for a request body that was parsed. -/
def handlePost (requestJson : Json) (reply : Reply) : Py (Json × Reply) := do
  let stream ← requestJson.get "stream"
  if stream.truthy then handleStreamingChatCompletion emit digests ctx requestJson reply
  else handleChatCompletion emit digests ctx requestJson reply

end Handlers

/-! ## Comparing two halves -/

def effectBlock (record : Json) : Py Json := do
  return (← record.get "effect").or (.obj [])

/-- `serving_provenance` of `capsule_mesh_viewer.py`, with the members that are read
from it here. -/
structure Provenance where
  model : Json
  servedByNodeId : Json
  requestingParty : Json
  exchangeId : Json

def readProvenance (record : Json) : Py Provenance := do
  let block := (← (← pocBlock record).get "serving_provenance").or (.obj [])
  let model := (← block.get "model").or (.obj [])
  let _ ← ((← block.get "hardware").or (.obj [])).get "gpu"
  let _ ← ((← block.get "usage").or (.obj [])).get "total_tokens"
  let ref := (← block.get "model_canonical_ref").or (← model.get "canonical_ref")
  let modelId ← (← record.getD "model_attestation" (.obj [])).get "model_id"
  return ⟨ref.or modelId, ← block.get "served_by_node_id", ← block.get "requesting_party",
    ← block.get "exchange_id"⟩

def exchangeIdFor (record : Json) : Py Json := do
  return (← readProvenance record).exchangeId

inductive MatchState where
  | absent
  | presentUnverified
  | verified
  | failed
deriving DecidableEq

structure FieldMatch where
  state : MatchState
  a : Json
  b : Json

structure MatchGrade where
  state : MatchState
  fields : List (String × FieldMatch)
  reason : Option String := none

def fieldMatch (a b : Json) : FieldMatch :=
  if a.isNull ∨ b.isNull then ⟨.absent, a, b⟩
  else if Json.pyEq a b then ⟨.verified, a, b⟩
  else ⟨.failed, a, b⟩

def overallState (fields : List FieldMatch) : MatchState :=
  if fields.any (·.state = .failed) then .failed
  else if fields.any (·.state = .absent) then .presentUnverified
  else .verified

/-- The loop over `DIGEST_FIELDS`. -/
def compareDigests (halfA halfB : Json) : List String → Py (List (String × FieldMatch))
  | [] => .ok []
  | field :: fields => do
      let a ← (← effectBlock halfA).get field
      let b ← (← effectBlock halfB).get field
      return (field, fieldMatch a b) :: (← compareDigests halfA halfB fields)

def DIGEST_FIELDS : List String := ["request_digest", "response_digest"]

def digestMatchGrade (halfA halfB : Option Json) : Py MatchGrade :=
  match halfA, halfB with
  | some a, some b => do
      let fields ← compareDigests a b DIGEST_FIELDS
      return { state := overallState (fields.map Prod.snd), fields := fields }
  | none, none =>
      .ok ⟨.absent, [], some "only neither half of this exchange is present in this view"⟩
  | _, _ => .ok ⟨.absent, [], some "only one half of this exchange is present in this view"⟩

/-! ## What the digest of a completion tells -/

theorem lookup_stringifyMembers (key : String) (ms : List (String × Json)) :
    (stringifyMembers ms).lookup key = (ms.lookup key).map stringifyFloats := by
  induction ms with
  | nil => rfl
  | cons m ms ih =>
      obtain ⟨k, v⟩ := m
      by_cases hk : key = k
      · subst hk
        simp [stringifyMembers]
      · have hne : (key == k) = false := by simpa using hk
        simp [stringifyMembers, List.lookup_cons, hne, ih]

theorem getElem?_stringifyElems (es : List Json) (i : ℕ) :
    (stringifyElems es)[i]? = es[i]?.map stringifyFloats := by
  induction es generalizing i with
  | nil => rfl
  | cons e es ih =>
      cases i with
      | zero => rfl
      | succ i => simpa [stringifyElems] using ih i

theorem leafAt_stringifyFloats (path : List Step) (j : Json) :
    leafAt path (stringifyFloats j) = (leafAt path j).map stringifyFloats := by
  induction path generalizing j with
  | nil => cases j <;> simp [stringifyFloats, leafAt]
  | cons step path ih =>
      cases step with
      | key k =>
        cases j <;> simp [stringifyFloats, leafAt]
        case obj ms =>
          rw [lookup_stringifyMembers]
          cases ms.lookup k <;> simp [ih]
      | index i =>
        cases j <;> simp [stringifyFloats, leafAt]
        case arr es =>
          rw [getElem?_stringifyElems]
          cases es[i]? <;> simp [ih]

def contentPath : List Step := [.key "choices", .index 0, .key "message", .key "content"]

def toolCallIdPath (i : ℕ) : List Step :=
  [.key "choices", .index 0, .key "message", .key "tool_calls", .index i, .key "id"]

theorem leafAt_contentPath (c : Completion) :
    leafAt contentPath c.toJson = leafAt [] c.content := rfl

theorem leafAt_toolCallIdPath {c : Completion} {i : ℕ} {slot : ToolCallSlot}
    (h : c.slots[i]? = some slot) : leafAt (toolCallIdPath i) c.toJson = leafAt [] slot.id := by
  have hne : c.slots.isEmpty = false := by
    cases hs : c.slots with
    | nil => simp [hs] at h
    | cons s ss => rfl
  have hmessage : messageOf c.role c.content c.slots = .obj
      [("role", c.role), ("content", c.content),
       ("tool_calls", .arr (c.slots.map ToolCallSlot.toJson))] := by
    simp [messageOf, hne]
  simp [toolCallIdPath, Completion.toJson, hmessage, leafAt, List.lookup_cons, h, ToolCallSlot.toJson]

theorem getElem?_mintSlots (uuids : ℕ → String) (n : ℕ) {slots : List ToolCallSlot} {i : ℕ}
    {slot : ToolCallSlot} (h : slots[i]? = some slot) (hid : slot.id.truthy = false) :
    ∃ hex, (mintSlots uuids n slots)[i]? = some { slot with id := .str (mintedId hex) } := by
  induction slots generalizing n i with
  | nil => simp at h
  | cons s slots ih =>
      cases i with
      | zero =>
        obtain rfl : s = slot := by simpa using h
        exact ⟨uuids n, by simp [mintSlots, hid]⟩
      | succ i =>
        have h : slots[i]? = some slot := by simpa using h
        unfold mintSlots
        split_ifs
        · obtain ⟨hex, hmint⟩ := ih n h
          exact ⟨hex, by simpa using hmint⟩
        · obtain ⟨hex, hmint⟩ := ih (n + 1) h
          exact ⟨hex, by simpa using hmint⟩

theorem mintSlots_of_truthy (uuids : ℕ → String) (n : ℕ) {slots : List ToolCallSlot}
    (h : ∀ slot ∈ slots, slot.id.truthy = true) : mintSlots uuids n slots = slots := by
  induction slots with
  | nil => rfl
  | cons slot slots ih =>
      simp [mintSlots, h slot List.mem_cons_self, ih fun s hs => h s (List.mem_cons_of_mem _ hs)]

theorem digestible_mintSlots (uuids : ℕ → String) (n : ℕ) {slots : List ToolCallSlot}
    (h : ∀ slot ∈ slots, slot.id = .null ∨ slot.id.truthy = true) :
    digestibleElems (stringifyElems ((mintSlots uuids n slots).map ToolCallSlot.toJson)) =
      digestibleElems (stringifyElems (slots.map ToolCallSlot.toJson)) := by
  induction slots generalizing n with
  | nil => rfl
  | cons slot slots ih =>
      have hrest := fun m => ih m fun s hs => h s (List.mem_cons_of_mem _ hs)
      rcases h slot List.mem_cons_self with hnull | htruthy
      · simp [mintSlots, hnull, stringifyElems, digestibleElems, ToolCallSlot.toJson,
          stringifyFloats, stringifyMembers, digestible, digestibleMembers, hrest]
      · simp [mintSlots, htruthy, stringifyElems, digestibleElems, hrest]

/-- Dropping the content and minting ids makes no value digestible and none
undigestible. -/
theorem digestible_forwarded (uuids : ℕ → String) {c : Completion} (h : c.Tidy) :
    digestible (stringifyFloats (c.forwarded uuids).toJson) =
      digestible (stringifyFloats c.toJson) := by
  have hcontent : digestible (stringifyFloats c.content) = true := by
    rcases h.content with hnull | ⟨text, -, htext⟩
    · simp [hnull, stringifyFloats, digestible]
    · simp [htext, stringifyFloats, digestible]
  cases hslots : c.slots with
  | nil => simp [Completion.forwarded, hslots, mintSlots, Completion.toJson]
  | cons slot slots =>
      have hmint := digestible_mintSlots uuids 0 h.slots
      have hempty := mintSlots_isEmpty uuids 0 (slot :: slots)
      rw [hslots] at hmint
      simp [Completion.forwarded, hslots, Completion.toJson, messageOf, hempty, stringifyFloats,
        stringifyMembers, stringifyElems, digestible, digestibleMembers, digestibleElems,
        hcontent] at hmint ⊢
      rw [hmint]

/-- The copy has the digest of the original exactly when it is the original, or when
there is no digest at all. -/
theorem safeDigestJson_forwarded_iff {digests : Digests}
    (hdigest : DigestContract digests.jsonDigest) (uuids : ℕ → String) {c : Completion} (h : c.Tidy) :
    safeDigestJson digests c.toJson = safeDigestJson digests (c.forwarded uuids).toJson ↔
      ((c.slots = [] ∨ c.content = .null) ∧ ∀ slot ∈ c.slots, slot.id.truthy = true) ∨
        safeDigestJson digests c.toJson = none := by
  have hsome : ∀ j, safeDigestJson digests j = none ↔ digestible (stringifyFloats j) = false := by
    intro j
    have := hdigest.isSome (stringifyFloats j)
    rw [safeDigestJson, ← this]
    cases digests.jsonDigest (stringifyFloats j) <;> simp
  constructor
  · intro heq
    cases hd : safeDigestJson digests c.toJson with
    | none => exact .inr rfl
    | some digest =>
        rw [hd] at heq
        have hpath : ∀ path, (leafAt path c.toJson).map stringifyFloats =
            (leafAt path (c.forwarded uuids).toJson).map stringifyFloats := by
          intro path
          rw [← leafAt_stringifyFloats, ← leafAt_stringifyFloats]
          exact hdigest.leaf hd heq.symm path
        refine .inl ⟨?_, ?_⟩
        · by_contra hboth
          obtain ⟨hslots, hcontent⟩ := not_or.mp hboth
          obtain ⟨text, -, htext⟩ := h.content.resolve_left hcontent
          have hempty : c.slots.isEmpty = false := by simpa using hslots
          have := hpath contentPath
          simp [leafAt_contentPath, Completion.forwarded, hempty, htext, leafAt,
            stringifyFloats] at this
        · intro slot hslot
          by_contra hid
          obtain ⟨i, hi, hget⟩ := List.getElem_of_mem hslot
          have hget : c.slots[i]? = some slot := by simp [← hget]
          have hfalse : slot.id.truthy = false := by simpa using hid
          have hnull := (h.slots slot hslot).resolve_right hid
          obtain ⟨hex, hmint⟩ := getElem?_mintSlots uuids 0 hget hfalse
          have hminted : (c.forwarded uuids).slots[i]? =
              some { slot with id := .str (mintedId hex) } := hmint
          have := hpath (toolCallIdPath i)
          rw [leafAt_toolCallIdPath hget, leafAt_toolCallIdPath hminted, hnull] at this
          simp [leafAt, stringifyFloats] at this
  · rintro (⟨hcontent, hids⟩ | hnone)
    · have hsame : c.forwarded uuids = c := by
        cases c
        simp only [Completion.forwarded, mintSlots_of_truthy uuids 0 hids] at hcontent ⊢
        rcases hcontent with hslots | hnull
        · simp [hslots]
        · simp [hnull]
      rw [hsame]
    · rw [hnone, eq_comm, hsome, digestible_forwarded uuids h]
      exact (hsome _).mp hnone

/-! ## What a half carries -/

/-- The three fields by which the halves of an exchange are compared. -/
structure HalfFields where
  exchangeId : Json
  requestDigest : Json
  responseDigest : Json

def halfFields (record : Json) : Py HalfFields := do
  let effect ← effectBlock record
  return ⟨← exchangeIdFor record, ← effect.get "request_digest", ← effect.get "response_digest"⟩

/-- A record whose block is read has an attestation to read the model from. -/
theorem pocBlock_attestation {record poc : Json} (h : pocBlock record = .ok poc) :
    ∃ members, record.getD "model_attestation" (.obj []) = .ok (.obj members) := by
  simp only [pocBlock, Py.bind_eq_ok] at h
  obtain ⟨attestation, hattestation, compute, hcompute, -⟩ := h
  cases attestation with
  | obj members => exact ⟨members, hattestation⟩
  | _ => cases hcompute

theorem sealChatCompletion_fields {emit : Emit} (hemit : EmitContract emit) {digests : Digests}
    {ctx : SealContext} {requestJson responseJson forwardedCopy capsule : Json} {status : ℕ}
    (h : sealChatCompletion emit digests ctx requestJson responseJson status forwardedCopy =
      .ok capsule) :
    ∃ exchange, exchangeIdFromResponse responseJson = .ok exchange ∧
      halfFields capsule = .ok ⟨.str exchange.1, .ofStr? (safeDigestJson digests requestJson),
        .ofStr? (safeDigestJson digests responseJson)⟩ ∧
      effectBlock capsule = .ok (effectRecord
        (sealArgs digests ctx requestJson responseJson status forwardedCopy exchange)) := by
  simp only [sealChatCompletion, Py.bind_eq_ok] at h
  obtain ⟨exchange, hexchange, hseal⟩ := h
  obtain ⟨parameters, modelId, reconciliation, owner, hblock⟩ := pocBlock_sealed hemit hseal
  obtain ⟨ea, hcapsule, -, -, heffect, -⟩ := emitServing_ok hseal
  have hget := hemit.effect hcapsule
  rw [heffect] at hget
  have hefft : effectBlock capsule = .ok (effectRecord
      (sealArgs digests ctx requestJson responseJson status forwardedCopy exchange)) := by
    simp [effectBlock, hget, effectRecord]
  obtain ⟨members, hattestation⟩ := pocBlock_attestation hblock
  have hexchangeId : exchangeIdFor capsule = .ok (.str exchange.1) := by
    simp [exchangeIdFor, readProvenance, hblock, hattestation, pocFields, servingProvenance,
      List.lookup_cons, sealArgs, Json.or, Json.truthy]
  refine ⟨exchange, hexchange, ?_, hefft⟩
  simp [halfFields, hefft, hexchangeId, List.lookup_cons, effectRecord, sealArgs]

/-- The halves of one exchange agree, and their comparison does not fail. -/
structure HalvesAgree (halfA halfB : Json) : Prop where
  fields : halfFields halfA = halfFields halfB
  grade : ∀ grade, digestMatchGrade (some halfA) (some halfB) = .ok grade → grade.state ≠ .failed

theorem fieldMatch_ofStr?_self (o : Option String) :
    (fieldMatch (.ofStr? o) (.ofStr? o)).state ≠ .failed := by
  cases o with
  | none => simp [fieldMatch, Json.ofStr?, Json.isNull]
  | some s =>
      have hequal : Json.pyEq (.str s) (.str s) = true := decide_eq_true rfl
      rw [fieldMatch, Json.ofStr?, if_neg (by simp [Json.isNull]), if_pos hequal]
      exact MatchState.noConfusion

theorem ofStr?_injective {a b : Option String} (h : Json.ofStr? a = .ofStr? b) : a = b := by
  cases a <;> cases b <;> simp_all [Json.ofStr?]

/-- Two halves sealed over one request and responses of one id agree exactly when the
responses have the same digest. -/
theorem halvesAgree_iff_digest {emit : Emit} (hemit : EmitContract emit) {digests : Digests}
    {ctxA ctxB : SealContext} {requestJson responseA responseB copyA copyB halfA halfB : Json}
    {statusA statusB : ℕ}
    (hA : sealChatCompletion emit digests ctxA requestJson responseA statusA copyA = .ok halfA)
    (hB : sealChatCompletion emit digests ctxB requestJson responseB statusB copyB = .ok halfB)
    (hid : exchangeIdFromResponse responseA = exchangeIdFromResponse responseB) :
    HalvesAgree halfA halfB ↔
      safeDigestJson digests responseA = safeDigestJson digests responseB := by
  obtain ⟨exchangeA, hexA, hfieldsA, heffA⟩ := sealChatCompletion_fields hemit hA
  obtain ⟨exchangeB, hexB, hfieldsB, heffB⟩ := sealChatCompletion_fields hemit hB
  obtain rfl : exchangeA = exchangeB := Except.ok.inj (hexA.symm.trans (hid.trans hexB))
  constructor
  · intro h
    have hfields := h.fields
    rw [hfieldsA, hfieldsB] at hfields
    exact ofStr?_injective (congrArg HalfFields.responseDigest (Except.ok.inj hfields))
  · intro hdigest
    refine ⟨by rw [hfieldsA, hfieldsB, hdigest], ?_⟩
    intro grade hgrade
    simp [digestMatchGrade, DIGEST_FIELDS, compareDigests, heffA, heffB, effectRecord, sealArgs,
      List.lookup_cons, hdigest] at hgrade
    obtain rfl := hgrade
    simp [overallState, fieldMatch_ofStr?_self]
    split_ifs <;> simp

/-- Two different digests are reported as a failure. -/
theorem digestMatchGrade_failed {emit : Emit} (hemit : EmitContract emit) {digests : Digests}
    {ctxA ctxB : SealContext} {requestJson responseA responseB copyA copyB halfA halfB : Json}
    {statusA statusB : ℕ} {digestA digestB : String}
    (hA : sealChatCompletion emit digests ctxA requestJson responseA statusA copyA = .ok halfA)
    (hB : sealChatCompletion emit digests ctxB requestJson responseB statusB copyB = .ok halfB)
    (hdigestA : safeDigestJson digests responseA = some digestA)
    (hdigestB : safeDigestJson digests responseB = some digestB) (hne : digestA ≠ digestB) :
    ∃ grade, digestMatchGrade (some halfA) (some halfB) = .ok grade ∧ grade.state = .failed := by
  obtain ⟨exchangeA, -, -, heffA⟩ := sealChatCompletion_fields hemit hA
  obtain ⟨exchangeB, -, -, heffB⟩ := sealChatCompletion_fields hemit hB
  have hfield : (fieldMatch (.str digestA) (.str digestB)).state = .failed := by
    simp [fieldMatch, Json.isNull, Json.pyEq, hne]
  simp [digestMatchGrade, DIGEST_FIELDS, compareDigests, heffA, heffB, effectRecord, sealArgs,
    List.lookup_cons, hdigestA, hdigestB, Json.ofStr?, overallState, hfield]

/-! ## The pair of sidecars -/

section Pair

variable {emit : Emit} {digests : Digests} {ctx : SealContext} {requestJson capsule : Json}
  {reply sent : Reply}

theorem handleChatCompletion_ok
    (h : handleChatCompletion emit digests ctx requestJson reply = .ok (capsule, sent)) :
    ∃ response copy, reply.body.decoded = .value response ∧ sent = reply ∧
      sealChatCompletion emit digests ctx requestJson response reply.status copy = .ok capsule := by
  unfold handleChatCompletion at h
  split at h
  · rename_i response hdecoded
    simp only [Py.bind_eq_ok] at h
    obtain ⟨⟨forwarded, log⟩, -, capsule', hseal, h⟩ := h
    obtain ⟨rfl, rfl⟩ := Prod.mk.inj (Except.ok.inj h)
    exact ⟨response, _, hdecoded, rfl, hseal⟩
  · cases h

theorem handleStreaming_error (hfailed : reply.succeeded = false)
    (h : handleStreamingChatCompletion emit digests ctx requestJson reply = .ok (capsule, sent)) :
    ∃ response, errorResponse reply.body.decoded = .ok response ∧ sent = reply ∧
      sealChatCompletion emit digests ctx requestJson response reply.status .null =
        .ok capsule := by
  unfold handleStreamingChatCompletion at h
  simp only [hfailed, Bool.false_eq_true, if_false, Py.bind_eq_ok] at h
  obtain ⟨response, hresponse, capsule', hseal, h⟩ := h
  obtain ⟨rfl, rfl⟩ := Prod.mk.inj (Except.ok.inj h)
  exact ⟨response, hresponse, rfl, hseal⟩

theorem handleStreaming_ok (hsucceeded : reply.succeeded = true)
    (h : handleStreamingChatCompletion emit digests ctx requestJson reply = .ok (capsule, sent)) :
    ∃ response forwarded log copy, reassembleStreamedResponse (readSse reply.body.lines) =
        .ok response ∧
      buildForwardedCopy ctx.uuids response = .ok (forwarded, log) ∧
      sealChatCompletion emit digests ctx requestJson response reply.status copy = .ok capsule ∧
      synthesizeSse forwarded = .ok sent.body.lines ∧ sent.status = reply.status := by
  unfold handleStreamingChatCompletion at h
  simp only [hsucceeded, if_true, Py.bind_eq_ok] at h
  obtain ⟨response, hresponse, ⟨forwarded, log⟩, hforwarded, capsule', hseal, lines, hlines, h⟩ := h
  obtain ⟨rfl, rfl⟩ := Prod.mk.inj (Except.ok.inj h)
  exact ⟨response, forwarded, log, _, hresponse, hforwarded, hseal, hlines, rfl⟩

/-- The requester of a streamed exchange seals the copy of what its provider sealed. -/
theorem streamed_halves {provider requester : SealContext} {upstream : Reply}
    {providerHalf requesterHalf : Json} (hstatus : upstream.succeeded = true)
    (hprovider : handleStreamingChatCompletion emit digests provider requestJson upstream =
      .ok (providerHalf, reply))
    (hrequester : handleStreamingChatCompletion emit digests requester requestJson reply =
      .ok (requesterHalf, sent)) :
    ∃ (read : List Chunk) (c : Completion) (copy copy' : Json),
      readChunks (readSse upstream.body.lines) = .ok read ∧
      reassembleStreamedResponse (readSse upstream.body.lines) = .ok c.toJson ∧ c.Tidy ∧
      (NeedsNoTransform read ↔
        (c.slots = [] ∨ c.content = .null) ∧ ∀ slot ∈ c.slots, slot.id.truthy = true) ∧
      sealChatCompletion emit digests provider requestJson c.toJson upstream.status copy =
        .ok providerHalf ∧
      sealChatCompletion emit digests requester requestJson (c.forwarded provider.uuids).toJson
        upstream.status copy' = .ok requesterHalf := by
  obtain ⟨response, forwarded, log, copy, hresponse, hforwarded, hseal, hlines, hsent⟩ :=
    handleStreaming_ok hstatus hprovider
  have hstatus' : reply.succeeded = true := by
    rw [Reply.succeeded, hsent]
    exact hstatus
  obtain ⟨response', -, -, copy', hresponse', -, hseal', -, -⟩ :=
    handleStreaming_ok hstatus' hrequester
  obtain ⟨read, c, hread, rfl, htidy, hneeds⟩ := reassembleStreamedResponse_ok hresponse
  obtain ⟨log', hcopy⟩ := buildForwardedCopy_completion provider.uuids htidy
  obtain ⟨rfl, rfl⟩ := Prod.mk.inj (Except.ok.inj (hcopy.symm.trans hforwarded))
  have hback := reassemble_synthesized (htidy.forwarded provider.uuids)
    (Completion.forwarded_slots_or_content provider.uuids c) hlines
  obtain rfl := Except.ok.inj (hback.symm.trans hresponse')
  rw [hsent] at hseal'
  exact ⟨read, c, copy, copy', hread, hresponse, htidy, hneeds, hseal, hseal'⟩

/-- The provider sends its caller the response it seals: nothing is streamed, or the
stream needs no change.  A response without digest is sealed as such by both. -/
def SentAsSealed (digests : Digests) (requestJson : Json) (upstream : Reply) : Prop :=
  (∀ stream, requestJson.get "stream" = .ok stream → stream.truthy = false) ∨
  upstream.succeeded = false ∨
  (∃ read, readChunks (readSse upstream.body.lines) = .ok read ∧ NeedsNoTransform read) ∨
  ∃ response, reassembleStreamedResponse (readSse upstream.body.lines) = .ok response ∧
    safeDigestJson digests response = none

/-- A reply that is passed on unchanged is sealed alike. -/
theorem halvesAgree_of_same_response (hemit : EmitContract emit) {ctx' : SealContext}
    {response copy copy' capsule' : Json} {status : ℕ}
    (h : sealChatCompletion emit digests ctx requestJson response status copy = .ok capsule)
    (h' : sealChatCompletion emit digests ctx' requestJson response status copy' =
      .ok capsule') : HalvesAgree capsule capsule' :=
  (halvesAgree_iff_digest hemit h h' rfl).mpr rfl

/-- The halves that a provider sidecar and a requester sidecar in front of it seal for
one request agree exactly when the provider sent on what it sealed. -/
theorem halvesAgree_iff_sentAsSealed (hemit : EmitContract emit)
    (hdigest : DigestContract digests.jsonDigest) {provider requester : SealContext}
    {upstream : Reply} {providerHalf requesterHalf : Json}
    (hprovider : handlePost emit digests provider requestJson upstream = .ok (providerHalf, reply))
    (hrequester : handlePost emit digests requester requestJson reply = .ok (requesterHalf, sent)) :
    HalvesAgree providerHalf requesterHalf ↔ SentAsSealed digests requestJson upstream := by
  simp only [handlePost, Py.bind_eq_ok] at hprovider hrequester
  obtain ⟨stream, hstream, hprovider⟩ := hprovider
  obtain ⟨stream', hstream', hrequester⟩ := hrequester
  obtain rfl : stream = stream' := Except.ok.inj (hstream.symm.trans hstream')
  cases hmode : stream.truthy with
  | false =>
      simp only [hmode, Bool.false_eq_true, if_false] at hprovider hrequester
      obtain ⟨response, copy, hdecoded, rfl, hseal⟩ := handleChatCompletion_ok hprovider
      obtain ⟨response', copy', hdecoded', -, hseal'⟩ := handleChatCompletion_ok hrequester
      obtain rfl : response = response' := Decoded.value.inj (hdecoded.symm.trans hdecoded')
      refine iff_of_true (halvesAgree_of_same_response hemit hseal hseal') (.inl ?_)
      intro s hs
      obtain rfl : stream = s := Except.ok.inj (hstream.symm.trans hs)
      exact hmode
  | true =>
      simp only [hmode, if_true] at hprovider hrequester
      have hnot : ¬ ∀ s, requestJson.get "stream" = .ok s → s.truthy = false := by
        intro hall
        rw [hall stream hstream] at hmode
        cases hmode
      cases hstatus : upstream.succeeded with
      | false =>
        obtain ⟨response, herror, rfl, hseal⟩ := handleStreaming_error hstatus hprovider
        obtain ⟨response', herror', -, hseal'⟩ := handleStreaming_error hstatus hrequester
        obtain rfl : response = response' := Except.ok.inj (herror.symm.trans herror')
        exact iff_of_true (halvesAgree_of_same_response hemit hseal hseal') (.inr (.inl hstatus))
      | true =>
        obtain ⟨read, c, copy, copy', hread, hresponse, htidy, hneeds, hseal, hseal'⟩ :=
          streamed_halves hstatus hprovider hrequester
        rw [halvesAgree_iff_digest hemit hseal hseal' rfl,
          safeDigestJson_forwarded_iff hdigest provider.uuids htidy, ← hneeds]
        constructor
        · rintro (hno | hnone)
          · exact .inr (.inr (.inl ⟨read, hread, hno⟩))
          · exact .inr (.inr (.inr ⟨_, hresponse, hnone⟩))
        · rintro (hall | hfalse | ⟨read', hread', hno⟩ | ⟨response', hresponse', hnone⟩)
          · exact absurd hall hnot
          · exact absurd hstatus (by simp [hfalse])
          · obtain rfl : read = read' := Except.ok.inj (hread.symm.trans hread')
            exact .inl hno
          · obtain rfl := Except.ok.inj (hresponse.symm.trans hresponse')
            exact .inr hnone

end Pair

/-! ## A stream with content beside its tool call -/

def codeDigests : Digests where
  cert := plainDigests.cert
  jsonDigest := codeDigest

def plainContext (nodeId : String) (role : Role) : SealContext where
  cfg := plainConfig nodeId role
  clientNonce := "nonce"
  clientNonceSource := "client_supplied"
  bilateralEval := none
  peerCapsuleId := none
  latencyMs := "1.000"
  nowUnixMs := 0
  uuid := "uuid"
  number := (1, none)
  prior := none
  relationHead := none
  uuids := fun _ => "0123456789abcdef0123456789abcdef"

def streamRequest : Json := .obj [("messages", .arr []), ("stream", .bool true)]

/-- A stream of one chunk with this content and one tool call. -/
def toolCallStream (content : Json) : Reply where
  status := 200
  body :=
    { decoded := .notJson ""
      lines :=
        [.data (.obj
          [("id", .str "chatcmpl-1"),
           ("choices", .arr [.obj
             [("delta", .obj
               [("content", content),
                ("tool_calls", .arr [.obj
                  [("index", .int 0), ("id", .str "call_1"),
                   ("function", .obj [("name", .str "f"), ("arguments", .str "x")])]])]),
              ("finish_reason", .str "tool_calls")]])]),
         .done] }

theorem toolCallStream_sealed (digests : Digests) (content : Json)
    (hcontent : content = .null ∨ content = .str "ok") :
    ∃ providerHalf reply requesterHalf sent,
      handlePost plainEmit digests (plainContext "provider" .provider) streamRequest
        (toolCallStream content) = .ok (providerHalf, reply) ∧
      handlePost plainEmit digests (plainContext "requester" .requester) streamRequest reply =
        .ok (requesterHalf, sent) := by
  rcases hcontent with rfl | rfl
  · exact ⟨_, _, _, _, rfl, rfl⟩
  · exact ⟨_, _, _, _, rfl, rfl⟩

/-- Without content the tool call passes as it is. -/
theorem halvesAgree_iff_sentAsSealed_toolCall :
    ∃ providerHalf reply requesterHalf sent,
      handlePost plainEmit codeDigests (plainContext "provider" .provider) streamRequest
        (toolCallStream .null) = .ok (providerHalf, reply) ∧
      handlePost plainEmit codeDigests (plainContext "requester" .requester) streamRequest reply =
        .ok (requesterHalf, sent) ∧
      HalvesAgree providerHalf requesterHalf := by
  obtain ⟨providerHalf, reply, requesterHalf, sent, hprovider, hrequester⟩ :=
    toolCallStream_sealed codeDigests .null (.inl rfl)
  refine ⟨providerHalf, reply, requesterHalf, sent, hprovider, hrequester, ?_⟩
  refine (halvesAgree_iff_sentAsSealed plainEmit_contract codeDigest_contract hprovider
    hrequester).mpr (.inr (.inr (.inl ⟨_, rfl, .inr ?_, ?_⟩)))
  · intro chunk hchunk
    obtain rfl := List.mem_singleton.mp hchunk
    rfl
  · intro call hcall
    obtain rfl := List.mem_singleton.mp hcall
    exact ⟨_, List.mem_singleton_self _, rfl, rfl⟩

/-- With content beside it the provider seals the content and sends the call without:
the honest pair is graded as failed. -/
theorem content_with_toolCall_fails_pair :
    ∃ providerHalf reply requesterHalf sent grade,
      handlePost plainEmit codeDigests (plainContext "provider" .provider) streamRequest
        (toolCallStream (.str "ok")) = .ok (providerHalf, reply) ∧
      handlePost plainEmit codeDigests (plainContext "requester" .requester) streamRequest reply =
        .ok (requesterHalf, sent) ∧
      ¬ HalvesAgree providerHalf requesterHalf ∧
      digestMatchGrade (some providerHalf) (some requesterHalf) = .ok grade ∧
      grade.state = .failed := by
  obtain ⟨providerHalf, reply, requesterHalf, sent, hprovider, hrequester⟩ :=
    toolCallStream_sealed codeDigests (.str "ok") (.inr rfl)
  obtain ⟨read, c, copy, copy', hread, hresponse, htidy, hneeds, hseal, hseal'⟩ :=
    @streamed_halves plainEmit codeDigests streamRequest reply sent
      (plainContext "provider" .provider) (plainContext "requester" .requester)
      (toolCallStream (.str "ok")) providerHalf requesterHalf rfl hprovider hrequester
  have hdigestible : digestible (stringifyFloats c.toJson) = true := by
    rw [← Except.ok.inj hresponse]
    decide +kernel
  have htransform : ¬ NeedsNoTransform read := by
    obtain rfl := Except.ok.inj hread
    rintro ⟨hnil | hcontent, -⟩
    · cases hnil
    · exact absurd (hcontent _ (List.mem_singleton_self _)) (by decide)
  have hsome : ∀ j, digestible (stringifyFloats j) = true →
      ∃ digest, safeDigestJson codeDigests j = some digest := by
    intro j hj
    rw [← Option.isSome_iff_exists, safeDigestJson]
    exact (codeDigest_contract.isSome _).trans hj
  obtain ⟨digest, hdigest⟩ := hsome _ hdigestible
  obtain ⟨digest', hdigest'⟩ := hsome (c.forwarded (plainContext "provider" .provider).uuids).toJson
    ((digestible_forwarded _ htidy).trans hdigestible)
  have hne : safeDigestJson codeDigests c.toJson ≠ safeDigestJson codeDigests
      (c.forwarded (plainContext "provider" .provider).uuids).toJson := by
    rw [Ne, safeDigestJson_forwarded_iff codeDigest_contract _ htidy, ← hneeds]
    rintro (hno | hnone)
    · exact htransform hno
    · rw [hdigest] at hnone
      cases hnone
  obtain ⟨grade, hgrade, hfailed⟩ := digestMatchGrade_failed plainEmit_contract hseal hseal'
    hdigest hdigest' (by rintro rfl; exact hne (hdigest.trans hdigest'.symm))
  refine ⟨providerHalf, reply, requesterHalf, sent, grade, hprovider, hrequester, ?_, hgrade,
    hfailed⟩
  intro hagree
  exact hagree.grade grade hgrade hfailed

end CapsuleMesh.Sidecar
