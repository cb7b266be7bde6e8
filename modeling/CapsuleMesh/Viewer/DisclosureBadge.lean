import CapsuleMesh.Python.Equality
import CapsuleMesh.Viewer.ResponseBody

/-!
# The badge of a disclosure

`build_conversation` and `disclosure_status` of `capsule_mesh_viewer.py`: what is disclosed of an
exchange, the check that each side was put to, and the one state that both are collapsed into.
`json_digest` and SHA-256 are parameters.
-/

namespace CapsuleMesh.Viewer

open Python

/-! ## The two sides -/

/-- The `verify` block of one side; `None` where nothing could be checked. -/
structure SideVerify where
  kind : String
  sealedDigest : Json
  computedDigest : Option String
  matches_ : Option Bool
  label : String
  construction : Option String := none
  note : Option String := none

structure ConversationSide where
  text : Json
  disclosed : Bool
  toolCallsNote : Json := .null
  verify : SideVerify

structure Conversation where
  prompt : ConversationSide
  response : ConversationSide
  disclosureStatus : Option String

/-- The digest package, where it can be imported, and SHA-256. -/
structure DigestTools where
  sha256Hex : Bytes → String
  jsonDigest : Option (Json → Option String)

/-- `computed is not None and computed == sealed`. -/
def agrees (computed : Option String) (sealedDigest : Json) : Bool :=
  match computed with
  | none => false
  | some digest => (Json.str digest).pyEq sealedDigest

/-- `_json_body_digest`. -/
def DigestTools.bodyDigest (T : DigestTools) (body : Json) : Option String :=
  if body.isNull then none else jsonBodyDigest T.jsonDigest body

def promptVerify (T : DigestTools) (requestBody requestDigest : Json) : SideVerify :=
  let computed := T.bodyDigest requestBody
  if !requestBody.isNull then
    { kind := "request_body"
      sealedDigest := requestDigest
      computedDigest := computed
      matches_ := some (agrees computed requestDigest)
      label := "request body vs sealed request_digest" }
  else
    { kind := "request_sealed"
      sealedDigest := requestDigest
      computedDigest := none
      matches_ := none
      label := "request body not held in this bundle — request_digest sealed" }

/-- The served facts of a record, as its flat provenance has them. -/
structure ServedUsage where
  model : Json
  promptTokens : Json
  completionTokens : Json
  totalTokens : Json

def ServedUsage.facts (served : ServedUsage) : Json :=
  .obj [("model", served.model), ("usage", .obj [("prompt_tokens", served.promptTokens),
    ("completion_tokens", served.completionTokens), ("total_tokens", served.totalTokens)])]

def servedFactsDigest (T : DigestTools) (served : ServedUsage) : Option String :=
  if served.model.isNull || served.promptTokens.isNull || served.completionTokens.isNull ||
      served.totalTokens.isNull then none
  else jsonBodyDigest T.jsonDigest served.facts

def responseVerify (T : DigestTools) (served : ServedUsage) (responseBody responseDigest : Json) :
    SideVerify :=
  if !responseBody.isNull then
    let check := responseBodyVerify T.sha256Hex T.jsonDigest responseBody responseDigest.str?
    { kind := check.kind
      sealedDigest := responseDigest
      computedDigest := check.computedDigest
      matches_ := some check.matches_
      label := check.label
      construction := some check.construction }
  else
    let computed := servedFactsDigest T served
    { kind := "served_facts"
      sealedDigest := responseDigest
      computedDigest := computed
      matches_ := some (agrees computed responseDigest)
      label := "served model + usage vs sealed response_digest"
      note := some ("response_digest seals the served facts (model + token usage); the text is " ++
        "the requester's held copy.") }

/-! ## The badge -/

def PRESENT_VERIFIED : String := "present (verified)"

def disclosureStatus (role : Json) (prompt response : ConversationSide) (purgedAt : Json) :
    Option String :=
  if role.pyEq (.str "provider") then some "never retained (provider role)"
  else if prompt.disclosed || response.disclosed then
    if prompt.verify.matches_ = some false ∨ response.verify.matches_ = some false then
      some "present (digest mismatch!)"
    else some PRESENT_VERIFIED
  else if purgedAt.truthy then some ("purged " ++ purgedAt.pyStr)
  else none

/-- What `build_conversation` reads of a record, of its provenance and of the disclosure. -/
structure Disclosure where
  requestDigest : Json
  responseDigest : Json
  requestText : Json
  requestBody : Json
  responseText : Json
  responseBody : Json
  toolCallsNote : Json
  served : ServedUsage
  role : Json

def readDisclosure (record sp disclosed : Json) : Py Disclosure := do
  let disclosed := disclosed.or (.obj [])
  let effect := (← record.getD "effect" (.obj [])).or (.obj [])
  return {
    requestDigest := ← effect.get "request_digest"
    responseDigest := ← effect.get "response_digest"
    requestText := ← disclosed.get "request"
    requestBody := ← disclosed.get "request_body"
    responseText := ← disclosed.get "response"
    responseBody := ← disclosed.get "response_body"
    toolCallsNote := ← disclosed.get "tool_calls_note"
    served := {
      model := ← sp.get "model"
      promptTokens := ← sp.get "prompt_tokens"
      completionTokens := ← sp.get "completion_tokens"
      totalTokens := ← sp.get "total_tokens" }
    role := ← sp.get "role" }

def Disclosure.prompt (T : DigestTools) (read : Disclosure) : ConversationSide where
  text := read.requestText
  disclosed := !read.requestText.isNull || !read.requestBody.isNull
  verify := promptVerify T read.requestBody read.requestDigest

def Disclosure.response (T : DigestTools) (read : Disclosure) : ConversationSide where
  text := read.responseText
  disclosed := !read.responseText.isNull || !read.responseBody.isNull
  toolCallsNote := read.toolCallsNote
  verify := responseVerify T read.served read.responseBody read.responseDigest

def buildConversation (T : DigestTools) (record sp disclosed purgedAt : Json) :
    Py Conversation := do
  let read ← readDisclosure record sp disclosed
  return {
    prompt := read.prompt T
    response := read.response T
    disclosureStatus := disclosureStatus read.role (read.prompt T) (read.response T) purgedAt }

/-! ## What the badge says -/

section Badge

variable {T : DigestTools}

/-- A body recomputes to a sealed digest in one of the two constructions. -/
def RecomputesTo (T : DigestTools) (body : Json) (sealedDigest : Json) : Prop :=
  ∃ digest, sealedDigest = .str digest ∧ (jsonBodyDigest T.jsonDigest body = some digest ∨
    rustPlainJcsDigest T.sha256Hex body = some digest)

/-- What is checked of a disclosure; of its texts nothing is. -/
structure Disclosure.Checked (T : DigestTools) (read : Disclosure) : Prop where
  requester : read.role ≠ .str "provider"
  something : read.requestText ≠ .null ∨ read.requestBody ≠ .null ∨ read.responseText ≠ .null ∨
    read.responseBody ≠ .null
  requestBody : read.requestBody ≠ .null → ∃ digest, read.requestDigest = .str digest ∧
    jsonBodyDigest T.jsonDigest read.requestBody = some digest
  responseBody : read.responseBody ≠ .null → RecomputesTo T read.responseBody read.responseDigest
  servedFacts : read.responseBody = .null → ∃ digest, read.responseDigest = .str digest ∧
    servedFactsDigest T read.served = some digest

theorem isNull_iff {j : Json} : j.isNull = true ↔ j = .null := by
  cases j <;> simp [Json.isNull]

theorem agrees_iff {computed : Option String} {sealedDigest : Json} :
    agrees computed sealedDigest = true ↔
      ∃ digest, sealedDigest = .str digest ∧ computed = some digest := by
  cases computed with
  | none => simp [agrees]
  | some digest =>
      constructor
      · intro h
        exact ⟨digest, Json.eq_str_of_str_pyEq h, rfl⟩
      · rintro ⟨digest', rfl, h⟩
        obtain rfl := Option.some.inj h
        exact Json.pyEq_self rfl

theorem responseBodyVerify_iff {body responseDigest : Json} :
    (responseBodyVerify T.sha256Hex T.jsonDigest body responseDigest.str?).matches_ = true ↔
      RecomputesTo T body responseDigest := by
  have hstr : ∀ {computed : Option String}, (computed ≠ none ∧ computed = responseDigest.str?) ↔
      ∃ digest, responseDigest = .str digest ∧ computed = some digest := by
    intro computed
    constructor
    · rintro ⟨hne, heq⟩
      obtain ⟨digest, hdigest⟩ := Option.ne_none_iff_exists'.mp hne
      rw [hdigest] at heq
      cases responseDigest with
      | str s =>
        obtain rfl := Option.some.inj heq
        exact ⟨digest, rfl, hdigest⟩
      | _ => cases heq
    · rintro ⟨digest, rfl, rfl⟩
      exact ⟨Option.some_ne_none _, rfl⟩
  simp only [responseBodyVerify]
  split_ifs with hstrict hplain
  · obtain ⟨digest, hdigest, hcomputed⟩ := hstr.mp hstrict
    exact iff_of_true rfl ⟨digest, hdigest, .inl hcomputed⟩
  · obtain ⟨digest, hdigest, hcomputed⟩ := hstr.mp hplain
    exact iff_of_true rfl ⟨digest, hdigest, .inr hcomputed⟩
  · refine iff_of_false not_false ?_
    rintro ⟨digest, hdigest, hcomputed | hcomputed⟩
    · exact hstrict (hstr.mpr ⟨digest, hdigest, hcomputed⟩)
    · exact hplain (hstr.mpr ⟨digest, hdigest, hcomputed⟩)

theorem promptVerify_passes_iff {requestBody requestDigest : Json} :
    (promptVerify T requestBody requestDigest).matches_ ≠ some false ↔
      (requestBody ≠ .null → ∃ digest, requestDigest = .str digest ∧
        jsonBodyDigest T.jsonDigest requestBody = some digest) := by
  by_cases hnull : requestBody = .null
  · subst hnull
    exact iff_of_true (by simp [promptVerify, Json.isNull]) fun h => absurd rfl h
  · have hbody : requestBody.isNull = false := by
      rwa [← Bool.not_eq_true, isNull_iff]
    simp only [promptVerify, DigestTools.bodyDigest, hbody, Bool.not_false, if_true,
      Bool.false_eq_true, if_false, ne_eq, Option.some.injEq, Bool.not_eq_false, agrees_iff]
    exact ⟨fun h _ => h, fun h => h hnull⟩

theorem responseVerify_passes_iff {served : ServedUsage} {responseBody responseDigest : Json} :
    (responseVerify T served responseBody responseDigest).matches_ ≠ some false ↔
      (responseBody ≠ .null → RecomputesTo T responseBody responseDigest) ∧
      (responseBody = .null → ∃ digest, responseDigest = .str digest ∧
        servedFactsDigest T served = some digest) := by
  by_cases hnull : responseBody = .null
  · subst hnull
    simp only [responseVerify, Json.isNull, Bool.not_true, Bool.false_eq_true, if_false, ne_eq,
      Option.some.injEq, Bool.not_eq_false, agrees_iff]
    exact ⟨fun h => ⟨fun hne => absurd trivial hne, fun _ => h⟩, fun h => h.2 trivial⟩
  · have hbody : responseBody.isNull = false := by
      rwa [← Bool.not_eq_true, isNull_iff]
    simp only [responseVerify, hbody, Bool.not_false, if_true, ne_eq, Option.some.injEq,
      Bool.not_eq_false, responseBodyVerify_iff]
    exact ⟨fun h => ⟨fun _ => h, fun heq => absurd heq hnull⟩, fun h => h.1 hnull⟩

/-- No tombstone reads like the badge. -/
theorem purged_ne_verified (timestamp : String) : "purged " ++ timestamp ≠ PRESENT_VERIFIED := by
  intro h
  have hchars := congrArg (fun s : String => s.toList[1]?) h
  simp [PRESENT_VERIFIED, String.toList_append] at hchars

theorem disclosureStatus_eq_verified {role purgedAt : Json} {prompt response : ConversationSide} :
    disclosureStatus role prompt response purgedAt = some PRESENT_VERIFIED ↔
      role ≠ .str "provider" ∧ (prompt.disclosed = true ∨ response.disclosed = true) ∧
        prompt.verify.matches_ ≠ some false ∧ response.verify.matches_ ≠ some false := by
  unfold disclosureStatus
  split_ifs with hprovider hsome hmismatch hpurged
  · obtain rfl := Json.eq_str_of_pyEq hprovider
    simp [PRESENT_VERIFIED]
  · simp only [Bool.or_eq_true] at hsome
    have hbadge : ("present (digest mismatch!)" : String) ≠ PRESENT_VERIFIED := by decide
    refine iff_of_false (fun h => hbadge (Option.some.inj h)) ?_
    rintro ⟨-, -, hprompt, hresponse⟩
    exact hmismatch.elim hprompt hresponse
  · simp only [Bool.or_eq_true] at hsome
    rw [not_or] at hmismatch
    refine iff_of_true rfl ⟨?_, hsome, hmismatch⟩
    rintro rfl
    exact hprovider (Json.pyEq_self rfl)
  · simp only [Bool.or_eq_true] at hsome
    exact iff_of_false (fun h => purged_ne_verified _ (Option.some.inj h)) fun h => hsome h.2.1
  · simp only [Bool.or_eq_true] at hsome
    exact iff_of_false not_false fun h => hsome h.2.1

/-- The badge is given exactly where each disclosed body recomputes to the digest of its side, and
the served facts do where no response body is disclosed. -/
theorem disclosureStatus_verified_iff (T : DigestTools) (record sp disclosed purgedAt : Json)
    (conversation : Conversation)
    (h : buildConversation T record sp disclosed purgedAt = .ok conversation) :
    conversation.disclosureStatus = some PRESENT_VERIFIED ↔
      ∃ read, readDisclosure record sp disclosed = .ok read ∧ read.Checked T := by
  obtain ⟨read, hread, h⟩ := Py.bind_eq_ok.mp h
  obtain rfl := Except.ok.inj h
  have hdisclosed : ((read.prompt T).disclosed = true ∨ (read.response T).disclosed = true) ↔
      read.requestText ≠ .null ∨ read.requestBody ≠ .null ∨ read.responseText ≠ .null ∨
        read.responseBody ≠ .null := by
    simp only [Disclosure.prompt, Disclosure.response, Bool.or_eq_true, Bool.not_eq_true',
      ← Bool.not_eq_true, isNull_iff, or_assoc, ne_eq]
  change disclosureStatus read.role (read.prompt T) (read.response T) purgedAt = _ ↔ _
  rw [disclosureStatus_eq_verified, hdisclosed]
  constructor
  · rintro ⟨hrole, hsome, hprompt, hresponse⟩
    obtain ⟨hbody, hfacts⟩ := responseVerify_passes_iff.mp hresponse
    exact ⟨read, hread, hrole, hsome, promptVerify_passes_iff.mp hprompt, hbody, hfacts⟩
  · rintro ⟨read', hread', hchecked⟩
    obtain rfl := Except.ok.inj (hread.symm.trans hread')
    exact ⟨hchecked.requester, hchecked.something, promptVerify_passes_iff.mpr hchecked.requestBody,
      responseVerify_passes_iff.mpr ⟨hchecked.responseBody, hchecked.servedFacts⟩⟩

end Badge

/-! ## Texts beside the checks -/

/-- Canonical texts for digests. -/
def plainTools : DigestTools where
  sha256Hex := hexText
  jsonDigest := some fun value => some value.canonical

def plainUsage : ServedUsage where
  model := .str "m"
  promptTokens := .int 1
  completionTokens := .int 2
  totalTokens := .int 3

/-- The provenance of a requester's record that was served so. -/
def plainProvenance : Json := .obj [("model", .str "m"), ("prompt_tokens", .int 1),
  ("completion_tokens", .int 2), ("total_tokens", .int 3), ("role", .str "requester")]

/-- A requester's record that seals the body it discloses. -/
theorem disclosed_body_verified : ∃ conversation,
    buildConversation plainTools
      (.obj [("effect", .obj [("response_digest", .str (Json.obj [("id", .int 7)]).canonical)])])
      plainProvenance (.obj [("response_body", .obj [("id", .int 7)])]) .null = .ok conversation ∧
    conversation.disclosureStatus = some PRESENT_VERIFIED := by
  obtain ⟨conversation, h⟩ : ∃ conversation, buildConversation plainTools
      (.obj [("effect", .obj [("response_digest", .str (Json.obj [("id", .int 7)]).canonical)])])
      plainProvenance (.obj [("response_body", .obj [("id", .int 7)])]) .null =
        .ok conversation := ⟨_, rfl⟩
  refine ⟨conversation, h, (disclosureStatus_verified_iff _ _ _ _ _ _ h).mpr ⟨_, rfl, ?_⟩⟩
  exact
    { requester := fun h => absurd (Json.str.inj h) (by decide)
      something := .inr (.inr (.inr Json.noConfusion))
      requestBody := fun h => absurd rfl h
      responseBody := fun _ => ⟨_, rfl, .inl rfl⟩
      servedFacts := fun h => Json.noConfusion h }

/-- A record that seals the served facts. -/
def factsRecord : Json := .obj [("effect", .obj [("response_digest",
  .str plainUsage.facts.canonical)])]

/-- What is disclosed of an answer is its text alone. -/
def bareText (text : String) : Json := .obj [("response", .str text)]

/-- A text is badged as verified when the served facts check, whatever it is. -/
theorem bare_text_verified : ∃ conversation conversation',
    buildConversation plainTools factsRecord plainProvenance (bareText "yes") .null =
      .ok conversation ∧
    buildConversation plainTools factsRecord plainProvenance (bareText "no") .null =
      .ok conversation' ∧
    conversation.disclosureStatus = some PRESENT_VERIFIED ∧
    conversation'.disclosureStatus = some PRESENT_VERIFIED ∧
    conversation.response.text = .str "yes" ∧ conversation'.response.text = .str "no" :=
  ⟨_, _, rfl, rfl, rfl, rfl, rfl, rfl⟩

end CapsuleMesh.Viewer
