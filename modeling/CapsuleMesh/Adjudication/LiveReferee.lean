import CapsuleMesh.Adjudication.Twin
import CapsuleMesh.Python.Loads
import CapsuleMesh.Python.Order

/-!
# The live referee

`live_referee.py`: the agreed prefix goes to a third node, which answers with one token; the token
is compared with those of the two halves where they diverge.  The HTTP call, the evidence door and
the difference of two logprobs are parameters.
-/

namespace CapsuleMesh.Adjudication

open Python Sidecar

def contradicted (ownerId : Json) : String := VERDICT_CONTRADICTED_PREFIX ++ ownerId.pyStr

/-- The token of the text at an index that is not negative. -/
def tokenAt (text : Json) (index : ℕ) : Py (Option String) := do
  return (← tokenize text)[index]?

namespace AdjudicationHalf

def requestBody (half : AdjudicationHalf) : Py Json := do
  return (← half.disclosed.get "request_body").or (.obj [])

end AdjudicationHalf

/-! ## The margin of the referee -/

/-- `len(x)`. -/
def lengthOf (j : Json) : Py ℕ := do
  return (← j.iter).length

/-- `x[index]` with an index that is not negative. -/
def elementAt (j : Json) (index : ℕ) : Py Json :=
  match j with
  | .arr elems => elems[index]?.elim (.error .indexError) .ok
  | .str s => s.toList[index]?.elim (.error .indexError) fun c => .ok (.str c.toString)
  | .obj _ => .error .keyError
  | _ => .error .typeError

/-- The difference of the two greatest logprobs at the index. -/
def top2LogprobMargin (difference : Json → Json → Py ℚ) (responseBody : Json) (index : ℕ) :
    Py (Option ℚ) := do
  let choices := (← responseBody.get "choices").or (.arr [])
  if !choices.truthy then return none
  else
    let logprobs ← ((← choices.first).or (.obj [])).get "logprobs"
    if !logprobs.truthy then return none
    else
      let content := (← logprobs.get "content").or (.arr [])
      if (← lengthOf content) ≤ index then return none
      else
        let topLogprobs := (← ((← elementAt content index).or (.obj [])).get "top_logprobs").or
          (.arr [])
        if (← lengthOf topLogprobs) < 2 then return none
        else
          let logprobs ← (← topLogprobs.iter).mapM (Json.item · "logprob")
          let ranked := (← sortedByKey (logprobs.map fun l => (l, ()))).reverse
          match ranked with
          | first :: second :: _ => return some (← difference first.1 second.1)
          | _ => .error .indexError

/-! ## The record of the referee -/

/-- What `read_reply` and `verified_records` make of the answer of an evidence door: each record
with its capsule id. -/
structure DoorReply where
  ok : Bool
  enveloped : Bool
  body : Json
  records : List (Json × String)

structure RefereeRecordResolution where
  status : RefereeRecordStatus
  nonce : String
  capsuleId : Option String

/-- The first record that declares the digest. -/
def citedRecord (expectedResponseDigest : String) : List (Json × String) → Py (Option String)
  | [] => .ok none
  | (receipt, capsuleId) :: records => do
      let declared ← ((← receipt.get "effect").or (.obj [])).get "response_digest"
      if declared.str? = some expectedResponseDigest then return some capsuleId
      else citedRecord expectedResponseDigest records

/-- `post` is the door with the reading of its reply; its `URLError` is an `OSError`. -/
def resolveRefereeRecord (nonce expectedResponseDigest : String)
    (post : Option (String → Py DoorReply)) : Py RefereeRecordResolution :=
  match post with
  | none => .ok ⟨.unresolved, nonce, none⟩
  | some post =>
      match post nonce with
      | .error .osError | .error .typeError | .error (.valueError _) =>
        .ok ⟨.unresolved, nonce, none⟩
      | .error e => .error e
      | .ok reply =>
        if !reply.enveloped then .ok ⟨.unresolved, nonce, none⟩
        else do
          match ← citedRecord expectedResponseDigest reply.records with
          | some capsuleId => return ⟨.resolved, nonce, some capsuleId⟩
          | none =>
            let answered := match reply.body with
              | .obj members => ((members.lookup "records").getD .null).truthy
              | _ => false
            if !reply.ok || answered then return ⟨.citationUnverified, nonce, none⟩
            else return ⟨.unresolved, nonce, none⟩

/-! ## The call -/

/-- How an evidence door is reached. -/
inductive EvidenceRoute where
  | mesh (localHostApi localPluginName targetPeerId : String)
  | http (baseUrl : String)

structure ChatRequest where
  url : String
  data : Bytes
  headers : List (String × String)

/-- The limits of the interpreter that `json.loads` may run into. -/
inductive DecoderLimit where
  | nesting
  | digits
deriving DecidableEq

/-- The exceptions there; none of them is a `JSONDecodeError`. -/
def DecoderLimit.error : DecoderLimit → PyError
  | .nesting => .recursionError
  | .digits => .valueError "Exceeds the limit (4300 digits) for integer string conversion"

/-- What lies outside of the referee call; a network failure of `post` is an `OSError`,
`decodeJson` finds the encoding of a JSON text as `json.loads` does, and `beyondLimit` is the limit
that it runs into. -/
structure RefereeNetwork where
  post : ChatRequest → Py Bytes
  door : EvidenceRoute → String → Py DoorReply
  decodeJson : Bytes → Py String
  beyondLimit : Bytes → Option DecoderLimit
  floatRepr : String → String
  difference : Json → Json → Py ℚ

structure LiveRefereeOptions where
  localApiBaseUrl : String
  targetPeerId : String
  model : String
  seed : Option Int := none
  nonce : String
  evidenceDoorBaseUrl : Option String := none
  evidenceVia : String := "http"
  localHostApi : String := "http://127.0.0.1:8080"
  localPluginName : String := "admission-policy"

def MESH_TARGET_HEADER : String := "x-mesh-target"

def CLIENT_NONCE_HEADER : String := "X-Capsule-Client-Nonce"

def refereeRequestBody (halfA : AdjudicationHalf) (divergenceIndex : ℕ) (model : String)
    (seed : Json) : Py Bytes := do
  let prefixTokens := (← tokenize (← halfA.responseText)).take divergenceIndex
  let prefixText := " ".intercalate prefixTokens
  let originalMessages ← ((← (← halfA.requestBody).get "messages").or (.arr [])).iter
  let messages :=
    if originalMessages = [] then
      [.obj [("role", .str "user"), ("content", .str prefixText)]]
    else
      originalMessages ++ [.obj [("role", .str "assistant"), ("content", .str prefixText)]]
  return utf8 (Json.obj
    [("model", .str model),
     ("messages", .arr messages),
     ("temperature", .int 0),
     ("max_tokens", .int 1),
     ("seed", seed)]).dumps

/-- `s.rstrip("/")`. -/
def rstripSlashes (s : String) : String :=
  String.ofList (s.toList.reverse.dropWhile (· = '/')).reverse

/-- `json.loads` of an answer, of whose errors only `JSONDecodeError` is turned into a
`RefereeCallError`. -/
def RefereeNetwork.loads (network : RefereeNetwork) (bytes : Bytes) : Py Json := do
  let text ← network.decodeJson bytes
  match network.beyondLimit bytes with
  | some limit => .error limit.error
  | none => (Python.loads network.floatRepr text).mapError fun _ => .runtimeError

/-- The answer of the referee node; a failed call and an answer that is no JSON text are a
`RefereeCallError`. -/
def askReferee (network : RefereeNetwork) (options : LiveRefereeOptions)
    (halfA : AdjudicationHalf) (divergenceIndex : ℕ) : Py Json := do
  let seed ←
    match options.seed with
    | some seed => pure (Json.int seed)
    | none => (halfA.decoding.or (.obj [])).getD "seed" (.int 0)
  let body ← refereeRequestBody halfA divergenceIndex options.model seed
  let responseBytes ←
    match network.post
      { url := rstripSlashes options.localApiBaseUrl ++ "/v1/chat/completions"
        data := body
        headers := [("Content-Type", "application/json"),
          (MESH_TARGET_HEADER, options.targetPeerId),
          (CLIENT_NONCE_HEADER, options.nonce)] } with
    | .error .osError => .error .runtimeError
    | response => response
  network.loads responseBytes

/-- The content of the first choice. -/
def refereeText (responseBody : Json) : Py Json := do
  let choice ← ((← responseBody.get "choices").or (.arr [.obj []])).first
  let message := (← choice.get "message").or (.obj [])
  return (← message.get "content").or (.str "")

/-- The half that the token contradicts is blamed, when it has an owner. -/
def tokenVerdict (ownerA ownerB : Json) (refereeToken tokenA tokenB : Option String) : String :=
  let matchesA := refereeToken.isSome && refereeToken = tokenA
  let matchesB := refereeToken.isSome && refereeToken = tokenB
  if matchesA && !matchesB && ownerB.truthy then contradicted ownerB
  else if matchesB && !matchesA && ownerA.truthy then contradicted ownerA
  else VERDICT_INCONCLUSIVE

/-- The transport to the evidence door, if one is configured. -/
def evidencePost (network : RefereeNetwork) (options : LiveRefereeOptions) :
    Option (String → Py DoorReply) :=
  if options.evidenceVia = "mesh" then
    some (network.door (.mesh options.localHostApi options.localPluginName options.targetPeerId))
  else
    match options.evidenceDoorBaseUrl with
    | some baseUrl => if baseUrl = "" then none else some (network.door (.http baseUrl))
    | none => none

def liveReferee (digests : Digests) (network : RefereeNetwork) (options : LiveRefereeOptions) :
    Referee := fun halfA halfB comparison =>
  match comparison.divergenceIndex with
  | none => .error (.valueError "live_referee() requires an actual divergence")
  | some divergenceIndex => do
      let responseBody ← askReferee network options halfA divergenceIndex
      let refereeToken ← tokenAt (← refereeText responseBody) 0
      let tokenA ← tokenAt (← halfA.responseText) divergenceIndex
      let tokenB ← tokenAt (← halfB.responseText) divergenceIndex
      let verdict := tokenVerdict halfA.ownerId halfB.ownerId refereeToken tokenA tokenB
      let margin ← top2LogprobMargin network.difference responseBody 0
      let digest ← digestJson digests responseBody
      let record ← resolveRefereeRecord options.nonce digest (evidencePost network options)
      return {
        verdict := verdict
        margin := margin.getD 0
        logprobsAbsent := margin.isNone
        capsuleId := record.capsuleId
        refereeRecordStatus := record.status
        refereeRecordNonce := some options.nonce
        identity := some ⟨options.targetPeerId, record.capsuleId, none⟩ }

end CapsuleMesh.Adjudication
