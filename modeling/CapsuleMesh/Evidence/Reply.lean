import CapsuleMesh.Evidence.Inclusion
import CapsuleMesh.Evidence.Responder

/-!
# Reading a reply

The requester's side of an evidence exchange, `ask_history.py`: what `read_reply` makes of the octets
that came back, and the checks that every form of answer shares.
-/

namespace CapsuleMesh.AskHistory

open Python Evidence

/-! ## What a reply is made of -/

inductive Coverage where
  | expectedPin (pin : String)
  | minSize (leaves : ℕ)
  | minTime (at_ : String)

/-- A parsed request, as far as the answer is compared with it. -/
structure Asked where
  subject : Subject
  derivation : Option String
  coverage : Coverage

def Asked.pin (asked : Asked) : Option String :=
  match asked.coverage with
  | .expectedPin pin => some pin
  | _ => none

structure Envelope where
  profile : String
  requestDigest : String
  responder : String
  subject : Subject
  derivation : Option String
  artifact : Bytes
  artifactDigest : String
  anchorDigest : String
  freshness : Json
  verification : List (String × Bytes)

structure Refusal where
  requestDigest : String
  keyId : String
  reason : String

structure CheckpointRecord where
  mmrSize : ℕ
  prevSize : ℕ
  root : String
  prevRoot : String
  logId : String
  timestamp : String
deriving DecidableEq

structure WitnessRecord where
  tsUrl : String
  entryHash : String
  receiptB64 : String
  leafIndex : ℕ
  treeSize : ℕ
  isStub : Bool
deriving DecidableEq

/-- A peak in a decoded statement: its bytes, or their hex. -/
inductive PeakHash where
  | hex (text : String)
  | raw (bytes : Bytes)

/-- What a checkpoint statement that verifies decodes to. -/
structure Decoded where
  record : CheckpointRecord
  newPeakHashes : List PeakHash
  prevPeakHashes : List PeakHash
  keyId : String

inductive StampVerdict where
  | witnessed
  | unverified
  | invalid
deriving DecidableEq

/-- The profile's `anchor_inclusion`. -/
structure CllCheck where
  status : String
  detail : String

/-- The packages that the requester calls.  `jcs` is the canonical JSON of RFC 8785, where there is
one, and `decodeJson` finds the encoding of a JSON text as `json.loads` does.  `parseReply` raises
its own error only: it is taken never to meet the recursion limit. -/
structure EvidenceTools where
  proof : ProofTools
  parseReply : Bytes → Except String (Refusal ⊕ Envelope)
  parseRequest : Json → Except String Asked
  verifyRefusal : Refusal → Bool
  refusalConformant : Refusal → Bool
  verifyEnvelope : Envelope → Except String Unit
  profile : String
  checkCllMaterial : Envelope → CllCheck
  isDigest : Json → Bool
  verifyCheckpoint : Bytes → Option Decoded
  leafCount : ℕ → Option ℕ
  defaultTsUrl : String
  defaultTsKey : Bytes
  stamp : CheckpointRecord → WitnessRecord → Option Bytes → StampVerdict
  verifyConsistency : List Bytes → List Bytes → Bytes → Except String Unit
  consistencySizes : Bytes → Option (ℕ × ℕ)
  parseUtc : String → Option ℕ
  decodeJson : Bytes → Py String
  floatRepr : String → String
  localOnlyFields : List String
  jcs : Json → Option Bytes

def EvidenceTools.sha256Hex (T : EvidenceTools) (bytes : Bytes) : String :=
  hexText (T.proof.sha256 bytes)

/-- `json.loads` of bytes. -/
def EvidenceTools.jsonLoads (T : EvidenceTools) (raw : Bytes) : Py Json := do
  loads T.floatRepr (← T.decodeJson raw)

def defaultWitnessPin (T : EvidenceTools) (tsUrl : String) : Option Bytes :=
  if tsUrl = T.defaultTsUrl then some T.defaultTsKey else none

structure Exchange where
  requestDigest : String
  reply : Bytes
  request : Option Json

structure Reply where
  ok : Bool
  errors : List String
  envelope : Option Envelope := none
  refusal : Option Refusal := none
  body : Json := .null
  cll : Option CllCheck := none
  witnessReceipts : List (String × WitnessRecord) := []
  request : Option Asked := none

def MAX_ITEMS : ℕ := 10000

def WITNESS_RECEIPTS : String := "witness_receipts"

/-! ## Receipts beside the envelope -/

/-- A size of a witness record: an integer, not a truth value, in 64 bits. -/
def sizeOf? (j : Json) : Option ℕ :=
  match j with
  | .int n => if 0 ≤ n ∧ n < 2 ^ 64 then some n.toNat else none
  | _ => none

/-- `_well_typed`, with the record that `from_dict` reads. -/
def wellTyped (witness : Json) : Option WitnessRecord :=
  match witness with
  | .obj members => do
      let tsUrl ← (members.lookup "ts_url").bind Json.str?
      let entryHash ← (members.lookup "entry_hash").bind Json.str?
      let receiptB64 ← (members.lookup "receipt_b64").bind Json.str?
      let leafIndex ← (members.lookup "leaf_index").bind sizeOf?
      let treeSize ← (members.lookup "tree_size").bind sizeOf?
      match (members.lookup "is_stub").getD (.bool false) with
      | .bool isStub => some ⟨tsUrl, entryHash, receiptB64, leafIndex, treeSize, isStub⟩
      | _ => none
  | _ => none

def witnessReceipt (T : EvidenceTools) (item : Json) : Option (String × WitnessRecord) :=
  match item with
  | .obj members => do
      let checkpoint := (members.lookup "checkpoint").getD .null
      let witness ← wellTyped ((members.lookup "witness").getD .null)
      if T.isDigest checkpoint then checkpoint.str?.map fun digest => (digest, witness) else none
  | _ => none

def witnessReceipts (T : EvidenceTools) (raw : Bytes) :
    List (String × WitnessRecord) × List String :=
  match T.jsonLoads raw with
  | .ok (.obj members) =>
      match members.lookup WITNESS_RECEIPTS with
      | none => ([], [])
      | some (.arr carried) =>
        if MAX_ITEMS < carried.length then
          ([], ["witness_receipts is not a list of at most 10000 receipts"])
        else
          match carried.mapM (witnessReceipt T) with
          | some receipts => (receipts, [])
          | none => ([], ["a witness receipt is malformed"])
      | some _ => ([], ["witness_receipts is not a list of at most 10000 receipts"])
  | _ => ([], [])

/-! ## `read_reply` -/

def when (c : Bool) (problem : String) : List String := if c then [problem] else []

/-- The request that was asked, and the problem with it. -/
def readRequest (T : EvidenceTools) (exchange : Exchange) : Option Asked × List String :=
  match exchange.request with
  | none => (none, [])
  | some request =>
      match T.parseRequest request with
      | .ok asked => (some asked, [])
      | .error exc => (none, ["the request asked is not well formed: " ++ exc])

def refusalErrors (T : EvidenceTools) (exchange : Exchange) (responderKey : Option String)
    (refusal : Refusal) : List String :=
  (if !T.verifyRefusal refusal then ["the refusal's signature does not verify"]
    else when (!T.refusalConformant refusal)
      ("the refusal is signed but not conformant (reason " ++ pyRepr refusal.reason ++ ")")) ++
  when (decide (refusal.requestDigest ≠ exchange.requestDigest)) "the refusal answers another request" ++
  when (responderKey.any fun key => decide (refusal.keyId ≠ key))
    "the refusal is signed by another key than the responder's"

/-- The answer is for what was asked. -/
def answersAsked (asked : Asked) (envelope : Envelope) : Bool :=
  decide (envelope.subject = asked.subject) && decide (envelope.derivation = asked.derivation)

def cllOf (T : EvidenceTools) (envelope : Envelope) : Option CllCheck :=
  if !envelope.verification.isEmpty && decide (envelope.verification.length ≤ MAX_ITEMS + 2) then
    some (T.checkCllMaterial envelope)
  else none

def envelopeErrors (T : EvidenceTools) (exchange : Exchange) (responderKey : Option String)
    (asked : Option Asked) (envelope : Envelope) : List String :=
  (match T.verifyEnvelope envelope with
    | .ok _ => []
    | .error exc => ["envelope: " ++ exc]) ++
  when (decide (envelope.profile ≠ T.profile))
    ("envelope profile is " ++ pyRepr envelope.profile ++ ", not " ++ T.profile) ++
  when (decide (envelope.requestDigest ≠ exchange.requestDigest))
    "the envelope answers another request" ++
  when (responderKey.any fun key => decide (envelope.responder ≠ key))
    "the envelope is signed by another key than the responder's" ++
  when (asked.any fun asked => !answersAsked asked envelope)
    "the answer is not for the requested subject or derivation" ++
  when (decide (MAX_ITEMS + 2 < envelope.verification.length)) "the answer carries too much material" ++
  (match (cllOf T envelope).filter fun cll => cll.status = "FAIL" with
    | some cll => ["anchor inclusion fails: " ++ cll.detail]
    | none => []) ++
  (witnessReceipts T exchange.reply).2

/-- `read_reply`, of a reply that does not nest too deep for `json.loads`. -/
def readReply (T : EvidenceTools) (exchange : Exchange) (responderKey : Option String) : Reply :=
  match T.parseReply exchange.reply with
  | .error exc => { ok := false, errors := ["not a reply: " ++ exc] }
  | .ok (.inl refusal) =>
      let (asked, problems) := readRequest T exchange
      let errors := problems ++ refusalErrors T exchange responderKey refusal
      { ok := errors.isEmpty, errors := errors, refusal := some refusal, request := asked }
  | .ok (.inr envelope) =>
      let (asked, problems) := readRequest T exchange
      let errors := problems ++ envelopeErrors T exchange responderKey asked envelope
      { ok := errors.isEmpty
        errors := errors
        envelope := some envelope
        body := (T.jsonLoads envelope.artifact).toOption.getD .null
        cll := cllOf T envelope
        witnessReceipts := (witnessReceipts T exchange.reply).1
        request := asked }

/-- `json.loads` gives up on the octets of an envelope, or on its artifact. -/
def EvidenceTools.givesUp (T : EvidenceTools) (tooDeep : Bytes → Bool) (raw : Bytes) : Bool :=
  match T.parseReply raw with
  | .ok (.inr envelope) => tooDeep raw || tooDeep envelope.artifact
  | _ => false

/-- `read_reply`, where a text may be too deep: a `RecursionError` is not caught. -/
def readReplyDeep (T : EvidenceTools) (tooDeep : Bytes → Bool) (exchange : Exchange)
    (responderKey : Option String) : Py Reply :=
  if T.givesUp tooDeep exchange.reply then .error .recursionError
  else .ok (readReply T exchange responderKey)

/-! ## Checkpoints an answer carries -/

structure CarriedCheckpoint where
  digest : String
  statement : Bytes
  record : CheckpointRecord
  peaks : List Bytes
  prevPeaks : List Bytes
  covered : ℕ
  coveredBefore : ℕ
  witnesses : List WitnessRecord := []

/-- What an inclusion proof is checked against. -/
def CarriedCheckpoint.served (cp : CarriedCheckpoint) : ServedCheckpoint :=
  ⟨cp.record.mmrSize, cp.peaks, cp.covered⟩

def PeakHash.bytes : PeakHash → Py Bytes
  | .hex text => bytesFromHex text
  | .raw bytes => .ok bytes

/-- `_served_checkpoint`, with the key that signed the statement. -/
def servedCheckpoint (T : EvidenceTools) (statement : Bytes) :
    Py (Option (CarriedCheckpoint × String)) := do
  match T.verifyCheckpoint statement with
  | none => return none
  | some decoded =>
      match T.leafCount decoded.record.mmrSize, T.leafCount decoded.record.prevSize with
      | some covered, some coveredBefore =>
        let peaks ← decoded.newPeakHashes.mapM PeakHash.bytes
        let prevPeaks ← decoded.prevPeakHashes.mapM PeakHash.bytes
        return some (
          { digest := T.sha256Hex statement, statement := statement, record := decoded.record,
            peaks := peaks, prevPeaks := prevPeaks, covered := covered,
            coveredBefore := coveredBefore },
          decoded.keyId)
      | _, _ => return none

/-- `_stated`: the statement verifies and is the responder's. -/
def stated (T : EvidenceTools) (statement : Bytes) (envelope : Envelope) :
    Py (Option CarriedCheckpoint) := do
  return (← servedCheckpoint T statement).bind fun served =>
    if served.2 = envelope.responder then some served.1 else none

/-- The problem with one receipt. -/
def receiptProblem (T : EvidenceTools) (carried : List CarriedCheckpoint)
    (receipt : String × WitnessRecord) : Option String :=
  match carried.reverse.find? fun cp => cp.digest = receipt.1 with
  | none => some "a witness receipt names a checkpoint the answer does not carry"
  | some cp =>
      if !receipt.2.isStub &&
          T.stamp cp.record receipt.2 (defaultWitnessPin T receipt.2.tsUrl) = .invalid then
        some "a witness receipt does not cover the checkpoint it is carried on"
      else none

/-- `_check_receipts`, up to attaching the receipts. -/
def checkReceipts (T : EvidenceTools) (reply : Reply) (carried : List CarriedCheckpoint) :
    List String :=
  ((reply.witnessReceipts.findSome? (receiptProblem T carried)).map fun problem ↦ [problem]).getD []

/-- A checkpoint with the receipts that the reply carries for it. -/
def CarriedCheckpoint.attach (reply : Reply) (cp : CarriedCheckpoint) : CarriedCheckpoint :=
  { cp with witnesses := (reply.witnessReceipts.filter fun r => r.1 = cp.digest).map Prod.snd }

/-! ## Coverage -/

/-- `timestamp.split(".")[0].rstrip("Z") + "Z"`. -/
def toTheSecond (timestamp : String) : String :=
  String.ofList (((timestamp.toList.takeWhile (· ≠ '.')).reverse.dropWhile (· = 'Z')).reverse ++ ['Z'])

def freshnessProblem (T : EvidenceTools) (envelope : Envelope) (anchor : CarriedCheckpoint)
    (coverage : Coverage) : Option String :=
  match coverage with
  | .expectedPin pin =>
      if envelope.anchorDigest ≠ pin ∨ !envelope.freshness.isNull then
        some "the anchor is not the pinned one"
      else none
  | .minSize leaves =>
      if !envelope.freshness.pyEq (.int anchor.record.mmrSize) ∨ anchor.covered < leaves then
        some "the anchor is not as fresh as asked"
      else none
  | .minTime least =>
      let at_ := toTheSecond anchor.record.timestamp
      let freshEnough := match T.parseUtc at_, T.parseUtc least with
        | some made, some least => decide (least ≤ made)
        | _, _ => false
      if !envelope.freshness.pyEq (.str at_) ∨ !freshEnough then
        some "the anchor is not as fresh as asked"
      else none

/-- An `exchange` that is pinned by the requester's own half. -/
def halfPin (asked : Asked) : Bool :=
  match asked.subject, asked.pin with
  | .exchange half, some pin => decide (half = pin)
  | _, _ => false

def checkCoverage (T : EvidenceTools) (request : Option Asked) (envelope : Envelope)
    (anchor : CarriedCheckpoint) (leaves : List ℕ) : List String :=
  if !request.any halfPin && decide (envelope.anchorDigest ≠ anchor.digest) then
    ["the envelope names another anchor than its checkpoint"]
  else
    match request with
    | none => []
    | some asked =>
        match freshnessProblem T envelope anchor asked.coverage with
        | some problem => [problem]
        | none =>
          when (halfPin asked && leaves.all fun leaf => decide (leaf < anchor.coveredBefore))
            "the anchor is not the earliest covering the records"

end CapsuleMesh.AskHistory
