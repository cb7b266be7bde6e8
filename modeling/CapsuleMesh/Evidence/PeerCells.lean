import CapsuleMesh.Evidence.AskedFor
import CapsuleMesh.Evidence.Chains
import CapsuleMesh.Evidence.References

/-!
# Filling the cells of a peer

`peer_evidence_client.py`.  Three requests go to the door of a peer, and each reply fills one cell.  The
third is caught whatever it raises; the other two catch what the transport raises, and the reply reader
catches that a text is no JSON, but not that its nesting is too deep for the decoder.
-/

namespace CapsuleMesh.PeerEvidenceClient

open Python Evidence AskHistory

/-! ## The client -/

/-- What comes back from one request: octets, an `OSError` (of which `URLError` and `TimeoutError` are)
or another exception of the HTTP client, such as that for a body which ends early. -/
inductive Received where
  | octets (reply : Bytes)
  | osError (className : String)
  | raised (e : PyError) (other : e ≠ .osError)

/-- The packages under the client; `tooDeep` is where `json.loads` raises `RecursionError`. -/
structure ClientTools where
  evidence : EvidenceTools
  history : History.Library
  requestDigest : Json → String
  recordDict : CarriedCheckpoint → List (String × Json)
  keyIdOf : CarriedCheckpoint → Option String
  tooDeep : Bytes → Bool
  excName : PyError → String
  excText : PyError → String

/-- What the peer and the references do with the requests, in the order they are made. -/
structure Peer where
  servedSummary : Received
  history : Received
  checkpoints : Received
  records : Json → Received
  references : ℕ → Posted

def buildRequest (subject : Subject) (expectedPin : Option String) (minFreshness : Option Json)
    (derivation nonce : Option String) : Py Json :=
  if expectedPin.isSome ∧ minFreshness.isSome then
    .error (.valueError "coverage is expected_pin or min_freshness, not both")
  else
    let coverage := match expectedPin with
      | some pin => ("expected_pin", Json.str pin)
      | none => ("min_freshness", (minFreshness.filter Json.truthy).getD (.int 0))
    .ok (.obj ([("subject", subject.toWire), ("coverage", .obj [coverage])] ++
      (derivation.map fun text => ("derivation", Json.str text)).toList ++
      (nonce.map fun text => ("nonce", Json.str text)).toList))

abbrev Cell := List (String × Json)

/-- A request as the send log has it. -/
structure Sending where
  ts : String
  peerId : String
  derivation : String
  timeoutSeconds : Int

/-- The cell, and the entry that is appended to the send log. -/
structure Fetched where
  cell : Cell
  entry : List (String × Json)

def Sending.entry (sending : Sending) (status : String) (reason : Option String) :
    List (String × Json) :=
  [("ts", .str sending.ts), ("peer_id", .str sending.peerId), ("derivation", .str sending.derivation),
    ("transport", .str "http"), ("timeout_seconds", .int sending.timeoutSeconds),
    ("status", .str status)] ++ (reason.map fun text => ("reason", Json.str text)).toList

def Sending.noAnswer (sending : Sending) (className : String) : Fetched where
  cell :=
    [("status", .str "no_answer"), ("transport", .str "http"),
      ("timeout_seconds", .int sending.timeoutSeconds),
      ("reason", .str ("unreachable: " ++ className))]
  entry := sending.entry "no_answer" (some ("unreachable: " ++ className))

def Sending.refused (sending : Sending) (refusal : Refusal) (signed : Bool) : Fetched where
  cell := [("status", .str "refused"), ("reason", .str refusal.reason), ("signed", .bool signed)]
  entry := sending.entry "refused" (some refusal.reason)

def Sending.failed (sending : Sending) (reason : String) : Fetched where
  cell := [("status", .str "failed"), ("reason", .str reason)]
  entry := sending.entry "failed" (some reason)

def Sending.verified (sending : Sending) (found : List (String × Json)) : Fetched where
  cell := ("status", .str "verified") :: found
  entry := sending.entry "verified" none

def _SERVED_SUMMARY_SCHEMA : String := "mesh-served-summary/1"

def _SERVED_SUMMARY_DERIVATION : String := "served_summary/1"

def DEFAULT_PULL_RECORDS : ℕ := 200

/-- `sorted` of the keys that a served summary has to have. -/
def requiredKeys : List String := ["n_completed", "n_failed", "n_served", "witness_bounded"]

section

variable (P : ClientTools)

/-- `_ask`, where this came back. -/
def ask (received : Received) (requestMap : Json) : Py Reply :=
  match received with
  | .octets raw =>
      readReplyDeep P.evidence P.tooDeep ⟨P.requestDigest requestMap, raw, some requestMap⟩ none
  | .osError _ => .error .osError
  | .raised e _ => .error e

def Received.className : Received → String
  | .osError className => className
  | _ => "OSError"

/-- What the two fetches of a signed artifact share; `judge` takes an answer that verifies. -/
def fetchFrom (received : Received) (requestMap : Json) (sending : Sending)
    (judge : Reply → Py Fetched) : Py Fetched :=
  match ask P received requestMap with
  | .error .osError => .ok (sending.noAnswer received.className)
  | .error e => .error e
  | .ok reply =>
      match reply.refusal with
      | some refusal => .ok (sending.refused refusal reply.ok)
      | none =>
        if !reply.ok then
          .ok (sending.failed ("reply does not verify: " ++ "; ".intercalate reply.errors))
        else judge reply

/-! ## The served summary -/

/-- What is wrong with the summary, or the cell's fields. -/
def checkServedSummary (body : Json) (timeoutSeconds : Int) :
    Except String (List (String × Json)) :=
  match body.get "served_summary" with
  | .ok (.obj summary) =>
      let schema := (summary.lookup "schema").getD .null
      let missing := requiredKeys.filter fun key => (summary.lookup key).isNone
      if !schema.pyEq (.str _SERVED_SUMMARY_SCHEMA) then
        .error ("schema mismatch: got " ++ schema.pyRepr)
      else if !missing.isEmpty then
        .error ("served_summary missing required keys: " ++ (Json.arr (missing.map .str)).pyRepr)
      else
        .ok
          [("served_summary", .obj summary), ("schema", schema),
            ("timeout_seconds", .int timeoutSeconds),
            ("verification_note", .str ("signed envelope verified; structural shape verified " ++
              "(schema tag + required fields present); recompute+match requires peer raw capsule " ++
              "records (out-of-scope)"))]
  | _ => .error "no served_summary in response"

/-- The summary of an answer that verifies. -/
def judgeServedSummary (sending : Sending) (reply : Reply) : Fetched :=
  match checkServedSummary reply.body sending.timeoutSeconds with
  | .error reason => sending.failed reason
  | .ok found => sending.verified found

def fetchServedSummary (received : Received) (sending : Sending) : Py Fetched := do
  let requestMap ← buildRequest .fullHistory none none (some _SERVED_SUMMARY_DERIVATION) none
  fetchFrom P received requestMap sending fun reply => .ok (judgeServedSummary sending reply)

/-! ## The history -/

/-- `line`, as the history card reads it. -/
def historyLine (cp : CarriedCheckpoint) : History.CheckpointLine where
  mmrSize := cp.record.mmrSize
  root := cp.record.root
  prevSize := cp.record.prevSize
  prevRoot := cp.record.prevRoot
  timestamp := cp.record.timestamp
  logId := cp.record.logId
  keyId := P.keyIdOf cp
  witnesses := cp.witnesses.map fun w => ⟨w.tsUrl, w.isStub⟩
  checkpointCose := some (hexText cp.statement)

def lineValue (cp : CarriedCheckpoint) : Json :=
  .obj (P.recordDict cp ++ [("checkpoint_cose", .str (hexText cp.statement))])

/-- The card of the checkpoints that were listed. -/
def historyCard (peerId : String) (body : List (String × Json)) (lines : List CarriedCheckpoint) :
    Py History.HistoryCard :=
  History.buildHistoryCard P.history (.str peerId)
    (.str ((body.lookup "evidence_stream").getD (.str "")).pyStr) (lines.map (historyLine P)) 0

def historySummary (card : History.HistoryCard) (reply : Reply) (lines : List CarriedCheckpoint) :
    Json :=
  .obj
    [("checkpoint_count", .int card.checkpointCount), ("witnessed", .bool card.witnessed),
      ("continuity", .str card.properties.continuity), ("unforked", .bool card.properties.unforked),
      ("latest_checkpoint", (lines.getLast?.map (lineValue P)).getD .null),
      ("anchor", ((reply.envelope.map fun envelope => .str envelope.anchorDigest)).getD .null)]

/-- The card of the lines, once it is there. -/
def judgeCard (sending : Sending) (reply : Reply) (lines : List CarriedCheckpoint)
    (card : History.HistoryCard) : Fetched :=
  if card.properties.continuity ≠ "unbroken" ∨ card.properties.unforked = false then
    sending.failed ("the peer's checkpoint chain does not verify: " ++ card.properties.continuity)
  else
    sending.verified [("history_summary", historySummary P card reply lines),
      ("timeout_seconds", .int sending.timeoutSeconds)]

def NO_FOLD : String := "the checkpoint lines do not fold into a history card: "

/-- `fetch_peer_history`, with an answer that is no refusal and verifies. -/
def foldCheckpoints (sending : Sending) (reply : Reply) : Py Fetched := do
  let (lines, problems) ← answerCheckpoints P.evidence reply
  if !problems.isEmpty then return sending.failed ("; ".intercalate problems)
  else
    match historyCard P sending.peerId (bodyMembers reply) lines with
    | .ok card => return judgeCard P sending reply lines card
    | .error .keyError => return sending.failed (NO_FOLD ++ P.excText .keyError)
    | .error .typeError => return sending.failed (NO_FOLD ++ P.excText .typeError)
    | .error (.valueError text) => return sending.failed (NO_FOLD ++ text)
    | .error e => .error e

def fetchPeerHistory (received : Received) (sending : Sending) : Py Fetched := do
  let requestMap ← buildRequest .checkpoints none none none none
  fetchFrom P received requestMap sending (foldCheckpoints P sending)

/-! ## The verdicts about the peer -/

/-- `_x_checkpoints`. -/
def xCheckpoints (received : Received) : Py (List CarriedCheckpoint) := do
  let reply ← ask P received (← buildRequest .checkpoints none none none none)
  if reply.refusal.isSome then .error .runtimeError
  else
    let (lines, problems) ← answerCheckpoints P.evidence reply
    if (reply.errors ++ problems).isEmpty then return lines else .error .runtimeError

/-- `_recent_records_request`. -/
def recentRecordsRequest (lines : List CarriedCheckpoint) : Py Json :=
  let seeded := witnessedSeed P.evidence (lines.map CarriedCheckpoint.receipted)
  match (lines.find? fun line ↦ seeded.any fun seed ↦ decide (line.record.mmrSize = seed.mmrSize)).or
      lines.getLast? with
  | none => .error .indexError
  | some line => do
      let size ← leafCountOf P.evidence line.record.mmrSize
      if size = 0 then .error .runtimeError
      else
        buildRequest (.range (size - DEFAULT_PULL_RECORDS) (size - 1))
          (some (P.evidence.sha256Hex line.statement)) none none none

/-- A reference whose reply is too deep to read raises when it is read. -/
def readable (posted : Posted) : Posted :=
  match posted with
  | .exchanged exchange =>
      match readReplyDeep P.evidence P.tooDeep exchange none with
      | .ok _ => .exchanged exchange
      | .error e => .raised e
  | posted => posted

/-- `run_references`, from the request for the checkpoints of the node on. -/
def runAboutPeer (peer : Peer) (peerId : String) (peerMap : List (String × String)) (k : Int) :
    Py ReferencesResult := do
  let chain ← xCheckpoints P peer.checkpoints
  let requestMap ← recentRecordsRequest P chain
  let xReply ← ask P (peer.records requestMap) requestMap
  runReferences P.evidence peerId peerMap (fun i => readable P (peer.references i)) chain xReply k

def selectionValue (selection : Selection) : Json :=
  .obj ([("k", .int selection.k), ("candidates_digest", .str selection.candidatesDigest)] ++
    (match selection.seed with
      | none =>
        [("method", .str "not_sampled"),
          ("reason", .str "no witnessed checkpoint in the pulled records to seed from")]
      | some seed =>
        [("method", .str "seeded"),
          ("seed", .obj [("source", .str "witnessed_checkpoint"), ("root", .str seed.root),
            ("log_id", .str seed.logId), ("mmr_size", .int seed.mmrSize),
            ("ts_url", .str seed.tsUrl)])]))

def fetchVerdictsAboutPeer (peer : Peer) (sending : Sending) (peerMap : List (String × String))
    (k : Int) : Fetched :=
  match runAboutPeer P peer sending.peerId peerMap k with
  | .error .runtimeError => sending.failed (P.excText .runtimeError)
  | .error .recursionError => sending.failed (P.excText .recursionError)
  | .error .osError => sending.noAnswer (P.excName .osError)
  | .error e => sending.failed ("unexpected error: " ++ P.excName e ++ ": " ++ P.excText e)
  | .ok result =>
      sending.verified
        [("tally", .obj [("corroborated", .int result.tally.corroborated),
            ("contradicted", .int result.tally.contradicted),
            ("inconclusive", .int result.tally.inconclusive)]),
          ("ack_refusals", .int result.tally.ackRefusals),
          ("references_asked", .int result.referencesAsked),
          ("references_answered", .int result.referencesAnswered),
          ("candidates_discovered", .int result.candidatesDiscovered),
          ("unreachable_references", .arr (result.unreachableReferences.map .str)),
          ("selection", selectionValue result.selection)]

/-! ## All cells -/

structure PeerFetchResult where
  served : Option Cell := none
  history : Option Cell := none
  verdicts : Option Cell := none

def disabled : Cell := [("status", .str "no_answer"), ("reason", .str "peer_fetch_disabled")]

/-- The options of `fetch_all_peer_cells`, and the times at which it sends. -/
structure FetchOptions where
  enabled : Bool := true
  timeoutSeconds : Int := 10
  peerMap : List (String × String) := []
  fetchVerdicts : Bool := true
  servedAt : String
  historyAt : String
  verdictsAt : String

def FetchOptions.sending (options : FetchOptions) (peerId ts derivation : String) : Sending where
  ts := ts
  peerId := peerId
  derivation := derivation
  timeoutSeconds := options.timeoutSeconds

def fetchAllPeerCells (peer : Peer) (peerId : String) (options : FetchOptions) :
    Py PeerFetchResult :=
  if !options.enabled then .ok ⟨some disabled, some disabled, some disabled⟩
  else do
    let served ← fetchServedSummary P peer.servedSummary
      (options.sending peerId options.servedAt _SERVED_SUMMARY_DERIVATION)
    let history ← fetchPeerHistory P peer.history (options.sending peerId options.historyAt "checkpoints")
    let verdicts :=
      if options.fetchVerdicts && decide (peerId ≠ "unknown") then
        some (fetchVerdictsAboutPeer P peer (options.sending peerId options.verdictsAt "references")
          options.peerMap 3).cell
      else none
    return ⟨some served.cell, some history.cell, verdicts⟩

end

/-! ## What a cell says -/

def CELL_STATUSES : List String := ["verified", "refused", "no_answer", "failed"]

def HasStatus (cell : Cell) : Prop :=
  ∃ status ∈ CELL_STATUSES, cell.lookup "status" = some (.str status)

/-- A cell with one of the statuses, and the send log with the same. -/
structure Told (fetched : Fetched) : Prop where
  status : HasStatus fetched.cell
  logged : fetched.entry.lookup "status" = fetched.cell.lookup "status"

section

variable (sending : Sending)

theorem told_noAnswer (className : String) : Told (sending.noAnswer className) where
  status := ⟨"no_answer", by decide, rfl⟩
  logged := rfl

theorem told_refused (refusal : Refusal) (signed : Bool) : Told (sending.refused refusal signed) where
  status := ⟨"refused", by decide, rfl⟩
  logged := rfl

theorem told_failed (reason : String) : Told (sending.failed reason) where
  status := ⟨"failed", by decide, rfl⟩
  logged := rfl

theorem told_verified (found : List (String × Json)) : Told (sending.verified found) where
  status := ⟨"verified", by decide, rfl⟩
  logged := rfl

end

/-- A cell that is verified. -/
def Verified (cell : Cell) : Prop := cell.lookup "status" = some (.str "verified")

theorem not_verified_of_status {cell : Cell} {status : String}
    (h : cell.lookup "status" = some (.str status)) (hne : status ≠ "verified") : ¬Verified cell := by
  intro hverified
  apply hne
  exact Json.str.inj (Option.some.inj (h.symm.trans hverified))

theorem not_verified_noAnswer (sending : Sending) (className : String) :
    ¬Verified (sending.noAnswer className).cell := by
  apply not_verified_of_status rfl
  decide

theorem not_verified_refused (sending : Sending) (refusal : Refusal) (signed : Bool) :
    ¬Verified (sending.refused refusal signed).cell := by
  apply not_verified_of_status rfl
  decide

theorem not_verified_failed (sending : Sending) (reason : String) :
    ¬Verified (sending.failed reason).cell := by
  apply not_verified_of_status rfl
  decide

/-! ## What can be read -/

section

variable {P : ClientTools}

/-- The transport ends in octets or an `OSError`, and an envelope and its artifact are not too deep. -/
def Received.Readable (P : ClientTools) : Received → Prop
  | .octets raw => ∀ envelope, P.evidence.parseReply raw = .ok (.inr envelope) →
      P.tooDeep raw = false ∧ P.tooDeep envelope.artifact = false
  | .osError _ => True
  | .raised _ _ => False

theorem not_readable_of_deep {raw : Bytes} {envelope : Envelope}
    (hparse : P.evidence.parseReply raw = .ok (.inr envelope))
    (hdeep : P.tooDeep envelope.artifact = true) : ¬(Received.octets raw).Readable P := by
  intro h
  cases hdeep.symm.trans (h envelope hparse).2

theorem readable_iff_givesUp {raw : Bytes} :
    (Received.octets raw).Readable P ↔ P.evidence.givesUp P.tooDeep raw = false := by
  rw [Received.Readable, EvidenceTools.givesUp]
  split
  next envelope hparse =>
      rw [Bool.or_eq_false_iff, hparse]
      constructor
      · exact fun h => h envelope rfl
      · intro h other hother
        obtain rfl := Sum.inr.inj (Except.ok.inj hother)
        exact h
  next hnone => exact iff_of_true (fun envelope hparse => absurd hparse (hnone envelope)) rfl

theorem readReplyDeep_of_readable {exchange : Exchange}
    (h : (Received.octets exchange.reply).Readable P) :
    readReplyDeep P.evidence P.tooDeep exchange none = .ok (readReply P.evidence exchange none) := by
  rw [readReplyDeep, readable_iff_givesUp.mp h, if_neg Bool.false_ne_true]

theorem readReplyDeep_of_not_readable {exchange : Exchange}
    (h : ¬(Received.octets exchange.reply).Readable P) :
    readReplyDeep P.evidence P.tooDeep exchange none = .error .recursionError := by
  rw [readable_iff_givesUp, Bool.not_eq_false] at h
  rw [readReplyDeep, h, if_pos rfl]

/-- What asking comes to. -/
theorem ask_cases (P : ClientTools) (received : Received) (requestMap : Json) :
    (received.Readable P ∧ ∃ raw, received = .octets raw ∧ ask P received requestMap =
      .ok (readReply P.evidence ⟨P.requestDigest requestMap, raw, some requestMap⟩ none)) ∨
    (received.Readable P ∧ ask P received requestMap = .error .osError) ∨
    (¬received.Readable P ∧ ∃ e, e ≠ .osError ∧ ask P received requestMap = .error e) := by
  cases received with
  | octets raw =>
      by_cases h : (Received.octets raw).Readable P
      · exact .inl ⟨h, raw, rfl, readReplyDeep_of_readable h⟩
      · exact .inr (.inr ⟨h, .recursionError, by decide, readReplyDeep_of_not_readable h⟩)
  | osError className => exact .inr (.inl ⟨trivial, rfl⟩)
  | raised e other => exact .inr (.inr ⟨id, e, other, rfl⟩)

theorem fetchFrom_returns {received : Received} (hreadable : received.Readable P) (requestMap : Json)
    (sending : Sending) {judge : Reply → Py Fetched}
    (hjudge : ∀ reply, ∃ fetched, judge reply = .ok fetched ∧ Told fetched) :
    ∃ fetched, fetchFrom P received requestMap sending judge = .ok fetched ∧ Told fetched := by
  rw [fetchFrom]
  obtain ⟨-, raw, -, hask⟩ | ⟨-, hask⟩ | ⟨hnot, -⟩ := ask_cases P received requestMap
  · rw [hask]
    simp only
    split
    next refusal _ => exact ⟨_, rfl, told_refused sending refusal _⟩
    next =>
        split
        next => exact ⟨_, rfl, told_failed sending _⟩
        next => exact hjudge _
  · rw [hask]
    exact ⟨_, rfl, told_noAnswer sending _⟩
  · exact absurd hreadable hnot

theorem fetchFrom_raises {received : Received} (hreadable : ¬received.Readable P) (requestMap : Json)
    (sending : Sending) (judge : Reply → Py Fetched) :
    ∃ e, fetchFrom P received requestMap sending judge = .error e := by
  rw [fetchFrom]
  obtain ⟨h, -⟩ | ⟨h, -⟩ | ⟨-, e, he, hask⟩ := ask_cases P received requestMap
  · exact absurd h hreadable
  · exact absurd h hreadable
  · rw [hask]
    split
    next hos =>
        obtain rfl := Except.error.inj hos
        exact absurd rfl he
    next => exact ⟨_, rfl⟩
    next hok => cases hok

/-- A cell is verified only by an answer that verifies. -/
theorem fetchFrom_verified {received : Received} {requestMap : Json} {sending : Sending}
    {judge : Reply → Py Fetched} {fetched : Fetched}
    (h : fetchFrom P received requestMap sending judge = .ok fetched) (hverified : Verified fetched.cell) :
    ∃ raw reply, received = .octets raw ∧ reply.ok = true ∧ judge reply = .ok fetched ∧
      reply = readReply P.evidence ⟨P.requestDigest requestMap, raw, some requestMap⟩ none := by
  rw [fetchFrom] at h
  obtain ⟨-, raw, hraw, hask⟩ | ⟨-, hask⟩ | ⟨-, e, he, hask⟩ := ask_cases P received requestMap
  · rw [hask] at h
    simp only at h
    split at h
    next =>
        obtain rfl := Except.ok.inj h
        exact absurd hverified (not_verified_refused sending _ _)
    next =>
        split at h
        next =>
            obtain rfl := Except.ok.inj h
            exact absurd hverified (not_verified_failed sending _)
        next hok =>
            rw [Bool.not_eq_true, Bool.not_eq_false'] at hok
            exact ⟨raw, _, hraw, hok, h, rfl⟩
  · rw [hask] at h
    obtain rfl := Except.ok.inj h
    exact absurd hverified (not_verified_noAnswer sending _)
  · rw [hask] at h
    split at h
    next =>
        obtain rfl := Except.ok.inj h
        exact absurd hverified (not_verified_noAnswer sending _)
    next => cases h
    next hok => cases hok

end

/-! ## The three fetches -/

section

variable (P : ClientTools)

/-- What the timestamps of a chain raise when they are no intervals. -/
def ClientTools.Fits : Prop :=
  ∀ timestamps e, P.history.cadenceStats timestamps = .error e →
    e = .typeError ∨ ∃ text, e = .valueError text

variable {P}

theorem buildRequest_free (subject : Subject) (derivation nonce : Option String) :
    ∃ requestMap, buildRequest subject none none derivation nonce = .ok requestMap := by
  rw [buildRequest, if_neg (by simp)]
  exact ⟨_, rfl⟩

theorem told_judgeServedSummary (sending : Sending) (reply : Reply) :
    Told (judgeServedSummary sending reply) := by
  unfold judgeServedSummary
  split
  next reason _ => exact told_failed sending reason
  next found _ => exact told_verified sending found

theorem told_judgeCard (sending : Sending) (reply : Reply) (lines : List CarriedCheckpoint)
    (card : History.HistoryCard) : Told (judgeCard P sending reply lines card) := by
  unfold judgeCard
  split
  next => exact told_failed sending _
  next => exact told_verified sending _

/-- A card from the genesis on fails with what the intervals raise only. -/
theorem historyCard_raises (hfits : P.Fits) {peerId : String} {body : List (String × Json)}
    {lines : List CarriedCheckpoint} {e : PyError} (h : historyCard P peerId body lines = .error e) :
    e = .typeError ∨ ∃ text, e = .valueError text := by
  unfold historyCard History.buildHistoryCard at h
  simp only at h
  rw [if_neg (by simp)] at h
  split at h
  next => cases h
  next =>
      unfold History.cadence at h
      split at h
      next => cases h
      next =>
          cases hstats : P.history.cadenceStats _ with
          | error raised =>
            rw [hstats] at h
            obtain rfl := Except.error.inj h
            exact hfits _ _ hstats
          | ok stats =>
            rw [hstats] at h
            cases h

theorem foldCheckpoints_returns (hT : P.evidence.Sized) (hfits : P.Fits) (sending : Sending)
    (reply : Reply) :
    ∃ fetched, foldCheckpoints P sending reply = .ok fetched ∧ Told fetched := by
  obtain ⟨⟨lines, problems⟩, hanswer⟩ := answerCheckpoints_returns hT reply
  rw [foldCheckpoints, hanswer, Py.ok_bind]
  simp only
  split
  next => exact ⟨_, rfl, told_failed sending _⟩
  next =>
      cases hcard : historyCard P sending.peerId (bodyMembers reply) lines with
      | ok card => exact ⟨_, rfl, told_judgeCard sending reply lines card⟩
      | error e =>
        obtain rfl | ⟨text, rfl⟩ := historyCard_raises hfits hcard
        · exact ⟨_, rfl, told_failed sending _⟩
        · exact ⟨_, rfl, told_failed sending _⟩

theorem told_fetchVerdictsAboutPeer (peer : Peer) (sending : Sending)
    (peerMap : List (String × String)) (k : Int) :
    Told (fetchVerdictsAboutPeer P peer sending peerMap k) := by
  unfold fetchVerdictsAboutPeer
  split
  next => exact told_failed sending _
  next => exact told_failed sending _
  next => exact told_noAnswer sending _
  next => exact told_failed sending _
  next => exact told_verified sending _

/-- The history that a reply proves: a chain of stated checkpoints up to the envelope's anchor, with an
unbroken and unforked card. -/
structure ProvenHistory (P : ClientTools) (peerId : String) (reply : Reply) : Prop where
  checked : reply.ok = true
  chain : ∃ envelope lines card, reply.envelope = some envelope ∧
    ListedChain P.evidence reply envelope lines ∧
    historyCard P peerId (bodyMembers reply) lines = .ok card ∧
    card.properties.continuity = "unbroken" ∧ card.properties.unforked = true

theorem foldCheckpoints_verified {sending : Sending} {reply : Reply} {fetched : Fetched}
    (h : foldCheckpoints P sending reply = .ok fetched) (hverified : Verified fetched.cell)
    (hok : reply.ok = true) : ProvenHistory P sending.peerId reply := by
  have hnever : ∀ reason, sending.failed reason ≠ fetched := by
    rintro reason rfl
    exact not_verified_failed sending reason hverified
  obtain ⟨⟨lines, problems⟩, hanswer, h⟩ := Py.bind_eq_ok.mp h
  simp only at h
  split at h
  next => exact absurd (Except.ok.inj h) (hnever _)
  next hnone =>
      rw [Bool.not_eq_true, Bool.not_eq_false', List.isEmpty_iff] at hnone
      subst hnone
      obtain ⟨envelope, henvelope, hchain⟩ := answerCheckpoints_eq_ok hanswer
      split at h
      next card hcard =>
          have hjudged := Except.ok.inj h
          unfold judgeCard at hjudged
          split at hjudged
          next => exact absurd hjudged (hnever _)
          next hunbroken =>
              rw [not_or, not_not, Bool.not_eq_false] at hunbroken
              exact ⟨hok, envelope, lines, card, henvelope, hchain, hcard, hunbroken⟩
      next => exact absurd (Except.ok.inj h) (hnever _)
      next => exact absurd (Except.ok.inj h) (hnever _)
      next => exact absurd (Except.ok.inj h) (hnever _)
      next => cases h

/-! ## All of them -/

/-- The reply to the request for the checkpoints of the peer. -/
def IsHistoryReply (P : ClientTools) (peer : Peer) (reply : Reply) : Prop :=
  ∃ raw requestMap, peer.history = .octets raw ∧
    buildRequest .checkpoints none none none none = .ok requestMap ∧
    reply = readReply P.evidence ⟨P.requestDigest requestMap, raw, some requestMap⟩ none

/-- Every cell has one of the statuses, and the history is verified only by a proof of it. -/
structure SoundCells (P : ClientTools) (peer : Peer) (peerId : String) (result : PeerFetchResult) :
    Prop where
  served : ∃ cell ∈ result.served, HasStatus cell
  history : ∃ cell ∈ result.history, HasStatus cell ∧
    (Verified cell → ∃ reply, IsHistoryReply P peer reply ∧ ProvenHistory P peerId reply)
  verdicts : ∀ cell ∈ result.verdicts, HasStatus cell

theorem soundCells_disabled (peer : Peer) (peerId : String) :
    SoundCells P peer peerId ⟨some disabled, some disabled, some disabled⟩ := by
  have hstatus : HasStatus disabled := ⟨"no_answer", by decide, rfl⟩
  refine ⟨⟨disabled, rfl, hstatus⟩, ⟨disabled, rfl, hstatus, ?_⟩, ?_⟩
  · intro hverified
    exact absurd hverified (not_verified_of_status rfl (by decide))
  · rintro _ ⟨⟩
    exact hstatus

theorem fetchServedSummary_returns {received : Received} (hreadable : received.Readable P)
    (sending : Sending) : ∃ fetched, fetchServedSummary P received sending = .ok fetched ∧
      Told fetched := by
  obtain ⟨requestMap, hrequest⟩ := buildRequest_free .fullHistory (some _SERVED_SUMMARY_DERIVATION) none
  rw [fetchServedSummary, hrequest, Py.ok_bind]
  apply fetchFrom_returns hreadable
  intro reply
  exact ⟨_, rfl, told_judgeServedSummary sending reply⟩

theorem fetchPeerHistory_returns (hT : P.evidence.Sized) (hfits : P.Fits) {peer : Peer}
    (hreadable : peer.history.Readable P) (sending : Sending) :
    ∃ fetched, fetchPeerHistory P peer.history sending = .ok fetched ∧ Told fetched ∧
      (Verified fetched.cell →
        ∃ reply, IsHistoryReply P peer reply ∧ ProvenHistory P sending.peerId reply) := by
  obtain ⟨requestMap, hrequest⟩ := buildRequest_free .checkpoints none none
  rw [fetchPeerHistory, hrequest, Py.ok_bind]
  obtain ⟨fetched, hfetched, htold⟩ := fetchFrom_returns hreadable requestMap sending
    (foldCheckpoints_returns hT hfits sending)
  refine ⟨fetched, hfetched, htold, ?_⟩
  intro hverified
  obtain ⟨raw, reply, hraw, hok, hjudged, hreply⟩ := fetchFrom_verified hfetched hverified
  exact ⟨reply, ⟨raw, requestMap, hraw, hrequest, hreply⟩,
    foldCheckpoints_verified hjudged hverified hok⟩

/-- Both replies could be read where the cells were filled. -/
theorem readable_of_filled {peer : Peer} {peerId : String} {options : FetchOptions}
    (henabled : options.enabled = true) {result : PeerFetchResult}
    (h : fetchAllPeerCells P peer peerId options = .ok result) :
    peer.servedSummary.Readable P ∧ peer.history.Readable P := by
  rw [fetchAllPeerCells, henabled, if_neg (by simp)] at h
  obtain ⟨served, hserved, h⟩ := Py.bind_eq_ok.mp h
  obtain ⟨history, hhistory, -⟩ := Py.bind_eq_ok.mp h
  constructor
  · by_contra hnot
    obtain ⟨requestMap, hrequest⟩ :=
      buildRequest_free .fullHistory (some _SERVED_SUMMARY_DERIVATION) none
    rw [fetchServedSummary, hrequest, Py.ok_bind] at hserved
    obtain ⟨e, he⟩ := fetchFrom_raises hnot requestMap _ _
    cases he.symm.trans hserved
  · by_contra hnot
    obtain ⟨requestMap, hrequest⟩ := buildRequest_free .checkpoints none none
    rw [fetchPeerHistory, hrequest, Py.ok_bind] at hhistory
    obtain ⟨e, he⟩ := fetchFrom_raises hnot requestMap _ _
    cases he.symm.trans hhistory

/-- All cells are filled, soundly, exactly when the first two replies can be read. -/
theorem cells_sound_iff (hT : P.evidence.Sized) (hfits : P.Fits) (peer : Peer) (peerId : String)
    (options : FetchOptions) :
    (∃ result, fetchAllPeerCells P peer peerId options = .ok result ∧
      SoundCells P peer peerId result) ↔
    (options.enabled = true → peer.servedSummary.Readable P ∧ peer.history.Readable P) := by
  cases henabled : options.enabled with
  | false =>
      have hresult : fetchAllPeerCells P peer peerId options =
          .ok ⟨some disabled, some disabled, some disabled⟩ := by
        rw [fetchAllPeerCells, henabled]
        rfl
      apply iff_of_true ⟨_, hresult, soundCells_disabled peer peerId⟩
      intro h
      cases h
  | true =>
      constructor
      · rintro ⟨result, hresult, -⟩ -
        exact readable_of_filled henabled hresult
      · intro hreadable
        obtain ⟨hsummary, hchain⟩ := hreadable rfl
        obtain ⟨served, hserved, htold⟩ := fetchServedSummary_returns hsummary
          (options.sending peerId options.servedAt _SERVED_SUMMARY_DERIVATION)
        obtain ⟨history, hhistory, htoldHistory, hproven⟩ := fetchPeerHistory_returns hT hfits hchain
          (options.sending peerId options.historyAt "checkpoints")
        rw [fetchAllPeerCells, henabled, if_neg (by simp), hserved, Py.ok_bind, hhistory, Py.ok_bind]
        refine ⟨_, rfl, ?_, ?_, ?_⟩
        · exact ⟨served.cell, rfl, htold.status⟩
        · exact ⟨history.cell, rfl, htoldHistory.status, hproven⟩
        · intro cell hcell
          simp only [Option.mem_def] at hcell
          split at hcell
          next =>
              obtain rfl := Option.some.inj hcell
              exact (told_fetchVerdictsAboutPeer peer _ options.peerMap 3).status
          next => cases hcell

end

/-! ## A door with one checkpoint -/

def readForm (wire : Json) : Option Subject :=
  match wire with
  | .obj [("checkpoints", .null)] => some .checkpoints
  | .obj [("full_history", .null)] => some .fullHistory
  | _ => none

/-- Replies that carry an artifact in hex and the subject it is for. -/
def doorTools : EvidenceTools :=
  { sealTools with
    parseReply := fun raw =>
      match decodeUtf8 raw >>= loads id with
      | .ok (.obj [("artifact", .str hex), ("subject", wire)]) =>
        match readForm wire, bytesFromHex hex with
        | some subject, .ok artifact => .ok (.inr (oneEnvelope subject artifact))
        | _, _ => .error "malformed"
      | _ => .error "not an envelope"
    parseRequest := fun request =>
      match request with
      | .obj (("subject", wire) :: _) =>
        match readForm wire with
        | some subject => .ok ⟨subject, none, .minSize 0⟩
        | none => .error "malformed"
      | _ => .error "malformed" }

/-- A client whose decoder gives up after a thousand opening brackets. -/
def doorClient : ClientTools where
  evidence := doorTools
  history :=
    { verifyCheckpointCoseOffline := fun _ => .ok ⟨1, "root", 0, "", "key"⟩
      entryDigest := History.CheckpointLine.root
      definitionDigest := "definition"
      verifyAccount := fun _ _ _ => true
      cadenceStats := fun _ => .ok ⟨"60", "60", "60", "60"⟩ }
  requestDigest _ := "request"
  recordDict cp := [("mmr_size", .int cp.record.mmrSize), ("root", .str cp.record.root)]
  keyIdOf _ := some "key"
  tooDeep raw := decide (1000 < (raw.takeWhile (· = 91)).length)
  excName _ := "RuntimeError"
  excText _ := ""

def doorReply (subject : Subject) (artifact : Bytes) : Bytes :=
  utf8 (Json.obj [("artifact", .str (hexText artifact)), ("subject", subject.toWire)]).dumps

/-- A peer that answers the first two requests so, and no other. -/
def doorPeer (servedSummary history : Received) : Peer where
  servedSummary := servedSummary
  history := history
  checkpoints := .osError "URLError"
  records _ := .osError "URLError"
  references _ := .urlError

theorem parseReply_doorReply {subject : Subject} (hform : readForm subject.toWire = some subject)
    (hproper : subject.toWire.Proper id) (artifact : Bytes) :
    doorTools.parseReply (doorReply subject artifact) = .ok (.inr (oneEnvelope subject artifact)) := by
  have hreply : (Json.obj [("artifact", .str (hexText artifact)), ("subject", subject.toWire)]).Proper
      id := by
    simp [hproper]
  simp only [doorTools, doorReply, decodeUtf8_utf8, Py.ok_bind, loads_dumps hreply, hform,
    bytesFromHex_hexText]

theorem fullHistory_form : readForm Subject.fullHistory.toWire = some .fullHistory := rfl

theorem checkpoints_form : readForm Subject.checkpoints.toWire = some .checkpoints := rfl

def doorOptions : FetchOptions where
  servedAt := "2026-01-01T00:00:00Z"
  historyAt := "2026-01-01T00:00:01Z"
  verdictsAt := "2026-01-01T00:00:02Z"

theorem tooDeep_replicate {n : ℕ} (h : 1000 < n) :
    doorClient.tooDeep (List.replicate n 91) = true := by
  have hall : (List.replicate n (91 : UInt8)).takeWhile (· = 91) = List.replicate n 91 := by
    rw [List.takeWhile_eq_self_iff]
    intro b hb
    rw [List.eq_of_mem_replicate hb]
    rfl
  have hlength : ((List.replicate n (91 : UInt8)).takeWhile (· = 91)).length = n := by
    rw [hall, List.length_replicate]
  apply decide_eq_true
  rwa [hlength]

theorem not_filled_of_tooDeep {artifact : Bytes} (hdeep : doorClient.tooDeep artifact = true) :
    ¬∃ result, fetchAllPeerCells doorClient
      (doorPeer (.octets (doorReply .fullHistory artifact)) (.osError "URLError")) "peer"
      doorOptions = .ok result := by
  have hparse : doorClient.evidence.parseReply (doorReply .fullHistory artifact) =
      .ok (.inr (oneEnvelope .fullHistory artifact)) :=
    parseReply_doorReply fullHistory_form (by simp [Subject.toWire]) artifact
  rintro ⟨result, hresult⟩
  exact not_readable_of_deep hparse hdeep (readable_of_filled rfl hresult).1

/-- An artifact of two thousand opening brackets. -/
theorem deep_artifact_raises :
    ¬∃ result, fetchAllPeerCells doorClient
      (doorPeer (.octets (doorReply .fullHistory (List.replicate 2000 91))) (.osError "URLError"))
      "peer" doorOptions = .ok result := by
  apply not_filled_of_tooDeep
  apply tooDeep_replicate
  norm_num

/-- The artifact of a log whose one checkpoint is stated by one octet. -/
def chainArtifact : Json :=
  .obj [("anchor", .str (hexText sealDigest)), ("checkpoints", .arr [.str "00"]),
    ("evidence_stream", .str "log"), ("subject", Subject.checkpoints.toWire)]

def chainOctets : Bytes := doorReply .checkpoints (utf8 chainArtifact.dumps)

/-- The door's reading of its reply, kept apart so that its octets are never evaluated. -/
theorem parseReply_chainOctets : doorTools.parseReply chainOctets =
    .ok (.inr (oneEnvelope .checkpoints (utf8 chainArtifact.dumps))) := by
  rw [chainOctets]
  apply parseReply_doorReply checkpoints_form
  simp [Subject.toWire]

theorem not_tooDeep_obj (members : List (String × Json)) :
    doorClient.tooDeep (utf8 (Json.obj members).dumps) = false := by
  apply decide_eq_false
  rw [Json.dumps, String.append_assoc, utf8_append, utf8_eq_flatMap "\x7b"]
  simp [String.utf8EncodeChar]

theorem chainOctets_readable : (Received.octets chainOctets).Readable doorClient := by
  intro envelope hparse
  have hevidence : doorClient.evidence = doorTools := rfl
  rw [hevidence, parseReply_chainOctets] at hparse
  obtain rfl := Sum.inr.inj (Except.ok.inj hparse)
  constructor
  · rw [chainOctets, doorReply]
    apply not_tooDeep_obj
  · rw [oneEnvelope, chainArtifact]
    apply not_tooDeep_obj

/-- What the client reads. -/
def chainReply : Reply where
  ok := true
  errors := []
  envelope := some (oneEnvelope .checkpoints (utf8 chainArtifact.dumps))
  body := chainArtifact
  cll := some ⟨"PASS", ""⟩
  request := some ⟨.checkpoints, none, .minSize 0⟩

theorem readReply_chainOctets (requestMap : Json)
    (hrequest : buildRequest .checkpoints none none none none = .ok requestMap) :
    readReply doorTools ⟨"request", chainOctets, some requestMap⟩ none = chainReply := by
  have hbody : doorTools.jsonLoads
      (oneEnvelope .checkpoints (utf8 chainArtifact.dumps)).artifact = .ok chainArtifact :=
    jsonLoads_dumps (by simp [chainArtifact, Subject.toWire])
  have hreceipts : witnessReceipts doorTools chainOctets = ([], []) := by
    have hloads : doorTools.jsonLoads chainOctets =
        .ok (.obj [("artifact", .str (hexText (utf8 chainArtifact.dumps))),
          ("subject", Subject.checkpoints.toWire)]) :=
      jsonLoads_dumps (by simp [Subject.toWire])
    rw [witnessReceipts, hloads]
    rfl
  have herrors : envelopeErrors doorTools ⟨"request", chainOctets, some requestMap⟩ none
      (some ⟨.checkpoints, none, .minSize 0⟩)
      (oneEnvelope .checkpoints (utf8 chainArtifact.dumps)) = [] := by
    have hanswers : answersAsked ⟨.checkpoints, none, .minSize 0⟩
        (oneEnvelope .checkpoints (utf8 chainArtifact.dumps)) = true := rfl
    rw [envelopeErrors, hreceipts, Option.any_some, hanswers]
    rfl
  have hread : readRequest doorTools ⟨"request", chainOctets, some requestMap⟩ =
      (some ⟨.checkpoints, none, .minSize 0⟩, []) := by
    obtain rfl := Except.ok.inj hrequest
    rfl
  rw [readReply, parseReply_chainOctets]
  simp only [hreceipts, hbody, hread, herrors]
  rfl

/-- The history of the one checkpoint is verified. -/
theorem verified_chainOctets (sending : Sending) :
    ∃ fetched, fetchPeerHistory doorClient (.octets chainOctets) sending = .ok fetched ∧
      Verified fetched.cell := by
  obtain ⟨requestMap, hrequest⟩ := buildRequest_free .checkpoints none none
  have hask : ask doorClient (.octets chainOctets) requestMap = .ok chainReply := by
    have hread := @readReplyDeep_of_readable doorClient
      ⟨"request", chainOctets, some requestMap⟩ chainOctets_readable
    exact hread.trans (congrArg Except.ok (readReply_chainOctets requestMap hrequest))
  rw [fetchPeerHistory, hrequest, Py.ok_bind, fetchFrom, hask]
  exact ⟨_, rfl, rfl⟩

theorem one_checkpoint_cells :
    ∃ result, fetchAllPeerCells doorClient (doorPeer (.osError "URLError") (.octets chainOctets))
      "peer" doorOptions = .ok result ∧
      SoundCells doorClient (doorPeer (.osError "URLError") (.octets chainOctets)) "peer" result ∧
        ∃ cell ∈ result.history, Verified cell := by
  have hsized : doorClient.evidence.Sized := by
    constructor
    · intro statement decoded covered hdecoded hcovered
      obtain rfl := Option.some.inj hdecoded
      obtain rfl := Option.some.inj hcovered
      decide
    · intro statement decoded hdecoded peak hpeak
      obtain rfl := Option.some.inj hdecoded
      obtain rfl := List.mem_singleton.mp hpeak
      exact ⟨_, rfl⟩
  have hfits : doorClient.Fits := by
    intro timestamps e h
    cases h
  obtain ⟨result, hresult, hsound⟩ := (cells_sound_iff hsized hfits
    (doorPeer (.osError "URLError") (.octets chainOctets)) "peer" doorOptions).mpr fun _ =>
      ⟨trivial, chainOctets_readable⟩
  refine ⟨result, hresult, hsound, ?_⟩
  rw [fetchAllPeerCells, if_neg (by decide)] at hresult
  obtain ⟨served, -, hresult⟩ := Py.bind_eq_ok.mp hresult
  obtain ⟨history, hhistory, hresult⟩ := Py.bind_eq_ok.mp hresult
  obtain ⟨fetched, hfetched, hverified⟩ := verified_chainOctets
    (doorOptions.sending "peer" doorOptions.historyAt "checkpoints")
  obtain rfl := Except.ok.inj (hhistory.symm.trans hfetched)
  obtain rfl := Except.ok.inj hresult
  exact ⟨history.cell, rfl, hverified⟩

end CapsuleMesh.PeerEvidenceClient
