import CapsuleMesh.Sidecar.Halves

/-!
# The native log of a request

`do_POST` of `capsule_sidecar.py` with its two handlers, as programs over the ledger
and the native log: a raised exception keeps what was written before it.  Every call
that may fail is given its outcome by `Handling`, so that a value of this type is one
way the handling of a request can go.
-/

namespace CapsuleMesh.Sidecar

open Python

inductive NativeStatus where
  | success
  | failed
deriving DecidableEq

/-- A row of `native_log.jsonl`. -/
structure NativeRow where
  requestId : String
  timestamp : String
  status : NativeStatus
  requestDigest : Option String
  capsuleId : Option String
deriving DecidableEq

structure World where
  ledger : List Json
  nativeLog : List NativeRow

/-- A piece of a handler: it ends with a value or an exception, and in both cases with
the files as they then are. -/
structure Handler (α : Type) where
  run : World → Py α × World

namespace Handler

variable {α β : Type}

instance : Monad Handler where
  pure a := ⟨fun w => (.ok a, w)⟩
  bind x f := ⟨fun w =>
    match x.run w with
    | (.ok a, w') => (f a).run w'
    | (.error e, w') => (.error e, w')⟩

/-- A call that touches neither file. -/
def call (x : Py α) : Handler α := ⟨fun w => (x, w)⟩

/-- `try: x` with `except Exception: recover`. -/
def orElse (x recover : Handler α) : Handler α := ⟨fun w =>
  match x.run w with
  | (.ok a, w') => (.ok a, w')
  | (.error _, w') => recover.run w'⟩

end Handler

/-- The request and the outcome of every call made for it.  `send` stands for writing
the reply, and fails when the client is gone. -/
structure Handling where
  emit : Emit
  digests : Digests
  /-- What the digest of a value raises beyond the two errors that `_safe_digest_json`
  catches: it nests deeper than `_stringify_floats` can follow. -/
  digestErrors : Json → Py Unit
  ctx : SealContext
  requestId : String
  clock : ℕ → String
  body : Option Json
  evaluation : Py (Option BilateralEvalResult)
  upstream : Py Reply
  nextSeq : Py (Int × Option Int)
  sign : Py Bytes
  verify : Json → Bool
  append : Py Unit
  writeStatement : Py Unit
  persistDisclosure : Py Unit
  send : Py Unit

namespace Handling

variable (h : Handling)

def recordNativeRequest (status : NativeStatus) (requestDigest capsuleId : Option String) :
    Handler Unit := ⟨fun w =>
  (.ok (), { w with
    nativeLog := w.nativeLog ++
      [⟨h.requestId, h.clock w.nativeLog.length, status, requestDigest, capsuleId⟩] })⟩

def appendCapsule (capsule : Json) : Handler Unit := ⟨fun w =>
  match h.append with
  | .ok () => (.ok (), { w with ledger := w.ledger ++ [capsule] })
  | .error e => (.error e, w)⟩

/-- `record_capsule`; its two checkpoint updates catch their own exceptions. -/
def recordCapsule (capsule : Json) : Handler Unit := do
  if h.verify capsule then
    h.appendCapsule capsule
    Handler.call h.writeStatement
  else Handler.call (.error .runtimeError)

/-- `persist_disclosure_preimage`, which only a requester calls. -/
def disclosure : Py Unit :=
  match h.ctx.cfg.role with
  | .requester => h.persistDisclosure
  | .provider => .ok ()

/-- What a handler knows when it starts to seal; `forwarded` is the copy that remains to
be sent. -/
structure Exchange where
  eval : Option BilateralEvalResult
  response : Json
  status : ℕ
  forwardedCopy : Json
  forwarded : Option Json

/-- `build_capsule`, which takes its number first. -/
def buildCapsule (requestJson : Json) (x : Exchange) : Py Json := do
  let number ← h.nextSeq
  h.digestErrors requestJson
  h.digestErrors x.response
  sealChatCompletion h.emit h.digests { h.ctx with bilateralEval := x.eval, number := number }
    requestJson x.response x.status x.forwardedCopy

/-- Building, signing and recording the capsule, with the disclosure of a requester. -/
def sealExchange (requestJson : Json) (x : Exchange) : Handler Json := do
  let capsule ← Handler.call (h.buildCapsule requestJson x)
  let _ ← Handler.call h.sign
  h.recordCapsule capsule
  Handler.call h.disclosure
  return capsule

def statusOf (code : ℕ) : NativeStatus :=
  if 200 ≤ code ∧ code < 300 then .success else .failed

/-- `handle_chat_completion` up to its sealing. -/
def chatExchange : Py Exchange := do
  let eval ← h.evaluation
  let reply ← h.upstream
  match reply.body.decoded with
  | .value response =>
      let (_, log) ← buildForwardedCopy h.ctx.uuids response
      h.digestErrors response
      return ⟨eval, response, reply.status,
        forwardedCopyRecord h.digests response [] log.upstreamToolCallIds, none⟩
  | _ => .error (.valueError "the response is not JSON")

def handleChat (requestJson : Json) : Handler (ℕ × Option String) := do
  let x ← Handler.call h.chatExchange
  let capsule ← h.sealExchange requestJson x
  return (x.status, capsuleIdOf capsule)

/-- `_handle_streaming_chat_completion` up to its sealing: an error body goes out
before anything is sealed. -/
def streamExchange : Py Exchange := do
  let eval ← h.evaluation
  let reply ← h.upstream
  if reply.succeeded then
    let response ← reassembleStreamedResponse (readSse reply.body.lines)
    let (forwarded, log) ← buildForwardedCopy h.ctx.uuids response
    h.digestErrors forwarded
    return ⟨eval, response, reply.status,
      forwardedCopyRecord h.digests forwarded log.transforms log.upstreamToolCallIds,
      some forwarded⟩
  else
    h.send
    let response ← errorResponse reply.body.decoded
    return ⟨eval, response, reply.status, .null, none⟩

def handleStreaming (requestJson : Json) : Handler Unit := do
  let x ← Handler.call h.streamExchange
  let capsule ← h.sealExchange requestJson x
  h.recordNativeRequest (statusOf x.status) (safeDigestJson h.digests requestJson)
    (capsuleIdOf capsule)
  match x.forwarded with
  | some forwarded => do
      let _ ← Handler.call (synthesizeSse forwarded)
      Handler.call h.send
  | none => pure ()

def doPost : Handler Unit :=
  match h.body with
  | none => do
      Handler.call h.send
      h.recordNativeRequest .failed none none
  | some requestJson => do
      Handler.call (h.digestErrors requestJson)
      let requestDigest := safeDigestJson h.digests requestJson
      let stream ← Handler.call (requestJson.get "stream")
      if stream.truthy then
        Handler.orElse (h.handleStreaming requestJson)
          (h.recordNativeRequest .failed requestDigest none)
      else
        let (status, capsuleId) ← Handler.orElse (h.handleChat requestJson) (pure (500, none))
        Handler.call h.send
        h.recordNativeRequest (statusOf status) requestDigest capsuleId

/-! ## How far the sealing of a request gets -/

/-- Nothing reached the ledger; the capsule did but a later step raised; everything
was written. -/
inductive Fate where
  | refused
  | stranded (capsule : Json)
  | sealed (capsule : Json)

/-- The steps after the ledger append. -/
def settles : Bool :=
  h.writeStatement.isOk && h.disclosure.isOk

def sealFate (requestJson : Json) (exchange : Py Exchange) : Fate :=
  match exchange with
  | .error _ => .refused
  | .ok x =>
      match h.buildCapsule requestJson x with
      | .error _ => .refused
      | .ok capsule =>
        if h.sign.isOk && h.verify capsule && h.append.isOk then
          if h.settles then .sealed capsule else .stranded capsule
        else .refused

end Handling

/-! ## One row for a request -/

namespace Handler

variable {α β : Type}

@[simp] theorem pure_apply (a : α) (w : World) : (pure a : Handler α).run w = (.ok a, w) := rfl

@[simp] theorem call_apply (x : Py α) (w : World) : (call x).run w = (x, w) := rfl

theorem bind_ok {x : Handler α} {w w' : World} {a : α} (hx : x.run w = (.ok a, w'))
    (f : α → Handler β) : (x >>= f).run w = (f a).run w' := by
  simp [bind, hx]

theorem bind_error {x : Handler α} {w w' : World} {e : PyError} (hx : x.run w = (.error e, w'))
    (f : α → Handler β) : (x >>= f).run w = (.error e, w') := by
  simp [bind, hx]

theorem orElse_ok {x recover : Handler α} {w w' : World} {a : α} (hx : x.run w = (.ok a, w')) :
    (orElse x recover).run w = (.ok a, w') := by
  simp [orElse, hx]

theorem orElse_error {x recover : Handler α} {w w' : World} {e : PyError}
    (hx : x.run w = (.error e, w')) : (orElse x recover).run w = recover.run w' := by
  simp [orElse, hx]

end Handler

def World.withCapsule (w : World) (capsule : Json) : World :=
  { w with ledger := w.ledger ++ [capsule] }

namespace Handling

variable {h : Handling}

/-- The run of a handler whose sealing meets this fate. -/
def Fate.Describes {α : Type} (fate : Fate) (x : Handler α) (w : World)
    (done : Json → World → Py α × World) : Prop :=
  match fate with
  | .refused => ∃ e, x.run w = (.error e, w)
  | .stranded capsule => ∃ e, x.run w = (.error e, w.withCapsule capsule)
  | .sealed capsule => x.run w = done capsule (w.withCapsule capsule)

theorem Fate.Describes.of_eq {α : Type} {fate : Fate} {x y : Handler α} {w : World}
    {done : Json → World → Py α × World} (hxy : x.run w = y.run w) (hy : fate.Describes y w done) :
    fate.Describes x w done := by
  cases fate with
  | refused => exact hy.imp fun e he => hxy.trans he
  | stranded capsule => exact hy.imp fun e he => hxy.trans he
  | sealed capsule => exact hxy.trans hy

/-- A call that raises before anything is sealed. -/
theorem Fate.Describes.of_error {α β : Type} {x : Py α} {e : PyError} (hx : x = .error e)
    (f : α → Handler β) (w : World) (done : Json → World → Py β × World) :
    Fate.refused.Describes (Handler.call x >>= f) w done :=
  ⟨e, Handler.bind_error (by rw [hx]; rfl) f⟩

/-- A call that succeeds changes nothing. -/
theorem Fate.Describes.of_ok {α β : Type} {fate : Fate} {x : Py α} {a : α} (hx : x = .ok a)
    {f : α → Handler β} {w : World} {done : Json → World → Py β × World}
    (hf : fate.Describes (f a) w done) : fate.Describes (Handler.call x >>= f) w done :=
  .of_eq (Handler.bind_ok (by rw [hx]; rfl) f) hf

theorem Fate.Describes.bind {α β : Type} {fate : Fate} {x : Handler α} {w : World} {val : Json → α}
    (hx : fate.Describes x w fun capsule w => (.ok (val capsule), w)) (f : α → Handler β) :
    fate.Describes (x >>= f) w fun capsule => (f (val capsule)).run := by
  cases fate with
  | refused =>
      obtain ⟨e, he⟩ := hx
      exact ⟨e, Handler.bind_error he f⟩
  | stranded capsule =>
      obtain ⟨e, he⟩ := hx
      exact ⟨e, Handler.bind_error he f⟩
  | sealed capsule => exact Handler.bind_ok hx f

theorem recordCapsule_run (capsule : Json) (w : World) :
    if h.verify capsule && h.append.isOk then
      (h.recordCapsule capsule).run w = (h.writeStatement, w.withCapsule capsule)
    else ∃ e, (h.recordCapsule capsule).run w = (.error e, w) := by
  unfold recordCapsule
  cases hverify : h.verify capsule with
  | false => exact ⟨_, rfl⟩
  | true =>
      cases happend : h.append with
      | error e =>
        have hx : (h.appendCapsule capsule).run w = (.error e, w) := by simp [appendCapsule, happend]
        exact ⟨e, Handler.bind_error hx _⟩
      | ok u =>
        have hx : (h.appendCapsule capsule).run w = (.ok (), w.withCapsule capsule) := by
          simp [appendCapsule, happend, World.withCapsule]
        exact Handler.bind_ok hx _

/-- What follows the append decides whether the capsule is sealed or stranded. -/
theorem settle_run {capsule : Json} {w : World}
    (hrecord : (h.recordCapsule capsule).run w = (h.writeStatement, w.withCapsule capsule)) :
    (if h.settles then Fate.sealed capsule else .stranded capsule).Describes
      (do
        h.recordCapsule capsule
        Handler.call h.disclosure
        return capsule) w fun capsule w => (.ok capsule, w) := by
  cases hwrite : h.writeStatement with
  | error e =>
      rw [hwrite] at hrecord
      have hsettles : h.settles = false := by simp [settles, hwrite, Except.isOk, Except.toBool]
      rw [hsettles]
      exact ⟨e, Handler.bind_error hrecord _⟩
  | ok u =>
      rw [hwrite] at hrecord
      cases hdisclosure : h.disclosure with
      | error e =>
        have hsettles : h.settles = false := by
          simp [settles, hdisclosure, Except.isOk, Except.toBool]
        rw [hsettles]
        exact ⟨e, (Handler.bind_ok hrecord _).trans rfl⟩
      | ok v =>
        have hsettles : h.settles = true := by
          simp [settles, hwrite, hdisclosure, Except.isOk, Except.toBool]
        rw [hsettles]
        exact (Handler.bind_ok hrecord _).trans rfl

theorem sealExchange_run (requestJson : Json) (x : Exchange) (w : World) :
    (h.sealFate requestJson (.ok x)).Describes (h.sealExchange requestJson x) w
      fun capsule w => (.ok capsule, w) := by
  unfold sealExchange
  cases hbuild : h.buildCapsule requestJson x with
  | error e =>
      simp only [sealFate, hbuild]
      exact .of_error rfl _ _ _
  | ok capsule =>
      refine .of_ok rfl ?_
      cases hsign : h.sign with
      | error e =>
        simp only [sealFate, hbuild, hsign]
        exact .of_error rfl _ _ _
      | ok statement =>
        refine .of_ok rfl ?_
        have hrecord := recordCapsule_run (h := h) capsule w
        have htrue : (Except.ok statement : Py Bytes).isOk = true := rfl
        simp only [sealFate, hbuild, hsign, htrue, Bool.true_and]
        cases happend : h.verify capsule && h.append.isOk with
        | false =>
          simp only [happend, Bool.false_eq_true, if_false] at hrecord
          obtain ⟨e, he⟩ := hrecord
          exact ⟨e, Handler.bind_error he _⟩
        | true =>
          simp only [happend, if_true] at hrecord
          exact settle_run hrecord

/-- A handler that seals its exchange and then does `next`. -/
theorem sealThen_run {α : Type} (requestJson : Json) (exchange : Py Exchange)
    (next : Exchange → Json → Handler α) (w : World) :
    (h.sealFate requestJson exchange).Describes
      (do
        let x ← Handler.call exchange
        let capsule ← h.sealExchange requestJson x
        next x capsule) w
      fun capsule w =>
        match exchange with
        | .ok x => (next x capsule).run w
        | .error e => (.error e, w) := by
  cases exchange with
  | error e => exact .of_error rfl _ _ _
  | ok x => exact .of_ok rfl ((sealExchange_run requestJson x w).bind (next x))

theorem streamExchange_ok {x : Exchange} (hx : h.streamExchange = .ok x) :
    (∃ forwarded lines, x.forwarded = some forwarded ∧ synthesizeSse forwarded = .ok lines) ∨
      (x.forwarded = none ∧ h.send = .ok ()) := by
  simp only [streamExchange, Py.bind_eq_ok] at hx
  obtain ⟨eval, -, reply, -, hx⟩ := hx
  split at hx
  · simp only [Py.bind_eq_ok] at hx
    obtain ⟨response, hresponse, ⟨forwarded, log⟩, hcopy, -, -, hx⟩ := hx
    obtain rfl := Except.ok.inj hx
    obtain ⟨read, c, -, rfl, htidy, -⟩ := reassembleStreamedResponse_ok hresponse
    obtain ⟨log', hcopy'⟩ := buildForwardedCopy_completion h.ctx.uuids htidy
    obtain ⟨rfl, -⟩ := Prod.mk.inj (Except.ok.inj (hcopy'.symm.trans hcopy))
    exact .inl ⟨_, _, rfl, synthesizeSse_completion _⟩
  · simp only [Py.bind_eq_ok] at hx
    obtain ⟨⟨⟩, hsend, response, -, hx⟩ := hx
    obtain rfl := Except.ok.inj hx
    exact .inr ⟨rfl, hsend⟩

def Fate.capsule : Fate → Option Json
  | .refused => none
  | .stranded capsule => some capsule
  | .sealed capsule => some capsule

/-- The id that the handler goes on with. -/
def Fate.named : Fate → Option String
  | .sealed capsule => capsuleIdOf capsule
  | _ => none

/-- The files after a sealing that met this fate. -/
def afterSealing (w : World) (fate : Fate) : World :=
  ⟨w.ledger ++ fate.capsule.toList, w.nativeLog⟩

@[simp] theorem afterSealing_refused (w : World) : afterSealing w .refused = w := by
  simp [afterSealing, Fate.capsule]

/-- A plain request replies and writes its row in the files that its sealing left. -/
theorem plain_run (requestJson : Json) (w : World) :
    ∃ status, (do
      let (status, capsuleId) ← Handler.orElse (h.handleChat requestJson) (pure (500, none))
      Handler.call h.send
      h.recordNativeRequest (statusOf status) (safeDigestJson h.digests requestJson) capsuleId :
        Handler Unit).run w =
      (do
        Handler.call h.send
        h.recordNativeRequest (statusOf status) (safeDigestJson h.digests requestJson)
          (h.sealFate requestJson h.chatExchange).named : Handler Unit).run
        (afterSealing w (h.sealFate requestJson h.chatExchange)) := by
  have hrun := sealThen_run (h := h) requestJson h.chatExchange
    (fun x capsule => pure (x.status, capsuleIdOf capsule)) w
  cases hfate : h.sealFate requestJson h.chatExchange with
  | refused =>
      rw [hfate] at hrun
      obtain ⟨e, he⟩ := hrun
      have he : (h.handleChat requestJson).run w = (.error e, w) := he
      refine ⟨500, ?_⟩
      rw [Handler.bind_ok ((Handler.orElse_error he).trans (Handler.pure_apply _ _)),
        afterSealing_refused]
      rfl
  | stranded capsule =>
      rw [hfate] at hrun
      obtain ⟨e, he⟩ := hrun
      have he : (h.handleChat requestJson).run w = (.error e, w.withCapsule capsule) := he
      refine ⟨500, ?_⟩
      rw [Handler.bind_ok ((Handler.orElse_error he).trans (Handler.pure_apply _ _))]
      rfl
  | sealed capsule =>
      rw [hfate] at hrun
      cases hx : h.chatExchange with
      | error e =>
        rw [hx] at hfate
        cases hfate
      | ok x =>
        rw [hx] at hrun
        have he : (h.handleChat requestJson).run w =
            (.ok (x.status, capsuleIdOf capsule), w.withCapsule capsule) := by
          rw [handleChat, hx]
          exact hrun
        refine ⟨x.status, ?_⟩
        rw [Handler.bind_ok (Handler.orElse_ok he)]
        rfl

/-- A streamed request writes its row when it is sealed, and one that denies the capsule
when it raises, also after the first. -/
theorem stream_run (requestJson : Json) (w : World) :
    ∃ status,
      ((Handler.orElse (h.handleStreaming requestJson)
        (h.recordNativeRequest .failed (safeDigestJson h.digests requestJson) none)).run w).2 =
      match h.sealFate requestJson h.streamExchange with
      | .sealed capsule =>
        let row := h.recordNativeRequest (statusOf status) (safeDigestJson h.digests requestJson)
          (capsuleIdOf capsule)
        let denial := h.recordNativeRequest .failed (safeDigestJson h.digests requestJson) none
        match h.send with
        | .ok _ => (row.run (afterSealing w (.sealed capsule))).2
        | .error _ => (denial.run (row.run (afterSealing w (.sealed capsule))).2).2
      | fate => ((h.recordNativeRequest .failed (safeDigestJson h.digests requestJson) none).run
          (afterSealing w fate)).2 := by
  have hrun := sealThen_run (h := h) requestJson h.streamExchange (fun x capsule => do
    h.recordNativeRequest (statusOf x.status) (safeDigestJson h.digests requestJson)
      (capsuleIdOf capsule)
    match x.forwarded with
    | some forwarded => do
        let _ ← Handler.call (synthesizeSse forwarded)
        Handler.call h.send
    | none => pure ()) w
  cases hfate : h.sealFate requestJson h.streamExchange with
  | refused =>
      rw [hfate] at hrun
      obtain ⟨e, he⟩ := hrun
      have he : (h.handleStreaming requestJson).run w = (.error e, w) := he
      refine ⟨500, ?_⟩
      rw [Handler.orElse_error he]
      dsimp only
      rw [afterSealing_refused]
  | stranded capsule =>
      rw [hfate] at hrun
      obtain ⟨e, he⟩ := hrun
      have he : (h.handleStreaming requestJson).run w = (.error e, w.withCapsule capsule) := he
      refine ⟨500, ?_⟩
      rw [Handler.orElse_error he]
      rfl
  | sealed capsule =>
      rw [hfate] at hrun
      cases hx : h.streamExchange with
      | error e =>
        rw [hx] at hfate
        cases hfate
      | ok x =>
        rw [hx] at hrun
        have he : (h.handleStreaming requestJson).run w = (h.send,
            ((h.recordNativeRequest (statusOf x.status) (safeDigestJson h.digests requestJson)
              (capsuleIdOf capsule)).run (afterSealing w (.sealed capsule))).2) := by
          rw [handleStreaming, hx]
          refine hrun.trans ?_
          rcases streamExchange_ok hx with ⟨forwarded, lines, hforwarded, hlines⟩ | ⟨hnone, hsend⟩
          · simp only [hforwarded, hlines]
            rfl
          · simp only [hnone, hsend]
            rfl
        refine ⟨x.status, ?_⟩
        cases hsend : h.send with
        | ok u =>
          rw [hsend] at he
          rw [Handler.orElse_ok he]
        | error e =>
          rw [hsend] at he
          rw [Handler.orElse_error he]

theorem sealFate_capsule (hemit : EmitContract h.emit) {requestJson capsule : Json}
    {exchange : Py Exchange} (hfate : h.sealFate requestJson exchange = .sealed capsule) :
    ∃ id, capsuleIdOf capsule = some id := by
  unfold sealFate at hfate
  cases exchange with
  | error e => cases hfate
  | ok x =>
      cases hbuild : h.buildCapsule requestJson x with
      | error e =>
        simp only [hbuild] at hfate
        cases hfate
      | ok capsule' =>
        simp only [hbuild] at hfate
        split_ifs at hfate
        obtain rfl := Fate.sealed.inj hfate
        simp only [buildCapsule, sealChatCompletion, Py.bind_eq_ok] at hbuild
        obtain ⟨number, -, -, -, -, -, exchangeId, -, hseal⟩ := hbuild
        obtain ⟨ea, hcapsule, -⟩ := emitServing_ok hseal
        obtain ⟨id, hid, -⟩ := hemit.capsuleId hcapsule
        exact ⟨id, hid⟩

/-- One row was added for the request, and it names a capsule exactly when one was
appended. -/
def OneRow (h : Handling) (w w' : World) : Prop :=
  ∃ row, w'.nativeLog = w.nativeLog ++ [row] ∧ row.requestId = h.requestId ∧
    (row.capsuleId = none ∧ w'.ledger = w.ledger ∨
      ∃ capsule, w'.ledger = w.ledger ++ [capsule] ∧ row.capsuleId = capsuleIdOf capsule ∧
        row.capsuleId ≠ none)

/-- When the request is accounted for.  A body that is not JSON and a plain request
need their reply delivered, a stream only once it is sealed; a body must digest without
an error that is not caught, and be an object, to be asked for its `stream` member; and no
step after the ledger append may raise. -/
def Accounted (h : Handling) : Prop :=
  match h.body with
  | none => h.send = .ok ()
  | some requestJson =>
      h.digestErrors requestJson = .ok () ∧
      match requestJson.get "stream" with
      | .error _ => False
      | .ok stream =>
        match h.sealFate requestJson
            (if stream.truthy then h.streamExchange else h.chatExchange) with
        | .refused => stream.truthy = true ∨ h.send = .ok ()
        | .stranded _ => False
        | .sealed _ => h.send = .ok ()

/-- The end of a plain request: reply, then row. -/
theorem reply_then_row_iff (w w' : World) {status : NativeStatus}
    {requestDigest capsuleId : Option String} (hlog : w'.nativeLog = w.nativeLog) :
    h.OneRow w ((do
      Handler.call h.send
      h.recordNativeRequest status requestDigest capsuleId : Handler Unit).run w').2 ↔
      h.send = .ok () ∧ (capsuleId = none ∧ w'.ledger = w.ledger ∨
        ∃ capsule, w'.ledger = w.ledger ++ [capsule] ∧ capsuleId = capsuleIdOf capsule ∧
          capsuleId ≠ none) := by
  cases hsend : h.send with
  | error e =>
      have hrun : (do
          Handler.call (Except.error e)
          h.recordNativeRequest status requestDigest capsuleId : Handler Unit).run w' =
          (.error e, w') := Handler.bind_error rfl _
      rw [hrun]
      constructor
      · rintro ⟨row, hrow, -⟩
        simp [hlog] at hrow
      · rintro ⟨hok, -⟩
        cases hok
  | ok u =>
      have hrun : (do
          Handler.call (Except.ok u)
          h.recordNativeRequest status requestDigest capsuleId : Handler Unit).run w' =
          (h.recordNativeRequest status requestDigest capsuleId).run w' := Handler.bind_ok rfl _
      rw [hrun]
      constructor
      · rintro ⟨row, hrow, -, hnames⟩
        have hrow : w'.nativeLog ++ [_] = w.nativeLog ++ [row] := hrow
        rw [hlog] at hrow
        obtain rfl := List.singleton_inj.mp (List.append_cancel_left hrow)
        exact ⟨rfl, hnames⟩
      · rintro ⟨-, hnames⟩
        exact ⟨_, by rw [← hlog]; rfl, rfl, hnames⟩

theorem plain_oneRow_iff (hemit : EmitContract h.emit) (requestJson : Json) (w : World) :
    h.OneRow w ((do
      let (status, capsuleId) ← Handler.orElse (h.handleChat requestJson) (pure (500, none))
      Handler.call h.send
      h.recordNativeRequest (statusOf status) (safeDigestJson h.digests requestJson) capsuleId :
        Handler Unit).run w).2 ↔
      match h.sealFate requestJson h.chatExchange with
      | .refused => h.send = .ok ()
      | .stranded _ => False
      | .sealed _ => h.send = .ok () := by
  obtain ⟨status, hrun⟩ := plain_run (h := h) requestJson w
  rw [hrun]
  refine (reply_then_row_iff w (afterSealing w _) rfl).trans ?_
  cases hfate : h.sealFate requestJson h.chatExchange with
  | refused => simp [afterSealing, Fate.capsule, Fate.named]
  | stranded capsule => simp [afterSealing, Fate.capsule, Fate.named]
  | sealed capsule =>
      obtain ⟨id, hid⟩ := sealFate_capsule hemit hfate
      simp [afterSealing, Fate.capsule, Fate.named, hid]

theorem stream_oneRow_iff (hemit : EmitContract h.emit) (requestJson : Json) (w : World) :
    h.OneRow w ((Handler.orElse (h.handleStreaming requestJson)
      (h.recordNativeRequest .failed (safeDigestJson h.digests requestJson) none)).run w).2 ↔
      match h.sealFate requestJson h.streamExchange with
      | .refused => True
      | .stranded _ => False
      | .sealed _ => h.send = .ok () := by
  obtain ⟨status, hrun⟩ := stream_run (h := h) requestJson w
  rw [hrun]
  cases hfate : h.sealFate requestJson h.streamExchange with
  | refused => exact iff_of_true ⟨_, rfl, rfl, .inl ⟨rfl, List.append_nil _⟩⟩ trivial
  | stranded capsule =>
      refine iff_of_false ?_ id
      rintro ⟨row, hrow, -, hnames⟩
      have hrow : w.nativeLog ++ [_] = w.nativeLog ++ [row] := hrow
      obtain rfl := List.singleton_inj.mp (List.append_cancel_left hrow)
      rcases hnames with ⟨-, hledger⟩ | ⟨capsule', -, -, hne⟩
      · have hledger : w.ledger ++ [capsule] = w.ledger := hledger
        simp at hledger
      · exact hne rfl
  | sealed capsule =>
      obtain ⟨id, hid⟩ := sealFate_capsule hemit hfate
      cases hsend : h.send with
      | ok u => exact iff_of_true ⟨_, rfl, rfl, .inr ⟨capsule, rfl, rfl, by simp [hid]⟩⟩ rfl
      | error e =>
        refine iff_of_false ?_ (by simp)
        rintro ⟨row, hrow, -⟩
        have hlength := congrArg List.length hrow
        simp [recordNativeRequest, afterSealing] at hlength

theorem not_oneRow_self {w : World} : ¬h.OneRow w w := by
  rintro ⟨row, hrow, -⟩
  simp at hrow

/-- The request is accounted for by one row exactly when this holds. -/
theorem doPost_oneRow_iff (hemit : EmitContract h.emit) (w : World) :
    h.OneRow w (h.doPost.run w).2 ↔ h.Accounted := by
  unfold doPost Accounted
  cases h.body with
  | none => exact (reply_then_row_iff w w rfl).trans (by simp)
  | some requestJson =>
      simp only
      -- The digest and the lookup of the member are outside every `try`.
      cases hdigest : h.digestErrors requestJson with
      | error e =>
        rw [Handler.bind_error (Handler.call_apply _ w)]
        exact iff_of_false not_oneRow_self fun hok => by cases hok.1
      | ok u =>
        rw [Handler.bind_ok (Handler.call_apply _ w), and_iff_right rfl]
        cases hstream : requestJson.get "stream" with
        | error e =>
          rw [Handler.bind_error (Handler.call_apply _ w)]
          exact iff_of_false not_oneRow_self id
        | ok stream =>
          rw [Handler.bind_ok (Handler.call_apply _ w)]
          simp only
          cases htruthy : stream.truthy with
          | true =>
            simp only [if_true]
            refine (stream_oneRow_iff hemit requestJson w).trans ?_
            cases h.sealFate requestJson h.streamExchange <;> simp
          | false =>
            simp only [Bool.false_eq_true, if_false]
            refine (plain_oneRow_iff hemit requestJson w).trans ?_
            cases h.sealFate requestJson h.chatExchange <;> simp

/-- A streamed request that is sealed, with this outcome of writing the reply. -/
def streamHandling (body : Json) (send : Py Unit) : Handling where
  emit := plainEmit
  digests := codeDigests
  digestErrors := fun _ => .ok ()
  ctx := plainContext "provider" .provider
  requestId := "request"
  clock := fun _ => "now"
  body := some body
  evaluation := .ok none
  upstream := .ok (toolCallStream .null)
  nextSeq := .ok (1, none)
  sign := .ok []
  verify := fun _ => true
  append := .ok ()
  writeStatement := .ok ()
  persistDisclosure := .ok ()
  send := send

theorem doPost_oneRow_stream :
    OneRow (streamHandling streamRequest (.ok ())) ⟨[], []⟩
      ((streamHandling streamRequest (.ok ())).doPost.run ⟨[], []⟩).2 :=
  (doPost_oneRow_iff plainEmit_contract ⟨[], []⟩).mpr ⟨rfl, rfl⟩

/-- A client that leaves during the stream costs a second row, which denies the capsule
that the first one names; a body that is an array leaves no row at all. -/
theorem doPost_rows_after_disconnect :
    (∃ capsule first second,
      ((streamHandling streamRequest (.error .osError)).doPost.run ⟨[], []⟩).2 =
        ⟨[capsule], [first, second]⟩ ∧
      first.capsuleId ≠ none ∧ second.capsuleId = none) ∧
    ((streamHandling (.arr []) (.ok ())).doPost.run ⟨[], []⟩).2 = ⟨[], []⟩ ∧
    ¬ OneRow (streamHandling streamRequest (.error .osError)) ⟨[], []⟩
      ((streamHandling streamRequest (.error .osError)).doPost.run ⟨[], []⟩).2 := by
  refine ⟨⟨_, _, _, rfl, ?_, rfl⟩, rfl, ?_⟩
  · intro hnone
    cases hnone
  · rintro ⟨row, hrow, -⟩
    cases hrow

end Handling

end CapsuleMesh.Sidecar
