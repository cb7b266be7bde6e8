import CapsuleMesh.Library.FirstMatch
import CapsuleMesh.Sidecar.NativeLog

/-!
# Joining the native log to the ledger

`native_log_join.py`.  Each row of the native log is credited with the first sealed
capsule over the same request digest; the id in the row itself is replaced.  Two
requests with one body share a digest.
-/

namespace CapsuleMesh.Sidecar

open Python

/-! ## The join -/

def UNSEALED : String := "unsealed"

def SEALED_VERDICT_CLASSES : List String := ["executed", "errored", "blocked"]

def capsuleRequestDigest (capsule : Json) : Py Json := do
  ((← capsule.get "effect").or (.obj [])).get "request_digest"

def capsuleVerdictClass (capsule : Json) : Py Json := do
  ((← capsule.get "disposition").or (.obj [])).get "verdict_class"

/-- `x not in frozenset(…)`, which raises on what cannot be hashed. -/
def hashedIn (j : Json) (names : List String) : Py Bool :=
  match j with
  | .arr _ | .obj _ => .error .typeError
  | j => .ok (names.any fun name => j.pyEq (.str name))

/-- The loop of `capsule_id_for_request`. -/
def firstSealed (digest : String) : List Json → Py Json
  | [] => .ok .null
  | capsule :: capsules =>
      match capsule with
      | .obj _ => do
        if (← capsuleRequestDigest capsule).pyEq (.str digest) then do
          if ← hashedIn (← capsuleVerdictClass capsule) SEALED_VERDICT_CLASSES then
            capsule.get "capsule_id"
          else firstSealed digest capsules
        else firstSealed digest capsules
      | _ => firstSealed digest capsules

def capsuleIdForRequest (requestDigest : Option String) (capsules : List Json) : Py Json :=
  match requestDigest.filter (· ≠ "") with
  | none => .ok .null
  | some digest => firstSealed digest capsules

/-- A row of the join: the entry with another `capsule_id`, and a `finding` when it is
unsealed. -/
structure JoinedRow where
  entry : NativeRow
  capsuleId : Json
  finding : Option String

def joinRow (capsules : List Json) (entry : NativeRow) : Py JoinedRow := do
  let found ← capsuleIdForRequest entry.requestDigest capsules
  return ⟨entry, found.or (.str UNSEALED), none⟩

def joinNativeLog (entries : List NativeRow) (capsules : List Json) : Py (List JoinedRow) :=
  entries.mapM (joinRow capsules)

/-! ## The report -/

structure LifecycleEvent where
  event : String
  timestamp : Option String

def LIFECYCLE_RUNTIME_SHUTDOWN_BEGIN : String := "runtime_shutdown_begin"

def LIFECYCLE_RUNTIME_SHUTDOWN_END : String := "runtime_shutdown_end"

/-- The loop of `shutdown_windows`, with the window that is open. -/
def pairWindows : Option String → List LifecycleEvent → List (String × Option String)
  | openBegin, [] => openBegin.toList.map (·, none)
  | openBegin, e :: events =>
      if e.event = LIFECYCLE_RUNTIME_SHUTDOWN_BEGIN then pairWindows e.timestamp events
      else
        match openBegin with
        | some begin =>
          if e.event = LIFECYCLE_RUNTIME_SHUTDOWN_END then
            (begin, e.timestamp) :: pairWindows none events
          else pairWindows openBegin events
        | none => pairWindows none events

def shutdownWindows (events : List LifecycleEvent) : List (String × Option String) :=
  pairWindows none
    (events.insertionSort fun a b => a.timestamp.getD "" ≤ b.timestamp.getD "")

def inWindow (timestamp : String) (window : String × Option String) : Bool :=
  decide (timestamp ≠ "") && decide (window.1 ≤ timestamp) && window.2.all (timestamp < ·)

def labelUnsealed (row : JoinedRow) (windows : List (String × Option String)) : String :=
  match windows.find? (inWindow row.entry.timestamp) with
  | some (begin, stop) =>
      "sealing was off between " ++ begin ++ " and " ++ (stop.filter (· ≠ "")).getD "now" ++
        " (runtime down)"
  | none => "unsealed"

structure CoverageReport where
  rows : List JoinedRow
  unsealedCount : ℕ
  coverageSummary : String
  failedUnsealed : List JoinedRow
  shutdownWindows : List (String × Option String)

def JoinedRow.isUnsealed (row : JoinedRow) : Bool := row.capsuleId.pyEq (.str UNSEALED)

def coverageReport (entries : List NativeRow) (capsules : List Json)
    (events : List LifecycleEvent) : Py CoverageReport := do
  let windows := shutdownWindows events
  let rows := (← joinNativeLog entries capsules).map fun row =>
    if row.isUnsealed then { row with finding := some (labelUnsealed row windows) } else row
  let unsealed := rows.filter JoinedRow.isUnsealed
  let unsealedCount := unsealed.length
  return {
    rows := rows
    unsealedCount := unsealedCount
    coverageSummary :=
      if unsealedCount = 0 then "coverage: fully sealed"
      else "coverage: " ++ toString unsealedCount ++ " request(s) unsealed"
    failedUnsealed := unsealed.filter fun row => row.entry.status = .failed
    shutdownWindows := windows }

/-! ## What a request writes -/

namespace Handling

/-- The capsule that is appended to the ledger for the request. -/
def appended (h : Handling) : Option Json :=
  match h.body with
  | none => none
  | some requestJson =>
      match h.digestErrors requestJson, requestJson.get "stream" with
      | .ok (), .ok stream =>
        (h.sealFate requestJson
          (if stream.truthy then h.streamExchange else h.chatExchange)).capsule
      | _, _ => none

def requestDigest (h : Handling) : Option String := h.body.bind (safeDigestJson h.digests)

/-- The rows that are written for the request. -/
def rowCount (h : Handling) : ℕ :=
  match h.body with
  | none => if h.send.isOk then 1 else 0
  | some requestJson =>
      match h.digestErrors requestJson, requestJson.get "stream" with
      | .ok (), .ok stream =>
        if stream.truthy then
          match h.sealFate requestJson h.streamExchange with
          | .sealed _ => if h.send.isOk then 1 else 2
          | _ => 1
        else if h.send.isOk then 1 else 0
      | _, _ => 0

/-- The files after a request that wrote this capsule and these rows. -/
def Writes (h : Handling) (w : World) (capsule : Option Json) (count : ℕ) (w' : World) : Prop :=
  w'.ledger = w.ledger ++ capsule.toList ∧
    ∃ rows : List NativeRow, w'.nativeLog = w.nativeLog ++ rows ∧ rows.length = count ∧
      ∀ row ∈ rows, row.requestId = h.requestId ∧ row.requestDigest = h.requestDigest

variable {h : Handling} {w : World}

/-- A row after what was written so far. -/
theorem Writes.row {w' : World} {capsule : Option Json} {count : ℕ}
    (hw : h.Writes w capsule count w') (status : NativeStatus) (capsuleId : Option String) :
    h.Writes w capsule (count + 1)
      ((h.recordNativeRequest status h.requestDigest capsuleId).run w').2 := by
  obtain ⟨hledger, rows, hrows, rfl, hall⟩ := hw
  refine ⟨hledger, rows ++ [⟨h.requestId, h.clock w'.nativeLog.length, status, h.requestDigest,
    capsuleId⟩], ?_, List.length_append, ?_⟩
  · rw [← List.append_assoc, ← hrows]
    rfl
  · rw [List.forall_mem_append]
    exact ⟨hall, List.forall_mem_singleton.mpr ⟨rfl, rfl⟩⟩

theorem writes_afterSealing (fate : Fate) : h.Writes w fate.capsule 0 (afterSealing w fate) :=
  ⟨rfl, [], (List.append_nil _).symm, rfl, by simp⟩

/-- The reply, and the row when it was delivered. -/
theorem Writes.reply_then_row {w' : World} {capsule : Option Json}
    (hw : h.Writes w capsule 0 w') (status : NativeStatus) (capsuleId : Option String) :
    h.Writes w capsule (if h.send.isOk then 1 else 0) ((do
      Handler.call h.send
      h.recordNativeRequest status h.requestDigest capsuleId : Handler Unit).run w').2 := by
  cases hsend : h.send with
  | error e =>
      have hrun : (do
          Handler.call (Except.error e)
          h.recordNativeRequest status h.requestDigest capsuleId : Handler Unit).run w' =
          (.error e, w') := Handler.bind_error rfl _
      rw [hrun]
      exact hw
  | ok u => exact hw.row status capsuleId

/-- What a request writes, by how its handling goes. -/
theorem doPost_writes (h : Handling) (w : World) :
    h.Writes w h.appended h.rowCount (h.doPost.run w).2 := by
  unfold doPost appended rowCount
  cases hbody : h.body with
  | none =>
      have hdigest : h.requestDigest = none := by rw [requestDigest, hbody]; rfl
      have hwrites := (writes_afterSealing (h := h) (w := w) .refused).reply_then_row .failed none
      rw [hdigest, afterSealing_refused] at hwrites
      exact hwrites
  | some requestJson =>
      have hdigest : safeDigestJson h.digests requestJson = h.requestDigest := by
        rw [requestDigest, hbody]
        rfl
      dsimp only
      have hnothing := writes_afterSealing (h := h) (w := w) .refused
      rw [afterSealing_refused] at hnothing
      cases herrors : h.digestErrors requestJson with
      | error e =>
        rw [Handler.bind_error (Handler.call_apply _ w)]
        exact hnothing
      | ok u =>
        rw [Handler.bind_ok (Handler.call_apply _ w)]
        cases hstream : requestJson.get "stream" with
        | error e =>
          rw [Handler.bind_error (Handler.call_apply _ w)]
          exact hnothing
        | ok stream =>
          rw [Handler.bind_ok (Handler.call_apply _ w)]
          dsimp only
          cases htruthy : stream.truthy with
          | false =>
            obtain ⟨status, hrun⟩ := plain_run (h := h) requestJson w
            simp only [Bool.false_eq_true, if_false]
            rw [hrun, hdigest]
            exact (writes_afterSealing _).reply_then_row _ _
          | true =>
            obtain ⟨status, hrun⟩ := stream_run (h := h) requestJson w
            simp only [if_true]
            rw [hrun, hdigest]
            cases h.sealFate requestJson h.streamExchange with
            | refused => exact (writes_afterSealing _).row _ _
            | stranded capsule => exact (writes_afterSealing _).row _ _
            | sealed capsule =>
              have hrow := (writes_afterSealing (h := h) (w := w) (.sealed capsule)).row
                (statusOf status) (capsuleIdOf capsule)
              cases hsend : h.send with
              | ok u => exact hrow
              | error e => exact hrow.row .failed none

theorem rowCount_le_one_of_unsealed (hnone : h.appended = none) : h.rowCount ≤ 1 := by
  unfold appended at hnone
  unfold rowCount
  cases hbody : h.body with
  | none => dsimp only; split <;> omega
  | some requestJson =>
      rw [hbody] at hnone
      dsimp only at hnone ⊢
      split
      · rename_i stream herrors hstream
        rw [herrors, hstream] at hnone
        dsimp only at hnone
        cases htruthy : stream.truthy with
        | false =>
          simp only [Bool.false_eq_true, if_false]
          split <;> omega
        | true =>
          simp only [htruthy, if_true] at hnone ⊢
          cases hfate : h.sealFate requestJson h.streamExchange with
          | refused => exact le_rfl
          | stranded capsule => exact le_rfl
          | sealed capsule =>
            rw [hfate] at hnone
            cases hnone
      · exact Nat.zero_le 1

/-- The capsule of a request was built from its body. -/
theorem buildCapsule_of_appended {capsule : Json} (happended : h.appended = some capsule) :
    ∃ requestJson x, h.body = some requestJson ∧ h.buildCapsule requestJson x = .ok capsule := by
  have hfate : ∀ {requestJson exchange}, (h.sealFate requestJson exchange).capsule = some capsule →
      ∃ x, h.buildCapsule requestJson x = .ok capsule := by
    intro requestJson exchange hcapsule
    unfold sealFate at hcapsule
    cases exchange with
    | error e => cases hcapsule
    | ok x =>
        dsimp only at hcapsule
        cases hbuild : h.buildCapsule requestJson x with
        | error e =>
          rw [hbuild] at hcapsule
          cases hcapsule
        | ok capsule' =>
          rw [hbuild] at hcapsule
          dsimp only at hcapsule
          split_ifs at hcapsule
          · obtain rfl := Option.some.inj hcapsule
            exact ⟨x, hbuild⟩
          · obtain rfl := Option.some.inj hcapsule
            exact ⟨x, hbuild⟩
          · cases hcapsule
  unfold appended at happended
  split at happended
  · cases happended
  · rename_i requestJson hbody
    split at happended
    · obtain ⟨x, hx⟩ := hfate happended
      exact ⟨requestJson, x, hbody, hx⟩
    · cases happended

end Handling

/-! ## What a sealed capsule shows the join -/

/-- The join also relies on the disposition being carried verbatim and on the id being a
digest. -/
structure JoinContract (emit : Emit) : Prop extends EmitContract emit where
  disposition : ∀ {args capsule}, emit args = .ok capsule →
    capsule.get "disposition" = .ok args.disposition
  id_ne_unsealed : ∀ {args capsule}, emit args = .ok capsule → capsuleIdOf capsule ≠ some UNSEALED

theorem get_capsule_id {capsule : Json} {id : String} (h : capsuleIdOf capsule = some id) :
    (∃ members, capsule = .obj members) ∧ capsule.get "capsule_id" = .ok (.str id) := by
  cases capsule with
  | obj members =>
      simp only [capsuleIdOf, Option.bind_eq_some_iff] at h
      obtain ⟨j, hj, hid⟩ := h
      cases j <;> cases hid
      exact ⟨⟨members, rfl⟩, by simp [hj]⟩
  | _ => cases h

/-- What the join finds in the capsule of a request. -/
structure Sealed (h : Handling) (capsule : Json) (id : String) : Prop where
  isObject : ∃ members, capsule = .obj members
  capsuleId : capsule.get "capsule_id" = .ok (.str id)
  id_ne_unsealed : id ≠ UNSEALED
  id_ne_empty : id ≠ ""
  digest : capsuleRequestDigest capsule = .ok (.ofStr? h.requestDigest)
  verdict : ∃ name ∈ SEALED_VERDICT_CLASSES, capsuleVerdictClass capsule = .ok (.str name)

theorem sealed_of_appended {h : Handling} (hemit : JoinContract h.emit) {capsule : Json}
    (happended : h.appended = some capsule) :
    ∃ id, capsuleIdOf capsule = some id ∧ Sealed h capsule id ∧
      ∃ args, h.emit args = .ok capsule ∧ args.actionId = servingActionId h.ctx.cfg h.ctx.uuid := by
  obtain ⟨requestJson, x, hbody, hbuild⟩ := Handling.buildCapsule_of_appended happended
  simp only [Handling.buildCapsule, sealChatCompletion, emitServing, emitArgs,
    Py.bind_eq_ok] at hbuild
  obtain ⟨number, -, -, -, -, -, exchange, -, args, ⟨attestation, -, modelId, -, hargs⟩, hcapsule⟩ := hbuild
  obtain rfl := Except.ok.inj hargs
  obtain ⟨id, hid, hne⟩ := hemit.capsuleId hcapsule
  obtain ⟨hobject, hget⟩ := get_capsule_id hid
  refine ⟨id, hid, ⟨hobject, hget, ?_, hne, ?_, ?_⟩, _, hcapsule, rfl⟩
  · rintro rfl
    exact hemit.id_ne_unsealed hcapsule hid
  · rw [capsuleRequestDigest, hemit.effect hcapsule, Py.ok_bind, Handling.requestDigest, hbody]
    rfl
  · refine ⟨_, ?_, by rw [capsuleVerdictClass, hemit.disposition hcapsule, Py.ok_bind]; rfl⟩
    simp only [sealArgs, SEALED_VERDICT_CLASSES]
    split <;> simp

/-! ## Runs -/

/-- The files after these requests, over a ledger with the capsules of the startup. -/
def runRequests (startup : List Json) (requests : List Handling) : World :=
  requests.foldl (fun w h => (h.doPost.run w).2) ⟨startup, []⟩

/-- The requests of one process: ids and uuids are drawn afresh for each. -/
structure OneSidecar (emit : Emit) (nodeId : String) (requests : List Handling) : Prop where
  emit_eq : ∀ h ∈ requests, h.emit = emit
  nodeId_eq : ∀ h ∈ requests, h.ctx.cfg.nodeId = nodeId
  requestIds_nodup : (requests.map Handling.requestId).Nodup
  uuids_nodup : (requests.map fun h => h.ctx.uuid).Nodup

namespace Handling

/-- What the join goes by. -/
def joinKey (h : Handling) : Option String := h.requestDigest.filter (· ≠ "")

/-- The id of the capsule that the request sealed. -/
def sealedId (h : Handling) : Option String := h.appended.bind capsuleIdOf

end Handling

/-- The capsule that the join credits a digest with. -/
def creditedDigest (requests : List Handling) (requestDigest : Option String) : Option String :=
  (requestDigest.filter (· ≠ "")).bind
    (Library.firstOwned Handling.joinKey Handling.sealedId requests)

def joinedRow (requests : List Handling) (entry : NativeRow) : JoinedRow :=
  ⟨entry, .str ((creditedDigest requests entry.requestDigest).getD UNSEALED), none⟩

theorem foldl_doPost (requests : List Handling) (w : World) :
    (requests.foldl (fun w h => (h.doPost.run w).2) w).ledger =
        w.ledger ++ requests.filterMap Handling.appended ∧
      (requests.foldl (fun w h => (h.doPost.run w).2) w).nativeLog.map
          (fun row => (row.requestId, row.requestDigest)) =
        w.nativeLog.map (fun row => (row.requestId, row.requestDigest)) ++
          requests.flatMap fun h => List.replicate h.rowCount (h.requestId, h.requestDigest) := by
  induction requests generalizing w with
  | nil => simp
  | cons h requests ih =>
      obtain ⟨hledger, rows, hrows, hlength, hall⟩ := Handling.doPost_writes h w
      have hreplicate : rows.map (fun row => (row.requestId, row.requestDigest)) =
          List.replicate h.rowCount (h.requestId, h.requestDigest) := by
        rw [List.eq_replicate_iff, List.length_map]
        refine ⟨hlength, ?_⟩
        intro pair hpair
        obtain ⟨row, hrow, rfl⟩ := List.mem_map.mp hpair
        rw [(hall row hrow).1, (hall row hrow).2]
      rw [List.foldl_cons]
      obtain ⟨hledger', hrows'⟩ := ih (h.doPost.run w).2
      refine ⟨?_, ?_⟩
      · rw [hledger', hledger, List.append_assoc]
        cases hcapsule : h.appended <;> simp [hcapsule]
      · rw [hrows', hrows, List.map_append, hreplicate, List.flatMap_cons, List.append_assoc]

theorem firstSealed_startup {digest : String} {startup : List Json} (capsules : List Json)
    (hstartup : ∀ capsule ∈ startup, capsuleRequestDigest capsule = .ok .null) :
    firstSealed digest (startup ++ capsules) = firstSealed digest capsules := by
  induction startup with
  | nil => rfl
  | cons capsule startup ih =>
      obtain ⟨hcapsule, hrest⟩ := List.forall_mem_cons.mp hstartup
      rw [List.cons_append]
      cases capsule with
      | obj members =>
        simp only [firstSealed, hcapsule, Py.ok_bind]
        exact ih hrest
      | _ => exact ih hrest

section

variable {emit : Emit} (hemit : JoinContract emit) {nodeId : String} {requests : List Handling}
  (hsidecar : OneSidecar emit nodeId requests)

include hemit hsidecar

theorem sealedId_of_appended {h : Handling} (hh : h ∈ requests) {capsule : Json}
    (happended : h.appended = some capsule) :
    ∃ id, h.sealedId = some id ∧ Sealed h capsule id := by
  have hcontract : JoinContract h.emit := by
    rw [hsidecar.emit_eq h hh]
    exact hemit
  obtain ⟨id, hid, hsealed, -⟩ := sealed_of_appended hcontract happended
  refine ⟨id, ?_, hsealed⟩
  rw [Handling.sealedId, happended]
  exact hid

theorem sealedId_eq_none_iff {h : Handling} (hh : h ∈ requests) :
    h.sealedId = none ↔ h.appended = none := by
  cases happended : h.appended with
  | none => simp [Handling.sealedId, happended]
  | some capsule =>
      obtain ⟨id, hid, -⟩ := sealedId_of_appended hemit hsidecar hh happended
      simp [hid]

theorem sealedId_ne {h : Handling} (hh : h ∈ requests) {id : String} (hid : h.sealedId = some id) :
    id ≠ UNSEALED ∧ id ≠ "" := by
  cases happended : h.appended with
  | none => simp [Handling.sealedId, happended] at hid
  | some capsule =>
      obtain ⟨id', hid', hsealed⟩ := sealedId_of_appended hemit hsidecar hh happended
      obtain rfl := Option.some.inj (hid.symm.trans hid')
      exact ⟨hsealed.id_ne_unsealed, hsealed.id_ne_empty⟩

/-- Different requests seal different capsules. -/
theorem distinct_sealedId : Library.Distinct Handling.sealedId requests := by
  have huuids : requests.Pairwise fun g h => g.ctx.uuid ≠ h.ctx.uuid :=
    List.pairwise_map.mp hsidecar.uuids_nodup
  refine huuids.imp_of_mem fun {g h} hg hh huuid id hgid hhid => huuid ?_
  obtain ⟨capsule, hcapsule, hid⟩ := Option.bind_eq_some_iff.mp hgid
  obtain ⟨capsule', hcapsule', hid'⟩ := Option.bind_eq_some_iff.mp hhid
  have hcontract : ∀ {k : Handling}, k ∈ requests → JoinContract k.emit := by
    intro k hk
    rw [hsidecar.emit_eq k hk]
    exact hemit
  obtain ⟨-, -, -, args, hargs, haction⟩ := sealed_of_appended (hcontract hg) hcapsule
  obtain ⟨-, -, -, args', hargs', haction'⟩ := sealed_of_appended (hcontract hh) hcapsule'
  rw [hsidecar.emit_eq g hg] at hargs
  rw [hsidecar.emit_eq h hh] at hargs'
  have hactions := hemit.actionId hargs hargs' (hid.trans hid'.symm)
  rw [haction, haction', servingActionId, servingActionId, hsidecar.nodeId_eq g hg,
    hsidecar.nodeId_eq h hh, String.append_right_inj] at hactions
  exact hactions

/-- The first capsule over a digest is that of the first request with it. -/
theorem firstSealed_appended {digest : String} (hdigest : digest ≠ "") {suffix : List Handling}
    (hsuffix : ∀ h ∈ suffix, h ∈ requests) :
    firstSealed digest (suffix.filterMap Handling.appended) =
      .ok ((Library.firstOwned Handling.joinKey Handling.sealedId suffix digest).elim .null .str) := by
  induction suffix with
  | nil => rfl
  | cons h suffix ih =>
      obtain ⟨hh, hrest⟩ := List.forall_mem_cons.mp hsuffix
      rw [Library.firstOwned, List.findSome?_cons]
      cases happended : h.appended with
      | none =>
        rw [List.filterMap_cons_none happended, (sealedId_eq_none_iff hemit hsidecar hh).mpr happended,
          ite_self]
        exact ih hrest
      | some capsule =>
        obtain ⟨id, hid, hsealed⟩ := sealedId_of_appended hemit hsidecar hh happended
        obtain ⟨members, hmembers⟩ := hsealed.isObject
        obtain ⟨name, hname, hverdict⟩ := hsealed.verdict
        have hhashed : hashedIn (.str name) SEALED_VERDICT_CLASSES = .ok true := by
          simp only [hashedIn, Except.ok.injEq, List.any_eq_true]
          exact ⟨name, hname, by simp [Json.pyEq]⟩
        have hdigests : (Json.ofStr? h.requestDigest).pyEq (.str digest) =
            decide (h.joinKey = some digest) := by
          cases hrequest : h.requestDigest with
          | none =>
            rw [Handling.joinKey, hrequest]
            rfl
          | some d =>
            rw [Bool.eq_iff_iff]
            simp only [Handling.joinKey, hrequest, Json.ofStr?, Json.pyEq, Option.filter_some]
            by_cases hd : d = ""
            · simp [hd, Ne.symm hdigest]
            · simp [hd]
        rw [List.filterMap_cons_some happended, hid, hmembers]
        rw [hmembers] at hsealed hverdict
        simp only [firstSealed, hsealed.digest, hdigests, Py.ok_bind, hverdict, hhashed]
        by_cases hkey : h.joinKey = some digest
        · simp only [hkey, decide_true, if_true]
          exact hsealed.capsuleId
        · simp only [hkey, decide_false, Bool.false_eq_true, if_false]
          exact ih hrest

/-- What a row is joined to depends on its digest only. -/
theorem joinRow_eq {startup : List Json}
    (hstartup : ∀ capsule ∈ startup, capsuleRequestDigest capsule = .ok .null) (entry : NativeRow) :
    joinRow (startup ++ requests.filterMap Handling.appended) entry =
      .ok (joinedRow requests entry) := by
  unfold joinedRow creditedDigest
  unfold joinRow capsuleIdForRequest
  cases hkey : entry.requestDigest.filter (· ≠ "") with
  | none => rfl
  | some digest =>
      have hdigest : digest ≠ "" := by simpa using (Option.filter_eq_some_iff.mp hkey).2
      simp only [firstSealed_startup _ hstartup,
        firstSealed_appended hemit hsidecar hdigest (fun _ h => h), Py.ok_bind, Option.bind_some]
      cases hfirst : Library.firstOwned Handling.joinKey Handling.sealedId requests digest with
      | none => rfl
      | some id =>
        obtain ⟨g, hg, -, hid⟩ := Library.firstOwned_mem hfirst
        have hne := (sealedId_ne hemit hsidecar hg hid).2
        simp [Json.or, Json.truthy, hne]

end

/-! ## When the join is exact -/

/-- Each row of the report is joined to the capsule of its own request, no capsule twice,
and as many rows are unsealed as requests. -/
structure JoinsExactly (requests : List Handling) (report : CoverageReport) : Prop where
  each : ∀ row ∈ report.rows, ∀ h ∈ requests, row.entry.requestId = h.requestId →
    row.capsuleId = .str (h.sealedId.getD UNSEALED)
  once : ((report.rows.filter fun row => !row.isUnsealed).map JoinedRow.capsuleId).Nodup
  count : report.unsealedCount = requests.countP fun h => h.appended.isNone

/-- When the request of a run is joined to its own capsule, by the requests before and
after it.  One that seals nothing leaves exactly one row, and no request that seals has its
digest; one that seals leaves at most one row, and if it leaves one it has a digest that no
earlier request sealed under. -/
abbrev Handling.JoinedApart (before : List Handling) (h : Handling) (after : List Handling) :
    Prop :=
  Library.Placed Handling.joinKey Handling.sealedId Handling.rowCount before h after

/-- The column that stands for this credit. -/
def joinedId (credit : Option String) : Json := .str (credit.getD UNSEALED)

theorem joinedId_injOn {a b : Option String} (ha : a ≠ some UNSEALED) (hb : b ≠ some UNSEALED)
    (h : joinedId a = joinedId b) : a = b := by
  cases a <;> cases b <;> simp_all [joinedId]

/-- The columns of the sealed rows, and the number of the others. -/
theorem joinedIds_split {credits : List (Option String)} (h : some UNSEALED ∉ credits) :
    (credits.map joinedId).filter (fun id => !id.pyEq (.str UNSEALED)) =
        (credits.filterMap id).map Json.str ∧
      ((credits.map joinedId).filter fun id => id.pyEq (.str UNSEALED)).length =
        credits.count none := by
  induction credits with
  | nil => simp
  | cons credit credits ih =>
      obtain ⟨hcredit, hcredits⟩ := not_or.mp (mt List.mem_cons.mpr h)
      obtain ⟨hsealed, hunsealed⟩ := ih hcredits
      cases credit with
      | none =>
        have hself : (joinedId none).pyEq (.str UNSEALED) = true := rfl
        simp only [List.map_cons, List.filter_cons, hself]
        simp [hsealed, hunsealed]
      | some id =>
        have hother : (joinedId (some id)).pyEq (.str UNSEALED) = false := by
          simp only [joinedId, Option.getD_some, Json.pyEq, decide_eq_false_iff_not]
          rintro rfl
          exact hcredit rfl
        simp only [List.map_cons, List.filter_cons, hother]
        simp [hsealed, hunsealed, joinedId]

section

variable {emit : Emit} (hemit : JoinContract emit) {nodeId : String} {requests : List Handling}
  (hsidecar : OneSidecar emit nodeId requests) {startup : List Json}
  (hstartup : ∀ capsule ∈ startup, capsuleRequestDigest capsule = .ok .null)

include hemit hsidecar in
theorem creditedDigest_ne_unsealed (requestDigest : Option String) :
    creditedDigest requests requestDigest ≠ some UNSEALED := by
  intro hid
  obtain ⟨digest, -, hfirst⟩ := Option.bind_eq_some_iff.mp hid
  obtain ⟨g, hg, -, hgid⟩ := Library.firstOwned_mem hfirst
  exact (sealedId_ne hemit hsidecar hg hgid).1 rfl

include hemit hsidecar hstartup

/-- The rows of the report, by the requests they are for. -/
theorem coverageReport_rows (events : List LifecycleEvent) :
    ∃ report, coverageReport (runRequests startup requests).nativeLog
        (runRequests startup requests).ledger events = .ok report ∧
      report.rows.map (fun row => (row.entry.requestId, row.capsuleId)) =
        (requests.flatMap fun h => List.replicate h.rowCount
          (h.requestId, Json.str ((creditedDigest requests h.requestDigest).getD UNSEALED))) ∧
      report.unsealedCount = (report.rows.filter JoinedRow.isUnsealed).length := by
  obtain ⟨hledger, hlog⟩ := foldl_doPost requests ⟨startup, []⟩
  rw [← runRequests] at hledger hlog
  have hjoin : joinNativeLog (runRequests startup requests).nativeLog
      (runRequests startup requests).ledger =
        .ok ((runRequests startup requests).nativeLog.map (joinedRow requests)) := by
    rw [hledger]
    refine Py.mapM_eq_ok.mpr ?_
    rw [List.map_map]
    exact List.map_congr_left fun entry _ => joinRow_eq hemit hsidecar hstartup entry
  have hcredits := congrArg (List.map fun pair : String × Option String =>
    (pair.1, Json.str ((creditedDigest requests pair.2).getD UNSEALED))) hlog
  refine ⟨_, by rw [coverageReport, hjoin]; rfl, ?_, rfl⟩
  rw [List.map_nil, List.nil_append, List.map_flatMap, List.map_map] at hcredits
  simp only [List.map_replicate] at hcredits
  rw [← hcredits, List.map_map, List.map_map]
  refine List.map_congr_left fun entry _ => ?_
  simp only [Function.comp_apply]
  split <;> rfl

omit hstartup in
theorem joinsExactly_iff_exactJoin {report : CoverageReport}
    (hrows : report.rows.map (fun row => (row.entry.requestId, row.capsuleId)) =
      (requests.flatMap fun h => List.replicate h.rowCount
        (h.requestId, Json.str ((creditedDigest requests h.requestDigest).getD UNSEALED))))
    (hcount : report.unsealedCount = (report.rows.filter JoinedRow.isUnsealed).length) :
    JoinsExactly requests report ↔
      Library.ExactJoin Handling.joinKey Handling.sealedId Handling.rowCount requests := by
  have hcredited := creditedDigest_ne_unsealed hemit hsidecar
  have hids : report.rows.map JoinedRow.capsuleId =
      (Library.credits Handling.joinKey Handling.sealedId Handling.rowCount requests).map
        joinedId := by
    have hsnd := congrArg (List.map Prod.snd) hrows
    rw [List.map_map, List.map_flatMap] at hsnd
    rw [Library.credits, List.map_flatMap]
    simp only [List.map_replicate] at hsnd ⊢
    exact hsnd
  have hcredits : some UNSEALED ∉
      Library.credits Handling.joinKey Handling.sealedId Handling.rowCount requests := by
    intro hmem
    obtain ⟨h, -, hmem⟩ := List.mem_flatMap.mp hmem
    exact hcredited h.requestDigest (List.eq_of_mem_replicate hmem).symm
  obtain ⟨hsealed, hunsealed⟩ := joinedIds_split hcredits
  rw [← hids, List.filter_map] at hsealed hunsealed
  have honce : ((report.rows.filter fun row => !row.isUnsealed).map JoinedRow.capsuleId).Nodup ↔
      ((Library.credits Handling.joinKey Handling.sealedId Handling.rowCount requests).filterMap
        id).Nodup := by
    rw [← List.nodup_map_iff fun _ _ => Json.str.inj, ← hsealed]
    rfl
  have hcount' : report.unsealedCount =
      (Library.credits Handling.joinKey Handling.sealedId Handling.rowCount requests).count
        none := by
    rw [hcount, ← hunsealed, List.length_map]
    rfl
  have hnone : (requests.countP fun h => h.appended.isNone) =
      requests.countP fun h => h.sealedId.isNone := by
    refine List.countP_congr fun h hh => ?_
    simp only [Option.isNone_iff_eq_none]
    exact (sealedId_eq_none_iff hemit hsidecar hh).symm
  constructor
  · intro hexact
    refine ⟨?_, honce.mp hexact.once, by rw [← hcount', hexact.count, hnone]⟩
    intro h hh hpos
    have hmem : (h.requestId, joinedId (creditedDigest requests h.requestDigest)) ∈
        report.rows.map fun row => (row.entry.requestId, row.capsuleId) := by
      rw [hrows]
      exact List.mem_flatMap.mpr ⟨h, hh, List.mem_replicate.mpr ⟨by omega, rfl⟩⟩
    obtain ⟨row, hrow, hpair⟩ := List.mem_map.mp hmem
    obtain ⟨hid, hcapsule⟩ := Prod.mk.inj hpair
    have heq := hexact.each row hrow h hh hid
    rw [hcapsule] at heq
    exact joinedId_injOn (hcredited _) (fun hu => (sealedId_ne hemit hsidecar hh hu).1 rfl) heq
  · intro hexact
    refine ⟨?_, honce.mpr hexact.once, by rw [hcount', hexact.count, hnone]⟩
    intro row hrow h hh hid
    have hmem := List.mem_map_of_mem (f := fun row : JoinedRow =>
      (row.entry.requestId, row.capsuleId)) hrow
    rw [hrows] at hmem
    obtain ⟨g, hg, hpair⟩ := List.mem_flatMap.mp hmem
    obtain ⟨hpos, hpair⟩ := List.mem_replicate.mp hpair
    obtain ⟨hgid, hcapsule⟩ := Prod.mk.inj hpair
    obtain rfl : g = h :=
      List.inj_on_of_nodup_map hsidecar.requestIds_nodup hg hh (hgid.symm.trans hid)
    rw [hcapsule, ← hexact.own g hg (Nat.pos_of_ne_zero hpos)]
    rfl

/-- The join is exact over the rows and capsules of a run exactly when each request is
told apart from the others by its digest. -/
theorem joinsExactly_iff_joinedApart (events : List LifecycleEvent) :
    (∃ report, coverageReport (runRequests startup requests).nativeLog
        (runRequests startup requests).ledger events = .ok report ∧
      JoinsExactly requests report) ↔
      ∀ before h after, requests = before ++ h :: after → h.JoinedApart before after := by
  obtain ⟨report, hreport, hrows, hcount⟩ := coverageReport_rows hemit hsidecar hstartup events
  have hcopies : ∀ h ∈ requests, h.sealedId = none → h.rowCount ≤ 1 :=
    fun h hh hnone =>
      Handling.rowCount_le_one_of_unsealed ((sealedId_eq_none_iff hemit hsidecar hh).mp hnone)
  rw [← Library.exactJoin_iff (distinct_sealedId hemit hsidecar) hcopies,
    ← joinsExactly_iff_exactJoin hemit hsidecar hrows hcount]
  constructor
  · rintro ⟨report', hreport', hexact⟩
    obtain rfl := Except.ok.inj (hreport.symm.trans hreport')
    exact hexact
  · exact fun hexact => ⟨report, hreport, hexact⟩

end

/-! ## Two requests with one body -/

theorem plainEmit_joinContract : JoinContract plainEmit where
  toEmitContract := plainEmit_contract
  disposition h := by
    obtain rfl := Except.ok.inj h
    rfl
  id_ne_unsealed {args capsule} h := by
    obtain rfl := Except.ok.inj h
    intro hid
    have hid : "id:" ++ args.actionId = UNSEALED := Option.some.inj hid
    have hchars := congrArg String.toList hid
    rw [String.toList_append] at hchars
    exact absurd (List.cons.inj hchars).1 (by decide)

/-- A streamed request, with the outcome of the ledger append. -/
def sameBody (requestId uuid : String) (append : Py Unit) : Handling :=
  { Handling.streamHandling streamRequest (.ok ()) with
    digests := plainDigests
    requestId := requestId
    ctx := { plainContext "provider" .provider with uuid := uuid }
    append := append }

theorem sameBody_sidecar (append append' : Py Unit) :
    OneSidecar plainEmit "provider" [sameBody "r1" "u1" append, sameBody "r2" "u2" append'] where
  emit_eq := by simp [sameBody, Handling.streamHandling]
  nodeId_eq := by simp [sameBody, plainContext, plainConfig]
  requestIds_nodup := by simp [sameBody]
  uuids_nodup := by simp [sameBody]

theorem sameBody_sealedId (requestId : String) :
    (sameBody requestId "u1" (.ok ())).sealedId = some "id:mesh-poc/provider/u1" := rfl

theorem sameBody_rowCount (requestId uuid : String) (append : Py Unit) :
    (sameBody requestId uuid append).rowCount = 1 := by
  cases append <;> rfl

theorem sameBody_joinKey (requestId uuid : String) (append : Py Unit) :
    (sameBody requestId uuid append).joinKey = some "digest" := rfl

/-- The second of two requests with one body is not sealed; its row is credited with the
capsule of the first, and the report shows no gap. -/
theorem same_body_joined_twice :
    let requests := [sameBody "r1" "u1" (.ok ()), sameBody "r2" "u2" (.error .osError)]
    ∃ report, coverageReport (runRequests [] requests).nativeLog (runRequests [] requests).ledger
        [] = .ok report ∧
      report.rows.map (fun row => (row.entry.requestId, row.capsuleId)) =
        [("r1", .str "id:mesh-poc/provider/u1"), ("r2", .str "id:mesh-poc/provider/u1")] ∧
      (sameBody "r2" "u2" (.error .osError)).appended = none ∧
      ¬JoinsExactly requests report := by
  intro requests
  have hstartup : ∀ capsule ∈ ([] : List Json), capsuleRequestDigest capsule = .ok .null := by simp
  obtain ⟨report, hreport, hrows, -⟩ := coverageReport_rows plainEmit_joinContract
    (sameBody_sidecar (.ok ()) (.error .osError)) hstartup []
  have hrows' : report.rows.map (fun row => (row.entry.requestId, row.capsuleId)) =
      [("r1", .str "id:mesh-poc/provider/u1"), ("r2", .str "id:mesh-poc/provider/u1")] := by
    simp only [List.flatMap_cons, List.flatMap_nil, sameBody_rowCount] at hrows
    exact hrows
  refine ⟨report, hreport, hrows', rfl, ?_⟩
  rintro ⟨heach, -, -⟩
  obtain ⟨row, hrow, hpair⟩ := List.mem_map.mp
    (hrows' ▸ List.mem_cons_of_mem _ (List.mem_singleton.mpr rfl) :
      ("r2", Json.str "id:mesh-poc/provider/u1") ∈
        report.rows.map fun row => (row.entry.requestId, row.capsuleId))
  obtain ⟨hid, hcapsule⟩ := Prod.mk.inj hpair
  have hown := heach row hrow (sameBody "r2" "u2" (.error .osError)) (by simp [requests]) hid
  have hids : "id:mesh-poc/provider/u1" = UNSEALED := Json.str.inj (hcapsule.symm.trans hown)
  exact absurd hids (by decide)

/-- A request whose body is not JSON. -/
def notJson (requestId uuid : String) : Handling :=
  { sameBody requestId uuid (.ok ()) with body := none }

theorem joinsExactly_iff_joinedApart_notJson :
    let requests := [sameBody "r1" "u1" (.ok ()), notJson "r2" "u2"]
    OneSidecar plainEmit "provider" requests ∧
      ∃ report, coverageReport (runRequests [] requests).nativeLog
        (runRequests [] requests).ledger [] = .ok report ∧ JoinsExactly requests report := by
  intro requests
  have hsidecar : OneSidecar plainEmit "provider" requests :=
    { emit_eq := by simp [requests, notJson, sameBody, Handling.streamHandling]
      nodeId_eq := by simp [requests, notJson, sameBody, plainContext, plainConfig]
      requestIds_nodup := by simp [requests, notJson, sameBody]
      uuids_nodup := by simp [requests, notJson, sameBody] }
  have hstartup : ∀ capsule ∈ ([] : List Json), capsuleRequestDigest capsule = .ok .null := by simp
  refine ⟨hsidecar,
    (joinsExactly_iff_joinedApart plainEmit_joinContract hsidecar hstartup []).mpr ?_⟩
  intro before h after hsplit
  match before, hsplit with
  | [], hsplit =>
      obtain ⟨rfl, rfl⟩ := List.cons.inj hsplit
      exact
        { copied := by simp [sameBody_sealedId]
          single := fun _ => (sameBody_rowCount _ _ _).le
          keyed := fun _ _ => by simp [sameBody_joinKey]
          first := by simp
          unclaimed := by simp [sameBody_sealedId] }
  | [_], hsplit =>
      obtain ⟨-, hrest⟩ := List.cons.inj hsplit
      obtain ⟨rfl, rfl⟩ := List.cons.inj hrest
      exact
        { copied := fun _ => rfl
          single := fun _ => le_rfl
          keyed := fun h => absurd rfl h
          first := fun _ _ _ _ _ => rfl
          unclaimed := by simp }
  | _ :: _ :: before, hsplit => simp [requests] at hsplit

end CapsuleMesh.Sidecar
