import CapsuleMesh.Sidecar.BuildCapsule
import Mathlib.Algebra.Order.Field.Rat
import Mathlib.Data.List.Sort
import Mathlib.Data.String.Basic

/-!
# Streamed responses

The three stages a streamed response passes in `capsule_sidecar.py`:
`reassemble_streamed_response` folds the chunks into one completion,
`build_forwarded_copy` makes the copy the caller gets, and `synthesize_sse` turns
that copy into chunks again.  Every chunk is first read field by field, which is
where all the exceptions are, and then folded in.
-/

namespace CapsuleMesh.Sidecar

open Python

/-! ## Sorting dictionary keys -/

/-- The number a float's `repr` shows. -/
def decimal (repr : String) : Option ℚ :=
  let (sign, cs) : ℚ × List Char :=
    match repr.toList with
    | '-' :: cs => (-1, cs)
    | cs => (1, cs)
  let (whole, rest) := takeDigits cs
  let fraction := match rest with
    | '.' :: ds => ds.takeWhile Char.isDigit
    | _ => []
  let digits := fraction.foldl (fun n c => 10 * n + (c.toNat - '0'.toNat)) whole
  let mantissa : ℚ := sign * digits / 10 ^ fraction.length
  if (cs.takeWhile Char.isDigit).isEmpty then none
  else
    match rest.dropWhile (· ≠ 'e') with
    | 'e' :: '-' :: es => some (mantissa / 10 ^ (takeDigits es).1)
    | 'e' :: '+' :: es => some (mantissa * 10 ^ (takeDigits es).1)
    | _ => some mantissa

def keyNumber : Key → Option ℚ
  | .int n => some n
  | .float repr => decimal repr
  | _ => none

def keyText : Key → Option String
  | .str s => some s
  | _ => none

/-- `[d[i] for i in sorted(d)]`: keys of two kinds do not compare. -/
def sortedValues {α : Type} (entries : List (Key × α)) : Py (List α) :=
  let numbered := entries.filterMap fun e => (keyNumber e.1).map fun q => (q, e.2)
  let named := entries.filterMap fun e => (keyText e.1).map fun s => (s, e.2)
  if entries.length ≤ 1 then .ok (entries.map Prod.snd)
  else if numbered.length = entries.length then
    .ok ((numbered.insertionSort fun a b => a.1 ≤ b.1).map Prod.snd)
  else if named.length = entries.length then
    .ok ((named.insertionSort fun a b => a.1 ≤ b.1).map Prod.snd)
  else .error .typeError

/-! ## Reassembling the chunks -/

structure ToolCallDelta where
  index : Key
  id : Json
  name : String
  arguments : String

/-- What the loop reads from one chunk; a chunk without choices carries nothing
beyond its three header fields. -/
structure Chunk where
  id : Json
  model : Json
  created : Json
  role : Json := .null
  content : String := ""
  toolCalls : List ToolCallDelta := []
  finishReason : Json := .null

/-- A value that is joined to a string when it is truthy. -/
def textOf (j : Json) : Py String := if j.truthy then j.toStr else .ok ""

def readToolCall (tc : Json) : Py ToolCallDelta := do
  let index ← (← tc.getD "index" (.int 0)).key
  let id ← tc.get "id"
  let fn := (← tc.get "function").or (.obj [])
  let name ← textOf (← fn.get "name")
  let arguments ← textOf (← fn.get "arguments")
  return ⟨index, id, name, arguments⟩

def readToolCalls : List Json → Py (List ToolCallDelta)
  | [] => .ok []
  | tc :: tcs => do
      let call ← readToolCall tc
      return call :: (← readToolCalls tcs)

def readChunk (chunk : Json) : Py Chunk := do
  let id ← chunk.get "id"
  let model ← chunk.get "model"
  let created ← chunk.get "created"
  let choices := (← chunk.get "choices").or (.arr [])
  if choices.truthy then
    let choice ← choices.first
    let delta := (← choice.get "delta").or (.obj [])
    let role ← delta.get "role"
    let content ← textOf (← delta.get "content")
    let toolCalls ← readToolCalls (← ((← delta.get "tool_calls").or (.arr [])).iter)
    let finishReason ← choice.get "finish_reason"
    return ⟨id, model, created, role, content, toolCalls, finishReason⟩
  else return { id, model, created }

def readChunks : List Json → Py (List Chunk)
  | [] => .ok []
  | chunk :: chunks => do
      let read ← readChunk chunk
      return read :: (← readChunks chunks)

structure ToolCallSlot where
  id : Json
  name : String
  arguments : String

def ToolCallSlot.empty : ToolCallSlot := ⟨.null, "", ""⟩

def ToolCallSlot.extend (slot : ToolCallSlot) (call : ToolCallDelta) : ToolCallSlot :=
  ⟨call.id.or slot.id, slot.name ++ call.name, slot.arguments ++ call.arguments⟩

def ToolCallSlot.toJson (slot : ToolCallSlot) : Json :=
  .obj
    [("id", slot.id),
     ("type", .str "function"),
     ("function", .obj [("name", .str slot.name), ("arguments", .str slot.arguments)])]

/-- `tool_calls.setdefault(idx, ...)` and the updates of that slot. -/
def addCall : List (Key × ToolCallSlot) → ToolCallDelta → List (Key × ToolCallSlot)
  | [], call => [(call.index, ToolCallSlot.empty.extend call)]
  | (k, slot) :: slots, call =>
      if k = call.index then (k, slot.extend call) :: slots else (k, slot) :: addCall slots call

/-- The variables of the loop. -/
structure Reassembly where
  role : Json := .str "assistant"
  content : String := ""
  toolCalls : List (Key × ToolCallSlot) := []
  finishReason : Json := .null
  id : Json := .null
  model : Json := .null
  created : Json := .null

def Reassembly.add (s : Reassembly) (chunk : Chunk) : Reassembly where
  role := chunk.role.or s.role
  content := s.content ++ chunk.content
  toolCalls := chunk.toolCalls.foldl addCall s.toolCalls
  finishReason := chunk.finishReason.or s.finishReason
  id := s.id.or chunk.id
  model := s.model.or chunk.model
  created := s.created.or chunk.created

def messageOf (role content : Json) (slots : List ToolCallSlot) : Json :=
  .obj ([("role", role), ("content", content)] ++
    if slots.isEmpty then [] else [("tool_calls", .arr (slots.map ToolCallSlot.toJson))])

/-- A `chat.completion` object with one choice. -/
structure Completion where
  id : Json
  created : Json
  model : Json
  role : Json
  content : Json
  slots : List ToolCallSlot
  finishReason : Json

def Completion.toJson (c : Completion) : Json :=
  .obj
    [("id", c.id),
     ("object", .str "chat.completion"),
     ("created", c.created),
     ("model", c.model),
     ("choices", .arr
       [.obj
         [("index", .int 0),
          ("message", messageOf c.role c.content c.slots),
          ("finish_reason", c.finishReason)]])]

def Reassembly.response (s : Reassembly) : Py Completion := do
  return {
    id := s.id
    created := s.created
    model := s.model
    role := s.role
    content := if s.content = "" then .null else .str s.content
    slots := ← sortedValues s.toolCalls
    finishReason := s.finishReason }

def reassembleStreamedResponse (chunks : List Json) : Py Json := do
  let read ← readChunks chunks
  let response ← (read.foldl Reassembly.add {}).response
  return response.toJson

/-! ## The copy for the caller -/

inductive Transform where
  | contentDroppedWithToolCalls
  | toolCallIdMinted
deriving DecidableEq

def Transform.name : Transform → String
  | .contentDroppedWithToolCalls => "content_dropped_with_tool_calls"
  | .toolCallIdMinted => "tool_call_id_minted"

/-- What `build_forwarded_copy` collects beside the copy, with the number of
`uuid4` values drawn so far. -/
structure ForwardLog where
  transforms : List Transform := []
  upstreamToolCallIds : List Json := []
  minted : ℕ := 0

def ForwardLog.note (log : ForwardLog) (t : Transform) : ForwardLog :=
  if t ∈ log.transforms then log else { log with transforms := log.transforms ++ [t] }

def mintedId (hex : String) : String := "call_" ++ String.ofList (hex.toList.take 24)

section Forward

-- the supply of `uuid.uuid4().hex`
variable (uuids : ℕ → String)

def forwardToolCalls : List Json → ForwardLog → Py (List Json × ForwardLog)
  | [], log => .ok ([], log)
  | .obj members :: tcs, log => do
      let id := (members.lookup "id").getD .null
      if id.truthy then
        let (rest, log) ← forwardToolCalls tcs
          { log with upstreamToolCallIds := log.upstreamToolCallIds ++ [id] }
        return (.obj members :: rest, log)
      else
        let (rest, log') ← forwardToolCalls tcs
          ({ log with minted := log.minted + 1 }.note .toolCallIdMinted)
        return (.obj (Json.setMember "id" (.str (mintedId (uuids log.minted))) members) :: rest,
          log')
  | _ :: _, _ => .error .attributeError

/-- One round of the loop over the choices.  A choice without message is left alone:
the loop then works on a fresh dictionary. -/
def forwardChoice (choice : Json) (log : ForwardLog) : Py (Json × ForwardLog) := do
  match ← choice.getD "message" (.obj []), choice with
  | .obj message, .obj members =>
      let toolCalls := (message.lookup "tool_calls").getD .null
      let content := (message.lookup "content").getD .null
      let drop := toolCalls.truthy && content.truthy
      let message := if drop then Json.setMember "content" .null message else message
      let log := if drop then log.note .contentDroppedWithToolCalls else log
      if toolCalls.truthy then
        let (calls, log) ← forwardToolCalls uuids (← toolCalls.iter) log
        return (.obj (Json.setMember "message"
          (.obj (Json.setMember "tool_calls" (.arr calls) message)) members), log)
      else return (choice, log)
  | _, _ => throw .attributeError

def forwardChoices : List Json → ForwardLog → Py (List Json × ForwardLog)
  | [], log => .ok ([], log)
  | choice :: choices, log => do
      let (choice, log) ← forwardChoice uuids choice log
      let (rest, log) ← forwardChoices choices log
      return (choice :: rest, log)

def buildForwardedCopy (response : Json) : Py (Json × ForwardLog) := do
  let choices ← (← response.getD "choices" (.arr [])).iter
  let (choices, log) ← forwardChoices uuids choices {}
  match response with
  | .obj members =>
      if choices.isEmpty then return (response, log)
      else return (.obj (Json.setMember "choices" (.arr choices) members), log)
  | _ => throw .attributeError

end Forward

/-- `forwarded_copy_record`. -/
def forwardedCopyRecord (digests : Digests) (forwarded : Json) (transforms : List Transform)
    (upstreamToolCallIds : List Json) : Json :=
  .obj
    [("transforms", .arr (transforms.map fun t => .str t.name)),
     ("digest", .ofStr? (safeDigestJson digests forwarded)),
     ("upstream_tool_call_ids", .arr upstreamToolCallIds)]

/-! ## The stream for the caller -/

/-- A line of an event stream, as its reader sorts it: a chunk, the end mark, or
anything that is skipped. -/
inductive SseLine where
  | data (chunk : Json)
  | done
  | other

/-- The chunks the streaming handler collects. -/
def readSse (lines : List SseLine) : List Json :=
  lines.filterMap fun line =>
    match line with
    | .data chunk => some chunk
    | _ => none

/-- One chunk of the synthesized stream. -/
def frame (id created model : Json) (delta : List (String × Json)) (finishReason : Json) : SseLine :=
  .data (.obj
    [("id", id),
     ("object", .str "chat.completion.chunk"),
     ("created", created),
     ("model", model),
     ("choices", .arr
       [.obj [("index", .int 0), ("delta", .obj delta), ("finish_reason", finishReason)]])])

/-- The `delta` of the tool call at position `i`. -/
def toolCallDelta (i : ℕ) (tc : Json) : Py (List (String × Json)) := do
  return [("tool_calls", .arr
    [.obj
      [("index", .int i),
       ("id", ← tc.get "id"),
       ("type", ← tc.getD "type" (.str "function")),
       ("function", ← tc.getD "function" (.obj []))]])]

def toolCallFrames (id created model : Json) : ℕ → List Json → Py (List SseLine)
  | _, [] => .ok []
  | i, tc :: tcs => do
      let delta ← toolCallDelta i tc
      return frame id created model delta .null :: (← toolCallFrames id created model (i + 1) tcs)

def synthesizeSse (response : Json) : Py (List SseLine) := do
  let choice ← ((← response.get "choices").or (.arr [.obj []])).first
  let message ← choice.getD "message" (.obj [])
  let id ← response.get "id"
  let created ← response.get "created"
  let model ← response.get "model"
  let role ← message.getD "role" (.str "assistant")
  let toolCalls ← message.get "tool_calls"
  let content ← message.get "content"
  let finishReason ← choice.get "finish_reason"
  let frames ← toolCallFrames id created model 0 (← (toolCalls.or (.arr [])).iter)
  let body :=
    if toolCalls.truthy then frames
    else if content.truthy then [frame id created model [("content", content)] .null]
    else []
  return frame id created model [("role", role)] .null :: body ++
    [frame id created model [] finishReason, .done]

/-! ## What reassembly yields -/

/-- The slots that the sorted values come from. -/
theorem sortedValues_perm {α : Type} {entries : List (Key × α)} {values : List α}
    (h : sortedValues entries = .ok values) : values.Perm (entries.map Prod.snd) := by
  have hsub : ∀ {β : Type} (f : Key → Option β) (es : List (Key × α)),
      (es.filterMap fun e => (f e.1).map fun b => (b, e.2)).length = es.length →
      (es.filterMap fun e => (f e.1).map fun b => (b, e.2)).map Prod.snd = es.map Prod.snd := by
    intro β f es
    induction es with
    | nil => intro _; rfl
    | cons e es ih =>
        intro hlength
        have hle := List.length_filterMap_le (fun e : Key × α => (f e.1).map fun b => (b, e.2)) es
        cases hf : f e.1 with
        | none =>
          simp [hf] at hlength
          omega
        | some b =>
          simp only [List.filterMap_cons, hf, Option.map_some, List.length_cons,
            Nat.add_right_cancel_iff] at hlength
          simp [hf, ih hlength]
  unfold sortedValues at h
  simp only at h
  split_ifs at h with hshort hnum hnamed
  · obtain rfl := Except.ok.inj h
    exact List.Perm.refl _
  · obtain rfl := Except.ok.inj h
    rw [← hsub _ _ hnum]
    exact (List.perm_insertionSort _ _).map _
  · obtain rfl := Except.ok.inj h
    rw [← hsub _ _ hnamed]
    exact (List.perm_insertionSort _ _).map _

theorem ToolCallSlot.extend_id_truthy (slot : ToolCallSlot) (call : ToolCallDelta) :
    (slot.extend call).id.truthy = true ↔ call.id.truthy = true ∨ slot.id.truthy = true :=
  Json.truthy_or

theorem keys_addCall (slots : List (Key × ToolCallSlot)) (call : ToolCallDelta) :
    (addCall slots call).map Prod.fst =
      if call.index ∈ slots.map Prod.fst then slots.map Prod.fst
      else slots.map Prod.fst ++ [call.index] := by
  induction slots with
  | nil => rfl
  | cons e slots ih =>
      obtain ⟨k, slot⟩ := e
      by_cases hk : k = call.index
      · simp [addCall, hk]
      · have hk' : call.index ≠ k := fun h => hk h.symm
        simp only [addCall, hk, if_false, List.map_cons, ih, List.mem_cons, hk', false_or]
        split_ifs <;> rfl

theorem mem_addCall {slots : List (Key × ToolCallSlot)} {call : ToolCallDelta}
    {e : Key × ToolCallSlot} (h : e ∈ addCall slots call) :
    e ∈ slots ∨ e.1 = call.index ∧
      ∃ old, (old = .empty ∨ (call.index, old) ∈ slots) ∧ e.2 = old.extend call := by
  induction slots with
  | nil =>
      obtain rfl := List.mem_singleton.mp h
      exact .inr ⟨rfl, .empty, .inl rfl, rfl⟩
  | cons d slots ih =>
      obtain ⟨k, slot⟩ := d
      by_cases hk : k = call.index
      · simp only [addCall, hk, if_true] at h
        rcases List.mem_cons.mp h with rfl | h
        · exact .inr ⟨rfl, slot, .inr (by simp [hk]), rfl⟩
        · exact .inl (List.mem_cons_of_mem _ h)
      · simp only [addCall, hk, if_false] at h
        rcases List.mem_cons.mp h with rfl | h
        · exact .inl (by simp)
        · rcases ih h with h | ⟨he, old, hold, hext⟩
          · exact .inl (List.mem_cons_of_mem _ h)
          · exact .inr ⟨he, old, hold.imp_right (List.mem_cons_of_mem _), hext⟩

/-- Every slot survives with its id, and the slot of the call has the call's id when
there is one. -/
theorem addCall_covers (slots : List (Key × ToolCallSlot)) (call : ToolCallDelta) :
    (∀ e ∈ slots, ∃ e' ∈ addCall slots call,
      e'.1 = e.1 ∧ (e.2.id.truthy = true → e'.2.id.truthy = true)) ∧
    ∃ e ∈ addCall slots call,
      e.1 = call.index ∧ (call.id.truthy = true → e.2.id.truthy = true) := by
  induction slots with
  | nil =>
      refine ⟨by simp, _, List.mem_singleton_self _, rfl, fun h => ?_⟩
      exact (ToolCallSlot.extend_id_truthy _ _).mpr (.inl h)
  | cons d slots ih =>
      obtain ⟨k, slot⟩ := d
      by_cases hk : k = call.index
      · have haddCall : addCall ((k, slot) :: slots) call = (k, slot.extend call) :: slots := by
          simp [addCall, hk]
        rw [haddCall]
        refine ⟨?_, _, List.mem_cons_self, hk, fun h => ?_⟩
        · intro e he
          rcases List.mem_cons.mp he with rfl | he
          · refine ⟨_, List.mem_cons_self, rfl, fun h => ?_⟩
            exact (ToolCallSlot.extend_id_truthy _ _).mpr (.inr h)
          · exact ⟨e, List.mem_cons_of_mem _ he, rfl, id⟩
        · exact (ToolCallSlot.extend_id_truthy _ _).mpr (.inl h)
      · have haddCall : addCall ((k, slot) :: slots) call = (k, slot) :: addCall slots call := by
          simp [addCall, hk]
        obtain ⟨hkeep, e', he', hindex, hid⟩ := ih
        rw [haddCall]
        refine ⟨?_, e', List.mem_cons_of_mem _ he', hindex, hid⟩
        intro e he
        rcases List.mem_cons.mp he with rfl | he
        · exact ⟨_, List.mem_cons_self, rfl, id⟩
        · obtain ⟨e', he', heq⟩ := hkeep e he
          exact ⟨e', List.mem_cons_of_mem _ he', heq⟩

/-- The slots that a sequence of tool-call deltas fills: one for each index, with an
id exactly when some delta of that index brought one. -/
structure SlotsOf (calls : List ToolCallDelta) (slots : List (Key × ToolCallSlot)) : Prop where
  nodup : (slots.map Prod.fst).Nodup
  idNull : ∀ e ∈ slots, e.2.id = .null ∨ e.2.id.truthy = true
  covers : ∀ call ∈ calls, ∃ e ∈ slots,
    e.1 = call.index ∧ (call.id.truthy = true → e.2.id.truthy = true)
  source : ∀ e ∈ slots, ∃ call ∈ calls,
    call.index = e.1 ∧ (e.2.id.truthy = true → call.id.truthy = true)

theorem SlotsOf.addCall {calls : List ToolCallDelta} {slots : List (Key × ToolCallSlot)}
    (h : SlotsOf calls slots) (call : ToolCallDelta) :
    SlotsOf (calls ++ [call]) (Sidecar.addCall slots call) where
  nodup := by
    rw [keys_addCall]
    split_ifs with hmem
    · exact h.nodup
    · exact h.nodup.append (List.nodup_singleton _) (by simpa using hmem)
  idNull e he := by
    rcases mem_addCall he with he | ⟨-, old, hold, hext⟩
    · exact h.idNull e he
    · have hnull : old.id = .null ∨ old.id.truthy = true := by
        rcases hold with rfl | hold
        · exact .inl rfl
        · exact h.idNull _ hold
      rw [hext]
      cases hid : call.id.truthy with
      | true => exact .inr ((ToolCallSlot.extend_id_truthy _ _).mpr (.inl hid))
      | false =>
        rw [ToolCallSlot.extend, Json.or_of_falsy hid]
        exact hnull
  covers d hd := by
    rcases List.mem_append.mp hd with hd | hd
    · obtain ⟨e, he, hindex, hid⟩ := h.covers d hd
      obtain ⟨e', he', hkey, hid'⟩ := (addCall_covers slots call).1 e he
      exact ⟨e', he', hkey.trans hindex, hid' ∘ hid⟩
    · obtain rfl := List.mem_singleton.mp hd
      exact (addCall_covers slots d).2
  source e he := by
    rcases mem_addCall he with he | ⟨hindex, old, hold, hext⟩
    · obtain ⟨d, hd, hkey, hid⟩ := h.source e he
      exact ⟨d, List.mem_append_left _ hd, hkey, hid⟩
    · by_cases hid : call.id.truthy = true
      · exact ⟨call, by simp, hindex.symm, fun _ => hid⟩
      · rcases hold with rfl | hold
        · refine ⟨call, by simp, hindex.symm, fun htruthy => ?_⟩
          rw [hext, ToolCallSlot.extend_id_truthy] at htruthy
          exact htruthy.resolve_right (by simp [ToolCallSlot.empty])
        · obtain ⟨d, hd, hkey, hid'⟩ := h.source _ hold
          refine ⟨d, List.mem_append_left _ hd, hkey.trans hindex.symm, fun htruthy => hid' ?_⟩
          rw [hext, ToolCallSlot.extend_id_truthy] at htruthy
          exact htruthy.resolve_left hid

theorem slotsOf_foldl (calls : List ToolCallDelta) :
    SlotsOf calls (calls.foldl Sidecar.addCall []) := by
  induction calls using List.reverseRecOn with
  | nil => exact ⟨List.nodup_nil, by simp, by simp, by simp⟩
  | append_singleton calls call ih =>
      rw [List.foldl_append]
      exact ih.addCall call

/-- All slots have an id exactly when every index was given one. -/
theorem SlotsOf.forall_truthy_iff {calls : List ToolCallDelta}
    {slots : List (Key × ToolCallSlot)} (h : SlotsOf calls slots) :
    (∀ e ∈ slots, e.2.id.truthy = true) ↔
      ∀ call ∈ calls, ∃ call' ∈ calls, call'.index = call.index ∧ call'.id.truthy = true := by
  constructor
  · intro hall call hcall
    obtain ⟨e, he, hindex, -⟩ := h.covers call hcall
    obtain ⟨call', hcall', hindex', hid⟩ := h.source e he
    exact ⟨call', hcall', hindex'.trans hindex, hid (hall e he)⟩
  · intro hall e he
    obtain ⟨call, hcall, hindex, -⟩ := h.source e he
    obtain ⟨call', hcall', hindex', hid⟩ := hall call hcall
    obtain ⟨e', he', hkey, hid'⟩ := h.covers call' hcall'
    have heq : e' = e :=
      List.inj_on_of_nodup_map h.nodup he' he (hkey.trans (hindex'.trans hindex))
    exact heq ▸ hid' hid

def toolCallDeltas (read : List Chunk) : List ToolCallDelta := read.flatMap Chunk.toolCalls

theorem foldl_add_toolCalls (read : List Chunk) (s : Reassembly) :
    (read.foldl Reassembly.add s).toolCalls =
      (toolCallDeltas read).foldl Sidecar.addCall s.toolCalls := by
  induction read generalizing s with
  | nil => rfl
  | cons chunk read ih =>
      have hcons : toolCallDeltas (chunk :: read) = chunk.toolCalls ++ toolCallDeltas read := rfl
      rw [List.foldl_cons, ih, hcons, List.foldl_append]
      rfl

theorem foldl_add_content_eq_empty (read : List Chunk) (s : Reassembly) :
    (read.foldl Reassembly.add s).content = "" ↔
      s.content = "" ∧ ∀ chunk ∈ read, chunk.content = "" := by
  induction read generalizing s with
  | nil => simp
  | cons chunk read ih =>
      rw [List.foldl_cons, ih]
      simp [Reassembly.add, String.append_eq_empty_iff, and_assoc]

/-- What every reassembled completion satisfies. -/
structure Completion.Tidy (c : Completion) : Prop where
  role : c.role.truthy = true
  content : c.content = .null ∨ ∃ text, text ≠ "" ∧ c.content = .str text
  finishReason : c.finishReason = .null ∨ c.finishReason.truthy = true
  slots : ∀ slot ∈ c.slots, slot.id = .null ∨ slot.id.truthy = true

theorem foldl_add_tidy (read : List Chunk) (s : Reassembly) (hrole : s.role.truthy = true)
    (hfinish : s.finishReason = .null ∨ s.finishReason.truthy = true) :
    (read.foldl Reassembly.add s).role.truthy = true ∧
      ((read.foldl Reassembly.add s).finishReason = .null ∨
        (read.foldl Reassembly.add s).finishReason.truthy = true) := by
  induction read generalizing s with
  | nil => exact ⟨hrole, hfinish⟩
  | cons chunk read ih =>
      rw [List.foldl_cons]
      refine ih _ (Json.truthy_or.mpr (.inr hrole)) ?_
      cases h : chunk.finishReason.truthy with
      | true => exact .inr (Json.truthy_or.mpr (.inl h))
      | false =>
        rw [Reassembly.add, Json.or_of_falsy h]
        exact hfinish

/-- The upstream stream needs no change for its caller: it does not carry both tool
calls and content, and every tool call has an id in one of its deltas. -/
def NeedsNoTransform (read : List Chunk) : Prop :=
  (toolCallDeltas read = [] ∨ ∀ chunk ∈ read, chunk.content = "") ∧
  ∀ call ∈ toolCallDeltas read, ∃ call' ∈ toolCallDeltas read,
    call'.index = call.index ∧ call'.id.truthy = true

/-- A reassembled completion, and how its content and its tool calls show what the
chunks carried. -/
theorem reassembleStreamedResponse_ok {chunks : List Json} {response : Json}
    (h : reassembleStreamedResponse chunks = .ok response) :
    ∃ (read : List Chunk) (c : Completion), readChunks chunks = .ok read ∧ response = c.toJson ∧ c.Tidy ∧
      (NeedsNoTransform read ↔
        (c.slots = [] ∨ c.content = .null) ∧ ∀ slot ∈ c.slots, slot.id.truthy = true) := by
  simp only [reassembleStreamedResponse, Py.bind_eq_ok] at h
  obtain ⟨read, hread, c, hresponse, h⟩ := h
  obtain rfl := Except.ok.inj h
  simp only [Reassembly.response, Py.bind_eq_ok] at hresponse
  obtain ⟨slots, hsorted, h⟩ := hresponse
  obtain rfl := Except.ok.inj h
  have hslots : SlotsOf (toolCallDeltas read) (read.foldl Reassembly.add {}).toolCalls := by
    rw [foldl_add_toolCalls]
    exact slotsOf_foldl _
  have hperm := sortedValues_perm hsorted
  have hforall : ∀ P : ToolCallSlot → Prop,
      (∀ slot ∈ slots, P slot) ↔ ∀ e ∈ (read.foldl Reassembly.add {}).toolCalls, P e.2 := by
    intro P
    simp only [hperm.mem_iff, List.forall_mem_map]
  have hempty : slots = [] ↔ toolCallDeltas read = [] := by
    constructor
    · rintro rfl
      have hnil : (read.foldl Reassembly.add {}).toolCalls = [] := by
        simpa using hperm.symm.eq_nil
      rw [List.eq_nil_iff_forall_not_mem]
      intro call hcall
      obtain ⟨e, he, -⟩ := hslots.covers call hcall
      simp [hnil] at he
    · intro hnil
      rw [hnil] at hslots
      rw [List.eq_nil_iff_forall_not_mem]
      intro slot hslot
      obtain ⟨e, he, -⟩ := List.mem_map.mp (hperm.mem_iff.mp hslot)
      obtain ⟨call, hcall, -⟩ := hslots.source e he
      cases hcall
  have htidy := foldl_add_tidy read {} rfl (.inl rfl)
  have hcontent := foldl_add_content_eq_empty read {}
  refine ⟨read, _, hread, rfl, ⟨htidy.1, ?_, htidy.2, ?_⟩, ?_⟩
  · by_cases hc : (read.foldl Reassembly.add {}).content = ""
    · exact .inl (by simp [hc])
    · exact .inr ⟨_, hc, by simp [hc]⟩
  · exact (hforall _).mpr hslots.idNull
  · rw [NeedsNoTransform, ← hslots.forall_truthy_iff, ← hempty]
    have hnull : (if (read.foldl Reassembly.add {}).content = "" then Json.null
        else .str (read.foldl Reassembly.add {}).content) = .null ↔
        ∀ chunk ∈ read, chunk.content = "" := by
      rw [← show _ ↔ _ from hcontent.trans (and_iff_right rfl)]
      split_ifs with hc <;> simp [hc]
    simp only [hnull, hforall fun slot => slot.id.truthy = true]

end CapsuleMesh.Sidecar
