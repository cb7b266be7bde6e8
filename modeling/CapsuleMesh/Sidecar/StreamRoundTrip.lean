import CapsuleMesh.Sidecar.Streaming

/-!
# A response through the synthesized stream

The copy that `build_forwarded_copy` makes of a reassembled completion, the chunks
`synthesize_sse` writes for it, and what the next sidecar reassembles from them:
that same copy.
-/

namespace CapsuleMesh.Sidecar

open Python

/-! ## The copy of a completion -/

/-- The slots of the forwarded copy: missing ids are minted in order. -/
def mintSlots (uuids : ℕ → String) : ℕ → List ToolCallSlot → List ToolCallSlot
  | _, [] => []
  | n, slot :: slots =>
      if slot.id.truthy then slot :: mintSlots uuids n slots
      else { slot with id := .str (mintedId (uuids n)) } :: mintSlots uuids (n + 1) slots

def Completion.forwarded (uuids : ℕ → String) (c : Completion) : Completion :=
  { c with
    content := if c.slots.isEmpty then c.content else .null
    slots := mintSlots uuids 0 c.slots }

theorem forwardToolCalls_slots (uuids : ℕ → String) (slots : List ToolCallSlot)
    (log : ForwardLog) :
    ∃ log', forwardToolCalls uuids (slots.map ToolCallSlot.toJson) log =
      .ok ((mintSlots uuids log.minted slots).map ToolCallSlot.toJson, log') := by
  induction slots generalizing log with
  | nil => exact ⟨log, rfl⟩
  | cons slot slots ih =>
      have hlookup : (List.lookup "id"
          [("id", slot.id), ("type", .str "function"),
           ("function", .obj [("name", .str slot.name), ("arguments", .str slot.arguments)])]).getD
          .null = slot.id := rfl
      cases hid : slot.id.truthy with
      | true =>
        obtain ⟨log', hrest⟩ := ih { log with
          upstreamToolCallIds := log.upstreamToolCallIds ++ [slot.id] }
        refine ⟨log', ?_⟩
        rw [List.map_cons, ToolCallSlot.toJson, forwardToolCalls]
        simp only [hlookup, hid, if_true, hrest, Py.ok_bind, mintSlots]
        rfl
      | false =>
        have hminted : ({ log with minted := log.minted + 1 }.note .toolCallIdMinted).minted =
            log.minted + 1 := by
          unfold ForwardLog.note
          split_ifs <;> rfl
        obtain ⟨log', hrest⟩ := ih ({ log with minted := log.minted + 1 }.note .toolCallIdMinted)
        refine ⟨log', ?_⟩
        rw [hminted] at hrest
        rw [List.map_cons, ToolCallSlot.toJson, forwardToolCalls]
        simp only [hlookup, hid, hrest, Py.ok_bind, mintSlots]
        rfl

theorem mintSlots_isEmpty (uuids : ℕ → String) (n : ℕ) (slots : List ToolCallSlot) :
    (mintSlots uuids n slots).isEmpty = slots.isEmpty := by
  cases slots with
  | nil => rfl
  | cons slot slots =>
      unfold mintSlots
      split_ifs <;> rfl

theorem mintSlots_truthy (uuids : ℕ → String) (n : ℕ) (slots : List ToolCallSlot) :
    ∀ slot ∈ mintSlots uuids n slots, slot.id.truthy = true := by
  induction slots generalizing n with
  | nil => simp [mintSlots]
  | cons slot slots ih =>
      intro slot' hslot'
      unfold mintSlots at hslot'
      split_ifs at hslot' with hid
      · rcases List.mem_cons.mp hslot' with rfl | hslot'
        · exact hid
        · exact ih n slot' hslot'
      · rcases List.mem_cons.mp hslot' with rfl | hslot'
        · simp [mintedId]
        · exact ih (n + 1) slot' hslot'

theorem forwardChoice_message (uuids : ℕ → String) (log : ForwardLog) (role finish : Json)
    {content : Json} {slots : List ToolCallSlot} (hslots : slots ≠ [])
    (hcontent : content = .null ∨ content.truthy = true) :
    ∃ log', forwardChoice uuids (.obj
        [("index", .int 0), ("message", messageOf role content slots), ("finish_reason", finish)])
        log =
      .ok (.obj
        [("index", .int 0), ("message", messageOf role .null (mintSlots uuids log.minted slots)),
         ("finish_reason", finish)], log') := by
  have hempty : slots.isEmpty = false := by simpa using hslots
  have htruthy : (Json.arr (slots.map ToolCallSlot.toJson)).truthy = true := by
    simpa using hslots
  have hmessage : ∀ content, messageOf role content slots = .obj
      [("role", role), ("content", content),
       ("tool_calls", .arr (slots.map ToolCallSlot.toJson))] := by
    intro content
    simp [messageOf, hempty]
  have hminted : messageOf role .null (mintSlots uuids log.minted slots) = .obj
      [("role", role), ("content", .null),
       ("tool_calls", .arr ((mintSlots uuids log.minted slots).map ToolCallSlot.toJson))] := by
    simp [messageOf, mintSlots_isEmpty, hempty]
  have hnote : (log.note .contentDroppedWithToolCalls).minted = log.minted := by
    unfold ForwardLog.note
    split_ifs <;> rfl
  rw [hmessage, hminted]
  rcases hcontent with rfl | hcontent
  · obtain ⟨log', hcalls⟩ := forwardToolCalls_slots uuids slots log
    refine ⟨log', ?_⟩
    simp [forwardChoice, List.lookup_cons, htruthy, Json.iter, hcalls, Json.setMember]
  · obtain ⟨log', hcalls⟩ :=
      forwardToolCalls_slots uuids slots (log.note .contentDroppedWithToolCalls)
    rw [hnote] at hcalls
    refine ⟨log', ?_⟩
    simp [forwardChoice, List.lookup_cons, htruthy, hcontent, Json.iter, hcalls, Json.setMember]

/-- The copy of a reassembled completion. -/
theorem buildForwardedCopy_completion (uuids : ℕ → String) {c : Completion} (h : c.Tidy) :
    ∃ log, buildForwardedCopy uuids c.toJson = .ok ((c.forwarded uuids).toJson, log) := by
  cases hslots : c.slots with
  | nil =>
      refine ⟨{}, ?_⟩
      simp only [Completion.toJson, Completion.forwarded, hslots]
      rfl
  | cons slot slots =>
      have hcontent : c.content = .null ∨ c.content.truthy = true := by
        refine h.content.imp_right ?_
        rintro ⟨text, hne, htext⟩
        simpa [htext] using hne
      obtain ⟨log', hchoice⟩ := forwardChoice_message uuids {} c.role c.finishReason
        (List.cons_ne_nil slot slots) hcontent
      refine ⟨log', ?_⟩
      simp only [Completion.toJson, Completion.forwarded, hslots, buildForwardedCopy]
      simp [hchoice, forwardChoices, List.lookup_cons, Json.iter, Json.setMember]

theorem Completion.Tidy.forwarded {c : Completion} (h : c.Tidy) (uuids : ℕ → String) :
    (c.forwarded uuids).Tidy where
  role := h.role
  content := by
    by_cases hslots : c.slots.isEmpty = true
    · simpa [Completion.forwarded, hslots] using h.content
    · exact .inl (by simp [Completion.forwarded, hslots])
  finishReason := h.finishReason
  slots slot hslot := .inr (mintSlots_truthy uuids 0 c.slots slot hslot)

theorem Completion.forwarded_slots_or_content (uuids : ℕ → String) (c : Completion) :
    (c.forwarded uuids).slots = [] ∨ (c.forwarded uuids).content = .null := by
  cases hslots : c.slots with
  | nil => exact .inl (by simp [Completion.forwarded, hslots, mintSlots])
  | cons slot slots => exact .inr (by simp [Completion.forwarded, hslots])

/-! ## Reading the synthesized stream back -/

def slotFrames (c : Completion) : ℕ → List ToolCallSlot → List SseLine
  | _, [] => []
  | n, slot :: slots =>
      frame c.id c.created c.model
        [("tool_calls", .arr
          [.obj
            [("index", .int n),
             ("id", slot.id),
             ("type", .str "function"),
             ("function", .obj [("name", .str slot.name), ("arguments", .str slot.arguments)])]])]
        .null :: slotFrames c (n + 1) slots

theorem toolCallFrames_slots (c : Completion) (n : ℕ) (slots : List ToolCallSlot) :
    toolCallFrames c.id c.created c.model n (slots.map ToolCallSlot.toJson) =
      .ok (slotFrames c n slots) := by
  induction slots generalizing n with
  | nil => rfl
  | cons slot slots ih =>
      have hdelta : toolCallDelta n slot.toJson = .ok
          [("tool_calls", .arr
            [.obj
              [("index", .int n),
               ("id", slot.id),
               ("type", .str "function"),
               ("function",
                 .obj [("name", .str slot.name), ("arguments", .str slot.arguments)])]])] := rfl
      simp only [List.map_cons, toolCallFrames, hdelta, ih, Py.ok_bind]
      rfl

def bodyFrames (c : Completion) : List SseLine :=
  if c.slots.isEmpty then
    if c.content.truthy then [frame c.id c.created c.model [("content", c.content)] .null] else []
  else slotFrames c 0 c.slots

theorem synthesizeSse_completion (c : Completion) :
    synthesizeSse c.toJson = .ok (frame c.id c.created c.model [("role", c.role)] .null ::
      bodyFrames c ++ [frame c.id c.created c.model [] c.finishReason, .done]) := by
  cases hslots : c.slots with
  | nil =>
      simp [synthesizeSse, Completion.toJson, bodyFrames, hslots, messageOf, List.lookup_cons,
        Json.first, Json.or, Json.iter, toolCallFrames]
  | cons slot slots =>
      have hframes := toolCallFrames_slots c 0 (slot :: slots)
      simp only [List.map_cons] at hframes
      simp [synthesizeSse, Completion.toJson, bodyFrames, hslots, messageOf, List.lookup_cons,
        Json.first, Json.or, Json.iter, hframes]

/-- What the reader makes of the frames of tool calls. -/
def slotChunks (c : Completion) : ℕ → List ToolCallSlot → List Chunk
  | _, [] => []
  | n, slot :: slots =>
      { id := c.id, model := c.model, created := c.created,
        toolCalls := [⟨.int n, slot.id, slot.name, slot.arguments⟩] } ::
        slotChunks c (n + 1) slots

theorem textOf_str (s : String) : textOf (.str s) = .ok s := by
  by_cases hs : s = "" <;> simp [textOf, hs]

theorem readChunks_append {xs ys : List Json} {as bs : List Chunk} (hxs : readChunks xs = .ok as)
    (hys : readChunks ys = .ok bs) : readChunks (xs ++ ys) = .ok (as ++ bs) := by
  induction xs generalizing as with
  | nil =>
      obtain rfl := Except.ok.inj hxs
      exact hys
  | cons x xs ih =>
      simp only [readChunks, Py.bind_eq_ok] at hxs
      obtain ⟨read, hread, rest, hrest, h⟩ := hxs
      obtain rfl := Except.ok.inj h
      simp [readChunks, hread, ih hrest]

theorem readChunks_slotFrames (c : Completion) (n : ℕ) (slots : List ToolCallSlot) :
    readChunks (readSse (slotFrames c n slots)) = .ok (slotChunks c n slots) := by
  induction slots generalizing n with
  | nil => rfl
  | cons slot slots ih =>
      have hcall : readToolCall (.obj
          [("index", .int n), ("id", slot.id), ("type", .str "function"),
           ("function", .obj [("name", .str slot.name), ("arguments", .str slot.arguments)])]) =
          .ok ⟨.int n, slot.id, slot.name, slot.arguments⟩ := by
        simp [readToolCall, List.lookup_cons, Json.key, Json.asInt, textOf_str]
      have hchunk : readChunks (readSse (slotFrames c n (slot :: slots))) = do
          let read ← readChunk (.obj
            [("id", c.id), ("object", .str "chat.completion.chunk"), ("created", c.created),
             ("model", c.model), ("choices", .arr [.obj [("index", .int 0),
               ("delta", .obj [("tool_calls", .arr [.obj
                 [("index", .int n), ("id", slot.id), ("type", .str "function"),
                  ("function",
                    .obj [("name", .str slot.name), ("arguments", .str slot.arguments)])]])]),
               ("finish_reason", .null)]])])
          return read :: (← readChunks (readSse (slotFrames c (n + 1) slots))) := rfl
      rw [hchunk, ih]
      simp [readChunk, List.lookup_cons, Json.or, Json.first, Json.iter, textOf, readToolCalls, hcall,
        slotChunks]

/-- The chunks of the whole synthesized stream. -/
def completionChunks (c : Completion) : List Chunk :=
  { id := c.id, model := c.model, created := c.created, role := c.role } ::
    (if c.slots.isEmpty then
      if c.content.truthy then
        [{ id := c.id, model := c.model, created := c.created, content := c.content.str?.getD "" }]
      else []
    else slotChunks c 0 c.slots) ++
    [{ id := c.id, model := c.model, created := c.created, finishReason := c.finishReason }]

theorem readChunks_synthesized {c : Completion} (h : c.Tidy) {lines : List SseLine}
    (hlines : synthesizeSse c.toJson = .ok lines) :
    readChunks (readSse lines) = .ok (completionChunks c) := by
  rw [synthesizeSse_completion] at hlines
  obtain rfl := Except.ok.inj hlines
  have hbody : readChunks (readSse (bodyFrames c)) = .ok
      (if c.slots.isEmpty then
        if c.content.truthy then
          [{ id := c.id, model := c.model, created := c.created,
             content := c.content.str?.getD "" }]
        else []
      else slotChunks c 0 c.slots) := by
    unfold bodyFrames
    split_ifs with hslots hcontent
    · rcases h.content with hnull | ⟨text, hne, htext⟩
      · simp [hnull] at hcontent
      · simp [readSse, frame, readChunks, readChunk, List.lookup_cons, Json.or, Json.first, Json.iter,
          readToolCalls, htext, textOf_str, Json.str?]
    · rfl
    · exact readChunks_slotFrames c 0 c.slots
  have hrole : readChunks (readSse [frame c.id c.created c.model [("role", c.role)] .null]) =
      .ok [{ id := c.id, model := c.model, created := c.created, role := c.role }] := rfl
  have hfinish : readChunks (readSse [frame c.id c.created c.model [] c.finishReason, .done]) =
      .ok [{ id := c.id, model := c.model, created := c.created,
             finishReason := c.finishReason }] := rfl
  have happend : ∀ xs ys, readSse (xs ++ ys) = readSse xs ++ readSse ys := by
    intro xs ys
    exact List.filterMap_append
  rw [happend, ← List.singleton_append, happend]
  exact readChunks_append (readChunks_append hrole hbody) hfinish

def slotEntries : ℕ → List ToolCallSlot → List (Key × ToolCallSlot)
  | _, [] => []
  | n, slot :: slots => (.int n, slot) :: slotEntries (n + 1) slots

theorem addCall_fresh {slots : List (Key × ToolCallSlot)} {call : ToolCallDelta}
    (h : ∀ e ∈ slots, e.1 ≠ call.index) :
    Sidecar.addCall slots call = slots ++ [(call.index, ToolCallSlot.empty.extend call)] := by
  induction slots with
  | nil => rfl
  | cons e slots ih =>
      obtain ⟨k, slot⟩ := e
      have hk : k ≠ call.index := h (k, slot) List.mem_cons_self
      simp [Sidecar.addCall, hk, ih fun e he => h e (List.mem_cons_of_mem _ he)]

theorem foldl_addCall_slotChunks (c : Completion) (n : ℕ) (slots : List ToolCallSlot)
    (hids : ∀ slot ∈ slots, slot.id = .null ∨ slot.id.truthy = true)
    (acc : List (Key × ToolCallSlot)) (hacc : ∀ e ∈ acc, ∃ m : ℕ, m < n ∧ e.1 = .int m) :
    (toolCallDeltas (slotChunks c n slots)).foldl Sidecar.addCall acc =
      acc ++ slotEntries n slots := by
  induction slots generalizing n acc with
  | nil => simp [slotChunks, slotEntries, toolCallDeltas]
  | cons slot slots ih =>
      have hslot : ToolCallSlot.empty.extend ⟨.int n, slot.id, slot.name, slot.arguments⟩ =
          slot := by
        rcases hids slot List.mem_cons_self with hnull | hid
        · cases slot
          simp_all [ToolCallSlot.extend, ToolCallSlot.empty, Json.or]
        · simp [ToolCallSlot.extend, ToolCallSlot.empty, Json.or_of_truthy hid]
      have hfresh : ∀ e ∈ acc, e.1 ≠ Key.int n := by
        intro e he
        obtain ⟨m, hm, hkey⟩ := hacc e he
        rw [hkey]
        intro heq
        have := Int.ofNat.inj (Key.int.inj heq)
        omega
      have hdeltas : toolCallDeltas (slotChunks c n (slot :: slots)) =
          ⟨.int n, slot.id, slot.name, slot.arguments⟩ ::
            toolCallDeltas (slotChunks c (n + 1) slots) := rfl
      rw [hdeltas, List.foldl_cons, addCall_fresh hfresh, hslot,
        ih (n + 1) (fun s hs => hids s (List.mem_cons_of_mem _ hs))]
      · simp [slotEntries]
      · intro e he
        rcases List.mem_append.mp he with he | he
        · obtain ⟨m, hm, hkey⟩ := hacc e he
          exact ⟨m, by omega, hkey⟩
        · obtain rfl := List.mem_singleton.mp he
          exact ⟨n, by omega, rfl⟩

theorem map_snd_slotEntries (n : ℕ) (slots : List ToolCallSlot) :
    (slotEntries n slots).map Prod.snd = slots := by
  induction slots generalizing n with
  | nil => rfl
  | cons slot slots ih => simp [slotEntries, ih]

/-- Consecutive indices are already sorted. -/
theorem sortedValues_slotEntries (slots : List ToolCallSlot) :
    sortedValues (slotEntries 0 slots) = .ok slots := by
  have hnumbered : ∀ n (slots : List ToolCallSlot), (slotEntries n slots).filterMap (fun e =>
      (keyNumber e.1).map fun q => (q, e.2)) =
      (slotEntries n slots).map fun e => ((keyNumber e.1).getD 0, e.2) := by
    intro n slots
    induction slots generalizing n with
    | nil => rfl
    | cons slot slots ih =>
        have hkey : keyNumber (.int n) = some (n : ℚ) := by simp [keyNumber]
        simp [slotEntries, hkey, ih]
  have hbound : ∀ n (slots : List ToolCallSlot), ∀ e ∈ slotEntries n slots,
      (n : ℚ) ≤ (keyNumber e.1).getD 0 := by
    intro n slots
    induction slots generalizing n with
    | nil => simp [slotEntries]
    | cons slot slots ih =>
        intro e he
        rcases List.mem_cons.mp he with rfl | he
        · simp [keyNumber]
        · have hle := ih (n + 1) e he
          push_cast at hle
          exact (le_add_of_nonneg_right zero_le_one).trans hle
  have hsorted : ∀ n (slots : List ToolCallSlot),
      ((slotEntries n slots).map fun e => ((keyNumber e.1).getD 0, e.2)).Pairwise
        fun a b => a.1 ≤ b.1 := by
    intro n slots
    induction slots generalizing n with
    | nil => exact List.Pairwise.nil
    | cons slot slots ih =>
        refine List.pairwise_cons.mpr ⟨?_, ih (n + 1)⟩
        intro b hb
        obtain ⟨e, he, rfl⟩ := List.mem_map.mp hb
        have hle := hbound (n + 1) slots e he
        push_cast at hle
        simp only [keyNumber, Option.getD_some, Int.cast_natCast]
        exact (le_add_of_nonneg_right zero_le_one).trans hle
  unfold sortedValues
  simp only [hnumbered, List.length_map, if_true]
  rw [(hsorted 0 slots).insertionSort_eq, List.map_map]
  simp only [Function.comp_def, map_snd_slotEntries, ite_self]

/-- A chunk of one tool call changes nothing but the slots. -/
theorem foldl_add_slotChunks (c : Completion) (n : ℕ) (slots : List ToolCallSlot) (s : Reassembly)
    (hid : s.id = c.id) (hmodel : s.model = c.model) (hcreated : s.created = c.created) :
    (slotChunks c n slots).foldl Reassembly.add s =
      { s with
        toolCalls := (toolCallDeltas (slotChunks c n slots)).foldl Sidecar.addCall s.toolCalls } := by
  induction slots generalizing n s with
  | nil => rfl
  | cons slot slots ih =>
      have hadd : s.add
          { id := c.id, model := c.model, created := c.created,
            toolCalls := [⟨.int n, slot.id, slot.name, slot.arguments⟩] } =
          { s with
            toolCalls := Sidecar.addCall s.toolCalls
              ⟨.int n, slot.id, slot.name, slot.arguments⟩ } := by
        simp [Reassembly.add, hid, hmodel, hcreated, Json.or]
      rw [slotChunks, List.foldl_cons, hadd]
      exact ih (n + 1)
        { s with
          toolCalls := Sidecar.addCall s.toolCalls
            ⟨.int n, slot.id, slot.name, slot.arguments⟩ } hid hmodel hcreated

/-- Reading the synthesized stream of a completion gives the completion back. -/
theorem reassemble_synthesized {c : Completion} (h : c.Tidy)
    (hcontent : c.slots = [] ∨ c.content = .null) {lines : List SseLine}
    (hlines : synthesizeSse c.toJson = .ok lines) :
    reassembleStreamedResponse (readSse lines) = .ok c.toJson := by
  have hfinish : c.finishReason.or .null = c.finishReason := by
    rcases h.finishReason with hnull | htruthy
    · simp [hnull, Json.or]
    · exact Json.or_of_truthy htruthy _
  have hor : ∀ j : Json, j.or j = j := by
    intro j
    simp [Json.or]
  have hnullor : ∀ j : Json, Json.null.or j = j := fun _ => rfl
  have hrole := Json.or_of_truthy h.role (.str "assistant")
  simp only [reassembleStreamedResponse, readChunks_synthesized h hlines, Py.ok_bind]
  by_cases hslots : c.slots = []
  · rcases h.content with hnull | ⟨text, hne, htext⟩
    · simp [completionChunks, hslots, hnull, Reassembly.add, hor, hnullor, hrole, hfinish,
        Reassembly.response, sortedValues, Completion.toJson]
    · simp [completionChunks, hslots, htext, hne, Json.str?, Reassembly.add, hor, hnullor, hrole,
        hfinish, Reassembly.response, sortedValues, Completion.toJson]
  · have hnull := hcontent.resolve_left hslots
    have hempty : c.slots.isEmpty = false := by simpa using hslots
    simp only [completionChunks, hempty, List.cons_append, List.foldl_cons, List.foldl_append,
      Bool.false_eq_true, if_false, List.foldl_nil]
    rw [foldl_add_slotChunks c 0 c.slots _ rfl rfl rfl,
      foldl_addCall_slotChunks c 0 c.slots h.slots _ (by simp [Reassembly.add])]
    simp [Reassembly.add, hor, hnullor, hrole, hfinish, Reassembly.response,
      sortedValues_slotEntries, Completion.toJson, hnull]

end CapsuleMesh.Sidecar
