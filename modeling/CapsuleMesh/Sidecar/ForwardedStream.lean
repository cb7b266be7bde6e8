import CapsuleMesh.Sidecar.SseBytes

/-!
# The copy a streaming caller reconstructs

From the chunks of the upstream to the response that the caller reassembles from the bytes
it is sent: that is the copy whose digest the capsule records.
-/

namespace CapsuleMesh.Sidecar

open Python

variable {floatRepr : String → String}

/-! ## Values of the chunks -/

theorem proper_of_lookup {members : List (String × Json)}
    (h : ∀ m ∈ members, m.2.Proper floatRepr) {key : String} {v : Json}
    (hv : members.lookup key = some v) : v.Proper floatRepr := by
  induction members with
  | nil => cases hv
  | cons m ms ih =>
      rw [List.lookup_cons] at hv
      split at hv
      · obtain rfl := Option.some.inj hv
        exact h m List.mem_cons_self
      · exact ih (fun m hm => h m (List.mem_cons_of_mem _ hm)) hv

theorem proper_get {j v : Json} {key : String} (h : j.Proper floatRepr)
    (hv : j.get key = .ok v) : v.Proper floatRepr := by
  cases h with
  | @obj members hnodup hmembers =>
      rw [Json.get_obj] at hv
      obtain rfl := Except.ok.inj hv
      cases hlookup : members.lookup key with
      | none => exact .null
      | some v => exact proper_of_lookup hmembers hlookup
  | _ => cases hv

theorem proper_or {a b : Json} (ha : a.Proper floatRepr) (hb : b.Proper floatRepr) :
    (a.or b).Proper floatRepr := by
  unfold Json.or
  split_ifs
  · exact ha
  · exact hb

theorem proper_iter {j : Json} {elems : List Json} (h : j.Proper floatRepr)
    (helems : j.iter = .ok elems) : ∀ e ∈ elems, e.Proper floatRepr := by
  cases h with
  | str s =>
      obtain rfl := Except.ok.inj helems
      intro e he
      obtain ⟨c, -, rfl⟩ := List.mem_map.mp he
      exact .str _
  | arr h =>
      obtain rfl := Except.ok.inj helems
      exact h
  | @obj members _ _ =>
      obtain rfl := Except.ok.inj helems
      intro e he
      obtain ⟨m, -, rfl⟩ := List.mem_map.mp he
      exact .str _
  | _ => cases helems

theorem proper_first {j e : Json} (h : j.Proper floatRepr) (he : j.first = .ok e) :
    e.Proper floatRepr := by
  cases h with
  | str s =>
      simp only [Json.first] at he
      split at he
      · cases he
      · obtain rfl := Except.ok.inj he
        exact .str _
  | @arr elems h =>
      cases elems with
      | nil => cases he
      | cons e' es =>
        obtain rfl := Except.ok.inj he
        exact h _ List.mem_cons_self
  | _ => cases he

/-- Everything read from a chunk is a value of it. -/
structure Chunk.Proper (floatRepr : String → String) (c : Chunk) : Prop where
  id : c.id.Proper floatRepr
  model : c.model.Proper floatRepr
  created : c.created.Proper floatRepr
  role : c.role.Proper floatRepr
  finishReason : c.finishReason.Proper floatRepr
  toolCalls : ∀ call ∈ c.toolCalls, call.id.Proper floatRepr

theorem proper_readToolCalls {tcs : List Json} {calls : List ToolCallDelta}
    (h : ∀ tc ∈ tcs, tc.Proper floatRepr) (hread : readToolCalls tcs = .ok calls) :
    ∀ call ∈ calls, call.id.Proper floatRepr := by
  induction tcs generalizing calls with
  | nil =>
      obtain rfl := Except.ok.inj hread
      simp
  | cons tc tcs ih =>
      simp only [readToolCalls, readToolCall, Py.bind_eq_ok, Py.pure_eq_ok] at hread
      obtain ⟨call, ⟨_, -, _, -, id, hid, _, -, _, -, _, -, _, -, _, -, hcall⟩, rest, hrest,
        hcalls⟩ := hread
      obtain rfl := Except.ok.inj hcall
      obtain rfl := Except.ok.inj hcalls
      intro call hmem
      obtain rfl | hmem := List.mem_cons.mp hmem
      · exact proper_get (h tc List.mem_cons_self) hid
      · exact ih (fun tc htc => h tc (List.mem_cons_of_mem _ htc)) hrest call hmem

theorem proper_readChunk {chunk : Json} {c : Chunk} (h : chunk.Proper floatRepr)
    (hread : readChunk chunk = .ok c) : c.Proper floatRepr := by
  simp only [readChunk, Py.bind_eq_ok, Py.pure_eq_ok] at hread
  obtain ⟨id, hid, model, hmodel, created, hcreated, choices, hchoices, hread⟩ := hread
  have hlist : (choices.or (.arr [])).Proper floatRepr :=
    proper_or (proper_get h hchoices) (.arr (by simp))
  split_ifs at hread with htruthy
  · simp only [Py.bind_eq_ok] at hread
    obtain ⟨choice, hchoice, delta, hdelta, role, hrole, content, -, text, -, tcs, htcs, elems,
      helems, calls, hcalls, finish, hfinish, hc⟩ := hread
    obtain rfl := Except.ok.inj hc
    have hproper := proper_first hlist hchoice
    have hdeltaProper : (delta.or (.obj [])).Proper floatRepr :=
      proper_or (proper_get hproper hdelta) (by simp)
    exact {
      id := proper_get h hid
      model := proper_get h hmodel
      created := proper_get h hcreated
      role := proper_get hdeltaProper hrole
      finishReason := proper_get hproper hfinish
      toolCalls := proper_readToolCalls
        (proper_iter (proper_or (proper_get hdeltaProper htcs) (.arr (by simp))) helems) hcalls }
  · obtain rfl := Except.ok.inj hread
    exact {
      id := proper_get h hid
      model := proper_get h hmodel
      created := proper_get h hcreated
      role := .null
      finishReason := .null
      toolCalls := by simp }

theorem proper_readChunks {chunks : List Json} {read : List Chunk}
    (h : ∀ chunk ∈ chunks, chunk.Proper floatRepr) (hread : readChunks chunks = .ok read) :
    ∀ c ∈ read, c.Proper floatRepr := by
  induction chunks generalizing read with
  | nil =>
      obtain rfl := Except.ok.inj hread
      simp
  | cons chunk chunks ih =>
      simp only [readChunks, Py.bind_eq_ok, Py.pure_eq_ok] at hread
      obtain ⟨c, hc, rest, hrest, hread⟩ := hread
      obtain rfl := Except.ok.inj hread
      intro c' hmem
      obtain rfl | hmem := List.mem_cons.mp hmem
      · exact proper_readChunk (h chunk List.mem_cons_self) hc
      · exact ih (fun chunk hchunk => h chunk (List.mem_cons_of_mem _ hchunk)) hrest c' hmem

/-! ## Values of the response -/

structure Reassembly.Proper (floatRepr : String → String) (s : Reassembly) : Prop where
  role : s.role.Proper floatRepr
  toolCalls : ∀ e ∈ s.toolCalls, e.2.id.Proper floatRepr
  finishReason : s.finishReason.Proper floatRepr
  id : s.id.Proper floatRepr
  model : s.model.Proper floatRepr
  created : s.created.Proper floatRepr

theorem proper_addCall {slots : List (Key × ToolCallSlot)} {call : ToolCallDelta}
    (h : ∀ e ∈ slots, e.2.id.Proper floatRepr) (hcall : call.id.Proper floatRepr) :
    ∀ e ∈ addCall slots call, e.2.id.Proper floatRepr := by
  intro e he
  obtain he | ⟨-, old, hold, hext⟩ := mem_addCall he
  · exact h e he
  · rw [hext]
    apply proper_or hcall
    obtain rfl | hold := hold
    · exact .null
    · exact h _ hold

theorem Reassembly.Proper.add {s : Reassembly} {c : Chunk} (hs : s.Proper floatRepr)
    (hc : c.Proper floatRepr) : (s.add c).Proper floatRepr where
  role := proper_or hc.role hs.role
  toolCalls := by
    have hfold : ∀ (calls : List ToolCallDelta) (slots : List (Key × ToolCallSlot)),
        (∀ call ∈ calls, call.id.Proper floatRepr) → (∀ e ∈ slots, e.2.id.Proper floatRepr) →
        ∀ e ∈ calls.foldl addCall slots, e.2.id.Proper floatRepr := by
      intro calls
      induction calls with
      | nil => exact fun slots _ hslots => hslots
      | cons call calls ih =>
        intro slots hcalls hslots
        exact ih _ (fun call hmem => hcalls call (List.mem_cons_of_mem _ hmem))
          (proper_addCall hslots (hcalls call List.mem_cons_self))
    exact hfold c.toolCalls s.toolCalls hc.toolCalls hs.toolCalls
  finishReason := proper_or hc.finishReason hs.finishReason
  id := proper_or hs.id hc.id
  model := proper_or hs.model hc.model
  created := proper_or hs.created hc.created

theorem Reassembly.Proper.foldl_add {s : Reassembly} {read : List Chunk}
    (hs : s.Proper floatRepr) (h : ∀ c ∈ read, c.Proper floatRepr) :
    (read.foldl Reassembly.add s).Proper floatRepr := by
  induction read generalizing s with
  | nil => exact hs
  | cons c read ih =>
      exact ih (hs.add (h c List.mem_cons_self)) fun c hc => h c (List.mem_cons_of_mem _ hc)

structure Completion.Proper (floatRepr : String → String) (c : Completion) : Prop where
  id : c.id.Proper floatRepr
  created : c.created.Proper floatRepr
  model : c.model.Proper floatRepr
  role : c.role.Proper floatRepr
  content : c.content.Proper floatRepr
  slots : ∀ slot ∈ c.slots, slot.id.Proper floatRepr
  finishReason : c.finishReason.Proper floatRepr

theorem ToolCallSlot.proper_toJson {slot : ToolCallSlot} :
    slot.toJson.Proper floatRepr ↔ slot.id.Proper floatRepr := by
  simp [ToolCallSlot.toJson]

theorem proper_messageOf {role content : Json} {slots : List ToolCallSlot} :
    (messageOf role content slots).Proper floatRepr ↔ role.Proper floatRepr ∧
      content.Proper floatRepr ∧ ∀ slot ∈ slots, slot.id.Proper floatRepr := by
  unfold messageOf
  split_ifs with hslots
  · rw [List.isEmpty_iff.mp hslots]
    simp
  · simp [ToolCallSlot.proper_toJson]

theorem Completion.proper_toJson {c : Completion} :
    c.toJson.Proper floatRepr ↔ c.Proper floatRepr := by
  simp only [Completion.toJson, Json.proper_obj, List.map_cons, List.map_nil, List.forall_mem_cons,
    List.not_mem_nil, false_implies, implies_true, and_true, Json.proper_str, Json.proper_arr, Json.proper_int,
    true_and, proper_messageOf]
  constructor
  · rintro ⟨-, hid, hcreated, hmodel, -, ⟨hrole, hcontent, hslots⟩, hfinish⟩
    exact ⟨hid, hcreated, hmodel, hrole, hcontent, hslots, hfinish⟩
  · rintro ⟨hid, hcreated, hmodel, hrole, hcontent, hslots, hfinish⟩
    exact ⟨by decide, hid, hcreated, hmodel, by decide, ⟨hrole, hcontent, hslots⟩, hfinish⟩

theorem Completion.Proper.forwarded {c : Completion} (h : c.Proper floatRepr)
    (uuids : ℕ → String) : (c.forwarded uuids).Proper floatRepr where
  id := h.id
  created := h.created
  model := h.model
  role := h.role
  content := by
    unfold Completion.forwarded
    dsimp only
    split_ifs
    · exact h.content
    · exact .null
  slots := by
    have hmint : ∀ (slots : List ToolCallSlot) (n : ℕ),
        (∀ slot ∈ slots, slot.id.Proper floatRepr) →
        ∀ slot ∈ mintSlots uuids n slots, slot.id.Proper floatRepr := by
      intro slots
      induction slots with
      | nil => simp [mintSlots]
      | cons slot slots ih =>
        intro n hslots slot' hslot'
        unfold mintSlots at hslot'
        split_ifs at hslot'
        · obtain rfl | hslot' := List.mem_cons.mp hslot'
          · exact hslots slot' List.mem_cons_self
          · exact ih n (fun s hs => hslots s (List.mem_cons_of_mem _ hs)) slot' hslot'
        · obtain rfl | hslot' := List.mem_cons.mp hslot'
          · exact .str _
          · exact ih (n + 1) (fun s hs => hslots s (List.mem_cons_of_mem _ hs)) slot' hslot'
    exact hmint c.slots 0 h.slots
  finishReason := h.finishReason

/-- What the chunks are reassembled to. -/
theorem reassembled_completion {chunks : List Json} {response : Json}
    (hproper : ∀ chunk ∈ chunks, chunk.Proper floatRepr)
    (h : reassembleStreamedResponse chunks = .ok response) :
    ∃ c : Completion, response = c.toJson ∧ c.Tidy ∧ c.Proper floatRepr := by
  obtain ⟨-, c, -, hc, htidy, -⟩ := reassembleStreamedResponse_ok h
  refine ⟨c, hc, htidy, ?_⟩
  simp only [reassembleStreamedResponse, Reassembly.response, Py.bind_eq_ok, Py.pure_eq_ok] at h
  obtain ⟨read, hread, _, ⟨slots, hslots, hc'⟩, hresponse⟩ := h
  obtain rfl := Except.ok.inj hc'
  have hstart : Reassembly.Proper floatRepr {} := ⟨.str _, by simp, .null, .null, .null, .null⟩
  have hfold := hstart.foldl_add (proper_readChunks hproper hread)
  rw [← Completion.proper_toJson, ← hc, ← Except.ok.inj hresponse, Completion.proper_toJson]
  exact {
    id := hfold.id
    created := hfold.created
    model := hfold.model
    role := hfold.role
    content := by
      dsimp only
      split_ifs
      · exact .null
      · exact .str _
    slots := by
      intro slot hslot
      obtain ⟨e, he, rfl⟩ := List.mem_map.mp ((sortedValues_perm hslots).mem_iff.mp hslot)
      exact hfold.toolCalls e he
    finishReason := hfold.finishReason }

/-- Every chunk of the synthesized stream is a value. -/
theorem proper_synthesized {c : Completion} (h : c.Proper floatRepr) {lines : List SseLine}
    (hlines : synthesizeSse c.toJson = .ok lines) :
    ∀ chunk ∈ readSse lines, chunk.Proper floatRepr := by
  have hframe : ∀ (delta : List (String × Json)) (finish : Json),
      (Json.obj delta).Proper floatRepr → finish.Proper floatRepr →
      ∀ chunk ∈ readSse [frame c.id c.created c.model delta finish], chunk.Proper floatRepr := by
    intro delta finish hdelta hfinish chunk hchunk
    obtain rfl := List.mem_singleton.mp hchunk
    simp only [Json.proper_obj, List.map_cons, List.map_nil, List.forall_mem_cons,
      List.not_mem_nil, false_implies, implies_true, and_true, Json.proper_str, Json.proper_arr,
      Json.proper_int, true_and]
    exact ⟨by decide, h.id, h.created, h.model, by decide, Json.proper_obj.mp hdelta, hfinish⟩
  have hslots : ∀ (slots : List ToolCallSlot) (n : ℕ),
      (∀ slot ∈ slots, slot.id.Proper floatRepr) →
      ∀ chunk ∈ readSse (slotFrames c n slots), chunk.Proper floatRepr := by
    intro slots
    induction slots with
    | nil => exact fun _ _ _ hchunk => by cases hchunk
    | cons slot slots ih =>
        intro n hslots chunk hchunk
        obtain hchunk | hchunk := List.mem_cons.mp (show chunk ∈ _ :: readSse _ from hchunk)
        · apply hframe _ .null _ .null chunk (List.mem_singleton.mpr hchunk)
          simp [hslots slot List.mem_cons_self]
        · exact ih (n + 1) (fun s hs => hslots s (List.mem_cons_of_mem _ hs)) chunk hchunk
  rw [synthesizeSse_completion] at hlines
  obtain rfl := Except.ok.inj hlines
  have hbody : ∀ chunk ∈ readSse (bodyFrames c), chunk.Proper floatRepr := by
    unfold bodyFrames
    split_ifs
    · exact hframe _ .null (by simp [h.content]) .null
    · exact fun _ hchunk => by cases hchunk
    · exact hslots c.slots 0 h.slots
  intro chunk hchunk
  have happend : ∀ xs ys : List SseLine, readSse (xs ++ ys) = readSse xs ++ readSse ys :=
    fun xs ys => List.filterMap_append
  rw [happend, ← List.singleton_append, happend, List.mem_append, List.mem_append] at hchunk
  obtain (hchunk | hchunk) | hchunk := hchunk
  · exact hframe _ .null (by simp [h.role]) .null chunk hchunk
  · exact hbody chunk hchunk
  · exact hframe [] _ (by simp) h.finishReason chunk hchunk

/-! ## Chunks of the documented types -/

/-- A field that is missing, `null` or of its type. -/
def FieldIs (type : Json → Prop) (members : List (String × Json)) (key : String) : Prop :=
  ∀ v, members.lookup key = some v → v = .null ∨ type v

def IsText (j : Json) : Prop := ∃ s, j = .str s

def ListOf (type : Json → Prop) (j : Json) : Prop := ∃ elems, j = .arr elems ∧ ∀ e ∈ elems, type e

def WellTypedFunction (fn : Json) : Prop :=
  ∃ members, fn = .obj members ∧ FieldIs IsText members "name" ∧ FieldIs IsText members "arguments"

def WellTypedCall (tc : Json) : Prop :=
  ∃ members, tc = .obj members ∧ (∀ v, members.lookup "index" = some v → ∃ n, v = .int n) ∧
    FieldIs WellTypedFunction members "function"

def WellTypedDelta (delta : Json) : Prop :=
  ∃ members, delta = .obj members ∧ FieldIs IsText members "content" ∧
    FieldIs (ListOf WellTypedCall) members "tool_calls"

def WellTypedChoice (choice : Json) : Prop :=
  ∃ members, choice = .obj members ∧ FieldIs WellTypedDelta members "delta"

/-- A chunk of the types that `reassemble_streamed_response` reads; fields that it copies
may be anything. -/
def WellTypedChunk (chunk : Json) : Prop :=
  ∃ members, chunk = .obj members ∧ FieldIs (ListOf WellTypedChoice) members "choices"

section

variable {type : Json → Prop} {members : List (String × Json)} {key : String}

/-- `d.get(key) or default`. -/
theorem FieldIs.or (h : FieldIs type members key) {default : Json} (hdefault : type default) :
    type (((members.lookup key).getD .null).or default) := by
  cases hv : members.lookup key with
  | none => exact hdefault
  | some v =>
      rw [Option.getD_some]
      obtain rfl | htype := h v hv
      · exact hdefault
      · unfold Json.or
        split_ifs
        · exact htype
        · exact hdefault

theorem FieldIs.text (h : FieldIs IsText members key) :
    ∃ text, textOf ((members.lookup key).getD .null) = .ok text := by
  cases hv : members.lookup key with
  | none => exact ⟨"", rfl⟩
  | some v =>
      obtain rfl | ⟨s, rfl⟩ := h v hv
      · exact ⟨"", rfl⟩
      · exact ⟨s, textOf_str s⟩

theorem fieldIs_nil (type : Json → Prop) (key : String) : FieldIs type [] key :=
  fun _ hv => by cases hv

theorem wellTypedFunction_empty : WellTypedFunction (.obj []) :=
  ⟨[], rfl, fieldIs_nil IsText "name", fieldIs_nil IsText "arguments"⟩

theorem wellTypedDelta_empty : WellTypedDelta (.obj []) :=
  ⟨[], rfl, fieldIs_nil IsText "content", fieldIs_nil (ListOf WellTypedCall) "tool_calls"⟩

theorem listOf_nil (type : Json → Prop) : ListOf type (.arr []) := ⟨[], rfl, by simp⟩

end

theorem readToolCall_wellTyped {tc : Json} (h : WellTypedCall tc) :
    ∃ call n, readToolCall tc = .ok call ∧ call.index = .int n := by
  obtain ⟨members, rfl, hindex, hfn⟩ := h
  obtain ⟨fn, hfnObj, hname, harguments⟩ := hfn.or wellTypedFunction_empty
  obtain ⟨n, hkey⟩ : ∃ n, ((members.lookup "index").getD (.int 0)).key = .ok (.int n) := by
    cases hv : members.lookup "index" with
    | none => exact ⟨0, rfl⟩
    | some v =>
        obtain ⟨n, rfl⟩ := hindex v hv
        exact ⟨n, rfl⟩
  obtain ⟨name, hname⟩ := hname.text
  obtain ⟨arguments, harguments⟩ := harguments.text
  refine ⟨⟨.int n, (members.lookup "id").getD .null, name, arguments⟩, n, ?_, rfl⟩
  simp [readToolCall, hkey, hfnObj, hname, harguments]

theorem readToolCalls_wellTyped {tcs : List Json} (h : ∀ tc ∈ tcs, WellTypedCall tc) :
    ∃ calls, readToolCalls tcs = .ok calls ∧ ∀ call ∈ calls, ∃ n, call.index = .int n := by
  induction tcs with
  | nil => exact ⟨[], rfl, by simp⟩
  | cons tc tcs ih =>
      obtain ⟨call, n, hcall, hindex⟩ := readToolCall_wellTyped (h tc List.mem_cons_self)
      obtain ⟨calls, hcalls, hindices⟩ := ih fun tc htc => h tc (List.mem_cons_of_mem _ htc)
      refine ⟨call :: calls, by simp [readToolCalls, hcall, hcalls], ?_⟩
      exact List.forall_mem_cons.mpr ⟨⟨n, hindex⟩, hindices⟩

theorem readChunk_wellTyped {chunk : Json} (h : WellTypedChunk chunk) :
    ∃ c, readChunk chunk = .ok c ∧ ∀ call ∈ c.toolCalls, ∃ n, call.index = .int n := by
  obtain ⟨members, rfl, hchoices⟩ := h
  obtain ⟨choices, hlist, hchoice⟩ := hchoices.or (listOf_nil WellTypedChoice)
  cases choices with
  | nil =>
      refine ⟨⟨(members.lookup "id").getD .null, (members.lookup "model").getD .null,
        (members.lookup "created").getD .null, .null, "", [], .null⟩, ?_, by simp⟩
      simp [readChunk, hlist]
  | cons choice choices =>
      obtain ⟨choiceMembers, rfl, hdelta⟩ := hchoice choice List.mem_cons_self
      obtain ⟨delta, hdeltaObj, hcontent, hcalls⟩ := hdelta.or wellTypedDelta_empty
      obtain ⟨content, hcontent⟩ := hcontent.text
      obtain ⟨tcs, htcs, hcalls⟩ := hcalls.or (listOf_nil WellTypedCall)
      obtain ⟨calls, hread, hindices⟩ := readToolCalls_wellTyped hcalls
      refine ⟨⟨(members.lookup "id").getD .null, (members.lookup "model").getD .null,
        (members.lookup "created").getD .null, (delta.lookup "role").getD .null, content, calls,
        (choiceMembers.lookup "finish_reason").getD .null⟩, ?_, hindices⟩
      simp [readChunk, hlist, Json.first, Json.iter, hdeltaObj, hcontent, htcs, hread]

theorem readChunks_wellTyped {chunks : List Json} (h : ∀ chunk ∈ chunks, WellTypedChunk chunk) :
    ∃ read, readChunks chunks = .ok read ∧
      ∀ call ∈ toolCallDeltas read, ∃ n, call.index = .int n := by
  induction chunks with
  | nil => exact ⟨[], rfl, by simp [toolCallDeltas]⟩
  | cons chunk chunks ih =>
      obtain ⟨c, hc, hcalls⟩ := readChunk_wellTyped (h chunk List.mem_cons_self)
      obtain ⟨read, hread, hrest⟩ := ih fun chunk hchunk => h chunk (List.mem_cons_of_mem _ hchunk)
      refine ⟨c :: read, by simp [readChunks, hc, hread], ?_⟩
      intro call hcall
      obtain hcall | hcall := List.mem_append.mp (show call ∈ c.toolCalls ++ _ from hcall)
      · exact hcalls call hcall
      · exact hrest call hcall

theorem sortedValues_int {α : Type} {entries : List (Key × α)}
    (h : ∀ e ∈ entries, ∃ n, e.1 = .int n) : ∃ values, sortedValues entries = .ok values := by
  have hlength : (entries.filterMap fun e => (keyNumber e.1).map fun q => (q, e.2)).length =
      entries.length := by
    induction entries with
    | nil => rfl
    | cons e entries ih =>
        obtain ⟨n, hn⟩ := h e List.mem_cons_self
        have hrest := ih fun e he => h e (List.mem_cons_of_mem _ he)
        have hkey : keyNumber e.1 = some (n : ℚ) := by rw [hn, keyNumber]
        rw [List.filterMap_cons, hkey, Option.map_some, List.length_cons, List.length_cons, hrest]
  unfold sortedValues
  dsimp only
  split_ifs
  · exact ⟨_, rfl⟩
  · exact ⟨_, rfl⟩

/-- Chunks of the documented types are reassembled. -/
theorem reassemble_wellTyped {chunks : List Json} (h : ∀ chunk ∈ chunks, WellTypedChunk chunk) :
    ∃ response, reassembleStreamedResponse chunks = .ok response := by
  obtain ⟨read, hread, hcalls⟩ := readChunks_wellTyped h
  have hslots : SlotsOf (toolCallDeltas read) (read.foldl Reassembly.add {}).toolCalls := by
    rw [foldl_add_toolCalls]
    exact slotsOf_foldl _
  obtain ⟨slots, hsorted⟩ : ∃ slots,
      sortedValues (read.foldl Reassembly.add {}).toolCalls = .ok slots := by
    apply sortedValues_int
    intro e he
    obtain ⟨call, hcall, hindex, -⟩ := hslots.source e he
    obtain ⟨n, hn⟩ := hcalls call hcall
    exact ⟨n, hindex.symm.trans hn⟩
  simp [reassembleStreamedResponse, hread, Reassembly.response, hsorted]

/-! ## The whole path -/

/-- The chunks are reassembled, the copy for the caller is built, and what the caller
reassembles from the bytes it is sent is that copy, the one whose digest is in the record. -/
theorem caller_reconstructs_forwarded (uuids : ℕ → String) (replaced : Bytes → String)
    (digests : Digests) {chunks : List Json} (hproper : ∀ chunk ∈ chunks, chunk.Proper floatRepr)
    (htyped : ∀ chunk ∈ chunks, WellTypedChunk chunk) :
    ∃ response forwarded log lines,
      reassembleStreamedResponse chunks = .ok response ∧
      buildForwardedCopyOfText floatRepr uuids response = .ok (forwarded, log) ∧
      synthesizeSseBytes forwarded = .ok lines ∧
      reassembleStreamedResponse (readSseBytes floatRepr replaced lines.flatten) = .ok forwarded ∧
      (forwardedCopyRecord digests forwarded log.transforms log.upstreamToolCallIds).get
        "digest" = .ok (.ofStr? (safeDigestJson digests forwarded)) := by
  obtain ⟨response, hresponse⟩ := reassemble_wellTyped htyped
  obtain ⟨c, rfl, htidy, hvalues⟩ := reassembled_completion hproper hresponse
  obtain ⟨log, hcopy⟩ := buildForwardedCopy_completion uuids htidy
  have hforwarded := hvalues.forwarded uuids
  obtain ⟨lines, hlines⟩ : ∃ lines, synthesizeSse (c.forwarded uuids).toJson = .ok lines :=
    ⟨_, synthesizeSse_completion (c.forwarded uuids)⟩
  refine ⟨c.toJson, (c.forwarded uuids).toJson, log, lines.map SseLine.wire, hresponse, ?_, ?_,
    ?_, rfl⟩
  · rw [buildForwardedCopyOfText, loads_dumps (Completion.proper_toJson.mpr hvalues)]
    exact hcopy
  · rw [synthesizeSseBytes, hlines]
    rfl
  · rw [readSseBytes_wire (proper_synthesized hforwarded hlines)]
    exact reassemble_synthesized (htidy.forwarded uuids) (c.forwarded_slots_or_content uuids) hlines

/-- Digests that are the canonical texts. -/
def textDigests : Digests where
  cert := { verify := fun _ _ _ => false, sha256Hex := fun _ => "" }
  jsonDigest value := some value.canonical

def helloChunk (delta : List (String × Json)) (finish : Json) : Json :=
  .obj [("id", .str "chat-1"), ("choices", .arr [.obj
    [("index", .int 0), ("delta", .obj delta), ("finish_reason", finish)]])]

/-- A piece of a tool call. -/
def callDelta (id name : Json) (arguments : String) : List (String × Json) :=
  [("tool_calls", .arr [.obj [("index", .int 0), ("id", id),
    ("function", .obj [("name", name), ("arguments", .str arguments)])]])]

/-- A text, a tool call in two pieces, and the reason to finish. -/
def helloChunks : List Json :=
  [helloChunk [("role", .str "assistant"), ("content", .str "hello")] .null,
   helloChunk (callDelta (.str "call-1") (.str "add") "[1,") .null,
   helloChunk (callDelta .null .null "2]") .null,
   helloChunk [] (.str "tool_calls")]

theorem helloChunk_wellTyped {delta : List (String × Json)} (h : WellTypedDelta (.obj delta))
    (finish : Json) : WellTypedChunk (helloChunk delta finish) := by
  refine ⟨_, rfl, fun v hv => .inr ?_⟩
  obtain rfl := Option.some.inj hv
  refine ⟨_, rfl, fun choice hchoice => ?_⟩
  obtain rfl := List.mem_singleton.mp hchoice
  refine ⟨_, rfl, fun v hv => .inr ?_⟩
  obtain rfl := Option.some.inj hv
  exact h

theorem callDelta_wellTyped (id : Json) {name : Json} (hname : name = .null ∨ IsText name)
    (arguments : String) : WellTypedDelta (.obj (callDelta id name arguments)) := by
  refine ⟨_, rfl, fun v hv => (by cases hv), fun v hv => .inr ?_⟩
  obtain rfl := Option.some.inj hv
  refine ⟨_, rfl, fun call hcall => ?_⟩
  obtain rfl := List.mem_singleton.mp hcall
  refine ⟨_, rfl, fun v hv => ⟨0, (Option.some.inj hv).symm⟩, fun v hv => .inr ?_⟩
  obtain rfl := Option.some.inj hv
  refine ⟨_, rfl, fun v hv => ?_, fun v hv => .inr ⟨arguments, (Option.some.inj hv).symm⟩⟩
  obtain rfl := Option.some.inj hv
  exact hname

theorem helloChunks_wellTyped : ∀ chunk ∈ helloChunks, WellTypedChunk chunk := by
  have hcontent : WellTypedDelta (.obj [("role", .str "assistant"), ("content", .str "hello")]) :=
    ⟨_, rfl, fun v hv => .inr ⟨"hello", (Option.some.inj hv).symm⟩, fun v hv => by cases hv⟩
  rw [helloChunks]
  simp only [List.forall_mem_cons]
  refine ⟨helloChunk_wellTyped hcontent _, ?_, ?_, helloChunk_wellTyped wellTypedDelta_empty _, ?_⟩
  · exact helloChunk_wellTyped (callDelta_wellTyped _ (.inr ⟨"add", rfl⟩) _) _
  · exact helloChunk_wellTyped (callDelta_wellTyped _ (.inl rfl) _) _
  · simp

theorem caller_reconstructs_hello :
    ∃ response forwarded log lines,
      reassembleStreamedResponse helloChunks = .ok response ∧
      buildForwardedCopyOfText id (fun _ => "") response = .ok (forwarded, log) ∧
      synthesizeSseBytes forwarded = .ok lines ∧
      reassembleStreamedResponse (readSseBytes id (fun _ => "") lines.flatten) = .ok forwarded ∧
      (forwardedCopyRecord textDigests forwarded log.transforms log.upstreamToolCallIds).get
        "digest" = .ok (.ofStr? (safeDigestJson textDigests forwarded)) := by
  apply caller_reconstructs_forwarded _ _ _ _ helloChunks_wellTyped
  simp [helloChunks, helloChunk, callDelta]

end CapsuleMesh.Sidecar
