import Mathlib.Data.List.Forall2
import CapsuleMesh.Sidecar.ForwardedStream

/-!
# Streams of several choices

A request may ask for several choices, and the chunks of its stream then carry deltas of all of
them.  `reassemble_streamed_response` reads the first choice of each chunk and does not look at
its index.
-/

namespace CapsuleMesh.Sidecar

open Python

/-! ## The stream as its deltas say -/

/-- The choice that a delta belongs to and the text it brings. -/
structure ContentDelta where
  index : Int
  text : String

def readContentDelta (choice : Json) : Py ContentDelta := do
  match ← choice.item "index" with
  | .int index =>
      let delta := (← choice.get "delta").or (.obj [])
      return ⟨index, ← textOf (← delta.get "content")⟩
  | _ => throw .typeError

/-- The deltas of all choices of a chunk. -/
def readContentDeltas (chunk : Json) : Py (List ContentDelta) := do
  let choices ← ((← chunk.get "choices").or (.arr [])).iter
  choices.mapM readContentDelta

/-- The concatenation of the deltas of one choice. -/
def textOfChoice (index : Int) (stream : List (List ContentDelta)) : String :=
  String.join ((stream.flatten.filter fun d => d.index = index).map ContentDelta.text)

/-- `response["choices"][0]["message"]["content"]`. -/
def firstContent (response : Json) : Py Json := do
  let choice ← (← response.item "choices").first
  (← choice.item "message").item "content"

/-- `text or None`. -/
def contentValue (text : String) : Json := if text = "" then .null else .str text

/-! ## What the loop collects -/

/-- The text that the loop takes from a chunk. -/
def firstText (deltas : List ContentDelta) : String :=
  match deltas with
  | [] => ""
  | d :: _ => d.text

theorem iter_first {j e : Json} {elems : List Json} (helems : j.iter = .ok elems)
    (he : j.first = .ok e) : ∃ es, elems = e :: es := by
  cases j with
  | arr es =>
      obtain rfl := Except.ok.inj helems
      cases es with
      | nil => cases he
      | cons e' es =>
        obtain rfl := Except.ok.inj he
        exact ⟨es, rfl⟩
  | str s =>
      obtain rfl := Except.ok.inj helems
      simp only [Json.first] at he
      split at he
      · cases he
      · rename_i c cs hs
        obtain rfl := Except.ok.inj he
        exact ⟨_, by rw [hs, List.map_cons]⟩
  | _ => cases he

theorem iter_falsy {j : Json} {elems : List Json} (helems : j.iter = .ok elems)
    (hj : ¬j.truthy = true) : elems = [] := by
  cases j with
  | arr es =>
      obtain rfl := Except.ok.inj helems
      simpa using hj
  | str s =>
      obtain rfl := Except.ok.inj helems
      simpa using hj
  | obj members =>
      obtain rfl := Except.ok.inj helems
      simpa using hj
  | _ => cases helems

theorem readChunk_content {chunk : Json} {c : Chunk} {deltas : List ContentDelta}
    (hread : readChunk chunk = .ok c) (hdeltas : readContentDeltas chunk = .ok deltas) :
    c.content = firstText deltas := by
  simp only [readContentDeltas, Py.bind_eq_ok] at hdeltas
  obtain ⟨choices, hchoices, elems, helems, hdeltas⟩ := hdeltas
  simp only [readChunk, Py.bind_eq_ok, hchoices] at hread
  obtain ⟨_, -, _, -, _, -, choices', hchoices', hread⟩ := hread
  obtain rfl := Except.ok.inj hchoices'
  split_ifs at hread with htruthy
  · simp only [Py.bind_eq_ok] at hread
    obtain ⟨choice, hfirst, delta, hdelta, _, -, content, hcontent, text, htext, _, -, _, -, _, -,
      _, -, hc⟩ := hread
    obtain rfl := Except.ok.inj hc
    obtain ⟨es, rfl⟩ := iter_first helems hfirst
    rw [List.mapM_cons] at hdeltas
    simp only [readContentDelta, Py.bind_eq_ok] at hdeltas
    obtain ⟨d, ⟨index, -, hd⟩, ds, -, hdeltas⟩ := hdeltas
    obtain rfl := Except.ok.inj hdeltas
    cases index with
    | int n =>
        simp only [hdelta, hcontent, htext, Py.ok_bind] at hd
        obtain rfl := Except.ok.inj hd
        rfl
    | _ => cases hd
  · obtain rfl := Except.ok.inj hread
    obtain rfl := iter_falsy helems htruthy
    obtain rfl := Except.ok.inj hdeltas
    rfl

theorem foldl_add_content (read : List Chunk) (s : Reassembly) :
    (read.foldl Reassembly.add s).content = s.content ++ String.join (read.map Chunk.content) := by
  induction read generalizing s with
  | nil => simp
  | cons c read ih =>
      rw [List.foldl_cons, ih, List.map_cons, String.join_cons, ← String.append_assoc]
      rfl

theorem readChunks_content {chunks : List Json} {read : List Chunk}
    {stream : List (List ContentDelta)} (hread : readChunks chunks = .ok read)
    (hstream : chunks.mapM readContentDeltas = .ok stream) :
    read.map Chunk.content = stream.map firstText := by
  induction chunks generalizing read stream with
  | nil =>
      obtain rfl := Except.ok.inj hread
      obtain rfl := Except.ok.inj hstream
      rfl
  | cons chunk chunks ih =>
      simp only [readChunks, Py.bind_eq_ok, Py.pure_eq_ok] at hread
      obtain ⟨c, hc, rest, hrest, hread⟩ := hread
      obtain rfl := Except.ok.inj hread
      simp only [List.mapM_cons, Py.bind_eq_ok, Py.pure_eq_ok] at hstream
      obtain ⟨deltas, hdeltas, later, hlater, hstream⟩ := hstream
      obtain rfl := Except.ok.inj hstream
      rw [List.map_cons, List.map_cons, readChunk_content hc hdeltas, ih hrest hlater]

/-- The content of the response is what the first choices of the chunks brought. -/
theorem reassemble_content {chunks : List Json} {stream : List (List ContentDelta)}
    {response : Json} (h : reassembleStreamedResponse chunks = .ok response)
    (hstream : chunks.mapM readContentDeltas = .ok stream) :
    firstContent response = .ok (contentValue (String.join (stream.map firstText))) := by
  simp only [reassembleStreamedResponse, Reassembly.response, Py.bind_eq_ok, Py.pure_eq_ok] at h
  obtain ⟨read, hread, _, ⟨slots, -, hc⟩, hresponse⟩ := h
  obtain rfl := Except.ok.inj hc
  obtain rfl := Except.ok.inj hresponse
  have hcontent := foldl_add_content read {}
  rw [readChunks_content hread hstream] at hcontent
  have hjoin : (read.foldl Reassembly.add {}).content = String.join (stream.map firstText) :=
    hcontent.trans String.empty_append
  rw [contentValue, ← hjoin]
  rfl

/-! ## When the first choices are those of index 0 -/

/-- Where a chunk has content for choice 0, it is in its first choice, and no other choice
with content is there. -/
def Tracked (deltas : List ContentDelta) : Prop :=
  (∀ d ∈ deltas.head?, d.text ≠ "" → d.index = 0) ∧ ∀ d ∈ deltas.tail, d.index = 0 → d.text = ""

theorem firstText_of_tracked {deltas : List ContentDelta} (h : Tracked deltas) :
    firstText deltas = textOfChoice 0 [deltas] := by
  have hlater : ∀ ds : List ContentDelta, (∀ d ∈ ds, d.index = 0 → d.text = "") →
      String.join ((ds.filter fun d => d.index = 0).map ContentDelta.text) = "" := by
    intro ds hds
    induction ds with
    | nil => rfl
    | cons d ds ih =>
        have hrest := ih fun d hd => hds d (List.mem_cons_of_mem _ hd)
        by_cases hindex : d.index = 0
        · rw [List.filter_cons_of_pos (by simpa using hindex), List.map_cons, String.join_cons, hrest,
            hds d List.mem_cons_self hindex]
          rfl
        · rwa [List.filter_cons_of_neg (by simpa using hindex)]
  obtain ⟨hfirst, htail⟩ := h
  cases deltas with
  | nil => rfl
  | cons d ds =>
      have hrest := hlater ds htail
      rw [textOfChoice, List.flatten_singleton]
      by_cases hindex : d.index = 0
      · rw [List.filter_cons_of_pos (by simpa using hindex), List.map_cons, String.join_cons, hrest,
          String.append_empty]
        rfl
      · have hempty : d.text = "" := by
          by_contra hne
          exact hindex (hfirst d rfl hne)
        rw [List.filter_cons_of_neg (by simpa using hindex), hrest]
        exact hempty

theorem textOfChoice_cons (index : Int) (deltas : List ContentDelta)
    (stream : List (List ContentDelta)) :
    textOfChoice index (deltas :: stream) =
      textOfChoice index [deltas] ++ textOfChoice index stream := by
  simp [textOfChoice, String.join_append]

theorem join_firstText {stream : List (List ContentDelta)}
    (h : ∀ deltas ∈ stream, Tracked deltas) :
    String.join (stream.map firstText) = textOfChoice 0 stream := by
  induction stream with
  | nil => rfl
  | cons deltas stream ih =>
      rw [List.map_cons, String.join_cons, textOfChoice_cons,
        firstText_of_tracked (h deltas List.mem_cons_self),
        ih fun ds hds => h ds (List.mem_cons_of_mem _ hds)]

/-! ## Streams of the same shape -/

/-- The same choices in the same order, with content in the same places. -/
def SameShape (stream stream' : List (List ContentDelta)) : Prop :=
  List.Forall₂ (List.Forall₂ fun d d' => d.index = d'.index ∧ (d.text = "" ↔ d'.text = ""))
    stream stream'

theorem Tracked.of_sameShape {stream stream' : List (List ContentDelta)}
    (hshape : SameShape stream stream') (h : ∀ deltas ∈ stream, Tracked deltas) :
    ∀ deltas ∈ stream', Tracked deltas := by
  have htail : ∀ {ds ds' : List ContentDelta},
      List.Forall₂ (fun d d' => d.index = d'.index ∧ (d.text = "" ↔ d'.text = "")) ds ds' →
      (∀ d ∈ ds, d.index = 0 → d.text = "") → ∀ d ∈ ds', d.index = 0 → d.text = "" := by
    intro ds ds' hds
    induction hds with
    | nil => simp
    | cons hd _ ih =>
        intro hall
        obtain ⟨hfirst, hrest⟩ := List.forall_mem_cons.mp hall
        refine List.forall_mem_cons.mpr ⟨fun hindex => ?_, ih hrest⟩
        exact hd.2.mp (hfirst (hd.1.trans hindex))
  induction hshape with
  | nil => simp
  | cons hds _ ih =>
      obtain ⟨⟨hfirst, hlater⟩, hrest⟩ := List.forall_mem_cons.mp h
      refine List.forall_mem_cons.mpr ⟨?_, ih hrest⟩
      cases hds with
      | nil => exact ⟨by simp, by simp⟩
      | cons hd hds =>
        refine ⟨?_, htail hds hlater⟩
        rintro d ⟨⟩ hne
        rw [← hd.1]
        exact hfirst _ rfl fun hempty => hne (hd.2.mp hempty)

/-- The delta with another text, if it has any. -/
def ContentDelta.marked (mark : String) (d : ContentDelta) : ContentDelta :=
  { d with text := if d.text = "" then "" else mark }

/-- Marks for a first choice of index 0, another first choice, and a later one. -/
def markDeltas : List ContentDelta → List ContentDelta
  | [] => []
  | d :: ds => d.marked (if d.index = 0 then "a" else "b") :: ds.map (ContentDelta.marked "c")

theorem sameShape_markDeltas (stream : List (List ContentDelta)) :
    SameShape stream (stream.map markDeltas) := by
  have hmark : ∀ (mark : String) (d : ContentDelta), mark ≠ "" →
      d.index = (d.marked mark).index ∧ (d.text = "" ↔ (d.marked mark).text = "") := by
    intro mark d hmark
    refine ⟨rfl, ?_⟩
    unfold ContentDelta.marked
    by_cases hempty : d.text = "" <;> simp [hempty, hmark]
  rw [SameShape, List.forall₂_map_right_iff]
  apply List.forall₂_same.mpr
  intro deltas _
  cases deltas with
  | nil => exact .nil
  | cons d ds =>
      refine .cons (hmark _ d (by split_ifs <;> decide)) ?_
      rw [List.forall₂_map_right_iff]
      exact List.forall₂_same.mpr fun d _ => hmark "c" d (by decide)

theorem mem_textOfChoice {c : Char} {index : Int} {stream : List (List ContentDelta)} :
    c ∈ (textOfChoice index stream).toList ↔
      ∃ deltas ∈ stream, ∃ d ∈ deltas, d.index = index ∧ c ∈ d.text.toList := by
  rw [textOfChoice, String.toList_join, List.mem_flatMap]
  simp only [List.mem_map, List.mem_filter, List.mem_flatten, decide_eq_true_eq]
  constructor
  · rintro ⟨-, ⟨d, ⟨⟨deltas, hdeltas, hd⟩, hindex⟩, rfl⟩, hc⟩
    exact ⟨deltas, hdeltas, d, hd, hindex, hc⟩
  · rintro ⟨deltas, hdeltas, d, hd, hindex, hc⟩
    exact ⟨_, ⟨d, ⟨⟨deltas, hdeltas, hd⟩, hindex⟩, rfl⟩, hc⟩

theorem mem_firstTexts {c : Char} {stream : List (List ContentDelta)} :
    c ∈ (String.join (stream.map firstText)).toList ↔
      ∃ deltas ∈ stream, c ∈ (firstText deltas).toList := by
  rw [String.toList_join, List.mem_flatMap]
  simp

theorem mem_marked {c : Char} {mark : String} {d : ContentDelta}
    (h : c ∈ (d.marked mark).text.toList) : c ∈ mark.toList := by
  unfold ContentDelta.marked at h
  dsimp only at h
  split_ifs at h
  · cases h
  · exact h

theorem marked_text {d : ContentDelta} (h : d.text ≠ "") (mark : String) :
    (d.marked mark).text = mark := by
  rw [ContentDelta.marked, if_neg h]

theorem not_mem_textOfChoice_marked (stream : List (List ContentDelta)) :
    'b' ∉ (textOfChoice 0 (stream.map markDeltas)).toList := by
  rw [mem_textOfChoice]
  rintro ⟨marked, hdeltas, d, hd, hindex, hc⟩
  obtain ⟨deltas, -, rfl⟩ := List.mem_map.mp hdeltas
  cases deltas with
  | nil => cases hd
  | cons e ds =>
      obtain rfl | hd := List.mem_cons.mp hd
      · have hzero : e.index = 0 := hindex
        have hmark := mem_marked hc
        rw [if_pos hzero] at hmark
        revert hmark
        decide
      · obtain ⟨e', -, rfl⟩ := List.mem_map.mp hd
        have hmark := mem_marked hc
        revert hmark
        decide

theorem not_mem_firstTexts_marked (stream : List (List ContentDelta)) :
    'c' ∉ (String.join ((stream.map markDeltas).map firstText)).toList := by
  rw [mem_firstTexts]
  rintro ⟨marked, hdeltas, hc⟩
  obtain ⟨deltas, -, rfl⟩ := List.mem_map.mp hdeltas
  cases deltas with
  | nil => cases hc
  | cons d ds =>
      have hmark : 'c' ∈ (if d.index = 0 then "a" else "b").toList := mem_marked hc
      revert hmark
      split_ifs <;> decide

/-- With these marks the two texts tell whether every chunk is tracked. -/
theorem tracked_of_marked {stream : List (List ContentDelta)}
    (h : String.join ((stream.map markDeltas).map firstText) =
      textOfChoice 0 (stream.map markDeltas)) : ∀ deltas ∈ stream, Tracked deltas := by
  have hchosen := not_mem_textOfChoice_marked stream
  have hcollected := not_mem_firstTexts_marked stream
  rw [← h] at hchosen
  rw [h] at hcollected
  intro deltas hdeltas
  have hmem := List.mem_map_of_mem (f := markDeltas) hdeltas
  cases deltas with
  | nil => exact ⟨by simp, by simp⟩
  | cons d ds =>
      refine ⟨?_, ?_⟩
      · rintro d ⟨⟩ hne
        by_contra hindex
        apply hchosen
        refine mem_firstTexts.mpr ⟨_, hmem, ?_⟩
        change 'b' ∈ (d.marked _).text.toList
        rw [if_neg hindex, marked_text hne]
        decide
      · intro d' hd' hindex
        by_contra hne
        apply hcollected
        refine mem_textOfChoice.mpr ⟨_, hmem, d'.marked "c", ?_, hindex, ?_⟩
        · exact List.mem_cons_of_mem _ (List.mem_map_of_mem hd')
        · rw [marked_text hne]
          decide

/-! ## The content of choice 0 -/

/-- A chunk with these deltas. -/
def chunkOf (deltas : List ContentDelta) : Json :=
  .obj [("choices", .arr (deltas.map fun d =>
    .obj [("index", .int d.index), ("delta", .obj [("content", .str d.text)])]))]

theorem readContentDeltas_chunkOf (deltas : List ContentDelta) :
    readContentDeltas (chunkOf deltas) = .ok deltas := by
  have hor : ∀ elems : List Json, (Json.arr elems).or (.arr []) = .arr elems := by
    intro elems
    cases elems <;> rfl
  have hread : readContentDeltas (chunkOf deltas) = (deltas.map fun d => (.obj
      [("index", .int d.index), ("delta", .obj [("content", .str d.text)])] : Json)).mapM
        readContentDelta := by
    simp [readContentDeltas, chunkOf, hor, Json.iter]
  rw [hread, Py.mapM_eq_ok, List.map_map]
  apply List.map_congr_left
  intro d _
  simp [readContentDelta, Json.item, List.lookup_cons, textOf_str]

theorem wellTypedChunk_chunkOf (deltas : List ContentDelta) : WellTypedChunk (chunkOf deltas) := by
  refine ⟨_, rfl, fun v hv => .inr ?_⟩
  obtain rfl := Option.some.inj hv
  refine ⟨_, rfl, ?_⟩
  intro choice hchoice
  obtain ⟨d, -, rfl⟩ := List.mem_map.mp hchoice
  refine ⟨_, rfl, fun v hv => .inr ?_⟩
  obtain rfl := Option.some.inj hv
  refine ⟨_, rfl, fun v hv => .inr ?_, fun v hv => by cases hv⟩
  exact ⟨d.text, (Option.some.inj hv).symm⟩

theorem contentValue_inj {s t : String} : contentValue s = contentValue t ↔ s = t := by
  unfold contentValue
  constructor
  · intro h
    split_ifs at h with hs ht ht
    · rw [hs, ht]
    · exact Json.str.inj h
  · rintro rfl
    rfl

/-- Whatever the texts are, the content of choice 0 is the concatenation of its deltas,
exactly when each chunk has it in its first choice. -/
theorem content_of_choice_zero_iff (stream : List (List ContentDelta)) :
    (∀ chunks stream', (∀ chunk ∈ chunks, WellTypedChunk chunk) →
      chunks.mapM readContentDeltas = .ok stream' → SameShape stream stream' →
      ∃ response, reassembleStreamedResponse chunks = .ok response ∧
        firstContent response = .ok (contentValue (textOfChoice 0 stream'))) ↔
    ∀ deltas ∈ stream, Tracked deltas := by
  constructor
  · intro h
    apply tracked_of_marked
    have hread : ((stream.map markDeltas).map chunkOf).mapM readContentDeltas =
        .ok (stream.map markDeltas) := by
      rw [Py.mapM_eq_ok, List.map_map]
      exact List.map_congr_left fun deltas _ => readContentDeltas_chunkOf deltas
    have htyped : ∀ chunk ∈ (stream.map markDeltas).map chunkOf, WellTypedChunk chunk := by
      intro chunk hchunk
      obtain ⟨deltas, -, rfl⟩ := List.mem_map.mp hchunk
      exact wellTypedChunk_chunkOf deltas
    obtain ⟨response, hresponse, hcontent⟩ :=
      h _ _ htyped hread (sameShape_markDeltas stream)
    rw [reassemble_content hresponse hread] at hcontent
    exact contentValue_inj.mp (Except.ok.inj hcontent)
  · intro htracked chunks stream' htyped hstream' hshape
    obtain ⟨response, hresponse⟩ := reassemble_wellTyped htyped
    refine ⟨response, hresponse, ?_⟩
    rw [reassemble_content hresponse hstream', join_firstText (Tracked.of_sameShape hshape htracked)]

/-- Two choices in turn: the delta of choice 1 goes into the content of choice 0. -/
theorem other_choice_in_content :
    ∃ chunks stream response, chunks.mapM readContentDeltas = .ok stream ∧
      reassembleStreamedResponse chunks = .ok response ∧
      firstContent response = .ok (.str "yesno") ∧ textOfChoice 0 stream = "yes" :=
  ⟨[chunkOf [⟨0, "yes"⟩], chunkOf [⟨1, "no"⟩]], [[⟨0, "yes"⟩], [⟨1, "no"⟩]], _, rfl, rfl, rfl, rfl⟩

end CapsuleMesh.Sidecar
