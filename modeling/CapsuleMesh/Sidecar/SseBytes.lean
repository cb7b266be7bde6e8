import CapsuleMesh.Python.Lines
import CapsuleMesh.Sidecar.StreamRoundTrip

/-!
# The synthesized stream as bytes

What `synthesize_sse` puts on the wire and what the streaming handler of the next sidecar
collects from it.  The copy for the caller, sent this way, is reassembled to itself.
-/

namespace CapsuleMesh.Sidecar

open Python

/-! ## Writing and reading the lines -/

/-- A line on the wire; what the reader skips anyway is not written. -/
def SseLine.wire : SseLine → Bytes
  | .data chunk => utf8 ("data: " ++ chunk.dumps ++ "\n\n")
  | .done => utf8 "data: [DONE]\n\n"
  | .other => []

def synthesizeSseBytes (response : Json) : Py (List Bytes) := do
  return (← synthesizeSse response).map SseLine.wire

section

-- `floatRepr` is `repr(float(text))`, `replaced` the text of bytes that are not UTF-8
variable (floatRepr : String → String) (replaced : Bytes → String)

/-- One round of the loop over the lines of the upstream response. -/
def readSseLine (rawLine : Bytes) : Option Json :=
  let line := strip (decodeReplace replaced rawLine)
  if "data:".toList.isPrefixOf line.toList then
    let dataPart := strip (String.ofList (line.toList.drop "data:".length))
    if dataPart = "[DONE]" ∨ dataPart = "" then none
    else
      match loads floatRepr dataPart with
      | .ok chunk => some chunk
      | .error _ => none
  else none

/-- The chunks the streaming handler collects from a response. -/
def readSseBytes (body : Bytes) : List Json :=
  (byteLines body).filterMap (readSseLine floatRepr replaced)

/-- `build_forwarded_copy` with the text that makes the copy a deep one. -/
def buildForwardedCopyOfText (uuids : ℕ → String) (response : Json) : Py (Json × ForwardLog) := do
  let forwarded ← loads floatRepr response.dumps
  buildForwardedCopy uuids forwarded

end

section

variable {floatRepr : String → String} {replaced : Bytes → String}

theorem readSseLine_text {text : String} (hprintable : ∀ c ∈ text.toList, Printable c)
    (hfirst : ∀ c ∈ text.toList.head?, c ≠ ' ') (hlast : ∀ c ∈ text.toList.getLast?, c ≠ ' ')
    (hne : text ≠ "") :
    readSseLine floatRepr replaced (utf8 ("data: " ++ text ++ "\n")) =
      if text = "[DONE]" then none
      else
        match loads floatRepr text with
        | .ok chunk => some chunk
        | .error _ => none := by
  have hsolid : ∀ c ∈ text.toList, c ≠ ' ' → isSpace c = false :=
    fun c hc => (hprintable c hc).isSpace_eq_false
  have hlastSolid : ∀ c ∈ text.toList.getLast?, isSpace c = false :=
    fun c hc => hsolid c (List.mem_of_getLast? hc) (hlast c hc)
  have hnil : text.toList ≠ [] := by simpa using hne
  have hline : strip ("data: " ++ text ++ "\n") = "data: " ++ text := by
    have hpadded := strip_padded "" ("data: " ++ text) "\n" (by simp) (by simp [isSpace])
      (by simp [isSpace])
      (by rwa [String.toList_append, List.getLast?_append_of_ne_nil _ hnil])
    rwa [String.empty_append] at hpadded
  have hdata : strip (String.ofList (("data: " ++ text).toList.drop "data:".length)) = text := by
    have hpadded := strip_padded " " text "" (by simp [isSpace]) (by simp)
      (fun c hc => hsolid c (List.mem_of_head? hc) (hfirst c hc)) hlastSolid
    have hdrop : String.ofList (("data: " ++ text).toList.drop "data:".length) = " " ++ text := by
      rw [String.toList_append]
      apply String.toList_injective
      rw [String.toList_ofList, String.toList_append]
      rfl
    rwa [hdrop, ← String.append_empty (s := " " ++ text)]
  have hstart : "data:".toList.isPrefixOf ("data: " ++ text).toList = true := by
    rw [String.toList_append, List.isPrefixOf_iff_prefix]
    exact ⟨' ' :: text.toList, rfl⟩
  unfold readSseLine
  simp only [decodeReplace_utf8, hline, hdata, hstart, if_true, hne, or_false]

/-- The blank line after an event. -/
theorem readSseLine_blank : readSseLine floatRepr replaced (utf8 "\n") = none := by
  have hstrip : strip "\n" = "" := rfl
  have hstart : ¬"data:".toList.isPrefixOf "".toList = true := by decide
  unfold readSseLine
  simp only [decodeReplace_utf8, hstrip, if_neg hstart]

theorem readSseBytes_event {text : String} (hprintable : ∀ c ∈ text.toList, Printable c)
    (rest : Bytes) :
    readSseBytes floatRepr replaced (utf8 ("data: " ++ text ++ "\n\n") ++ rest) =
      (readSseLine floatRepr replaced (utf8 ("data: " ++ text ++ "\n"))).toList ++
        readSseBytes floatRepr replaced rest := by
  have hline : ∀ c ∈ ("data: " ++ text).toList, Printable c := by
    have hstart : ∀ c ∈ "data: ".toList, Printable c := printable_of_all (by decide)
    intro c hc
    rw [String.toList_append, List.mem_append] at hc
    exact hc.elim (hstart c) (hprintable c)
  have hend : utf8 "\n" = [10] := by rw [utf8_eq_flatMap]; decide
  have hends : utf8 "\n\n" = [10, 10] := by rw [utf8_eq_flatMap]; decide
  have hlines : byteLines (utf8 ("data: " ++ text ++ "\n\n") ++ rest) =
      utf8 ("data: " ++ text ++ "\n") :: utf8 "\n" :: byteLines rest := by
    rw [utf8_append _ "\n\n", hends, List.append_assoc, List.cons_append, List.singleton_append,
      byteLines_line (newline_notMem_utf8 hline), utf8_append _ "\n", hend]
    exact congrArg _ (byteLines_line (List.not_mem_nil) rest)
  rw [readSseBytes, hlines, List.filterMap_cons, List.filterMap_cons, readSseLine_blank,
    readSseBytes]
  cases readSseLine floatRepr replaced (utf8 ("data: " ++ text ++ "\n")) <;> rfl

/-- A chunk on the wire is read back. -/
theorem readSseBytes_data {chunk : Json} (h : chunk.Proper floatRepr) (rest : Bytes) :
    readSseBytes floatRepr replaced ((SseLine.data chunk).wire ++ rest) =
      chunk :: readSseBytes floatRepr replaced rest := by
  obtain ⟨d, ds, htext, hopens⟩ := writes_dumps.head_text h
  obtain ⟨cs, c, hend, hblank⟩ := last_dumps h
  have hfirst : ∀ c ∈ chunk.dumps.toList.head?, c ≠ ' ' := by
    rw [htext]
    rintro c ⟨⟩ rfl
    simp [Opens] at hopens
  have hlast : ∀ c ∈ chunk.dumps.toList.getLast?, c ≠ ' ' := by
    simpa [hend] using hblank
  have hne : chunk.dumps ≠ "" := by
    intro hempty
    simp [hempty] at htext
  -- the end mark is no JSON text
  have hdone : chunk.dumps ≠ "[DONE]" := by
    intro hdone
    have hread := loads_dumps h
    rw [hdone] at hread
    cases hread
  rw [SseLine.wire, readSseBytes_event (printable_dumps h),
    readSseLine_text (printable_dumps h) hfirst hlast hne, if_neg hdone, loads_dumps h]
  rfl

theorem readSseBytes_done (rest : Bytes) :
    readSseBytes floatRepr replaced (SseLine.done.wire ++ rest) =
      readSseBytes floatRepr replaced rest := by
  have hprintable : ∀ c ∈ "[DONE]".toList, Printable c := printable_of_all (by decide)
  have hfirst : ∀ c ∈ "[DONE]".toList.head?, c ≠ ' ' := by
    rintro c ⟨⟩
    decide
  have hlast : ∀ c ∈ "[DONE]".toList.getLast?, c ≠ ' ' := by
    rintro c ⟨⟩
    decide
  have htext : utf8 "data: [DONE]\n\n" = utf8 ("data: " ++ "[DONE]" ++ "\n\n") := rfl
  rw [SseLine.wire, htext, readSseBytes_event hprintable,
    readSseLine_text hprintable hfirst hlast (by decide), if_pos rfl]
  rfl

/-- Reading the bytes is reading the lines. -/
theorem readSseBytes_wire {lines : List SseLine}
    (h : ∀ chunk ∈ readSse lines, chunk.Proper floatRepr) :
    readSseBytes floatRepr replaced (lines.map SseLine.wire).flatten = readSse lines := by
  induction lines with
  | nil => rfl
  | cons line lines ih =>
      have hrest : ∀ chunk ∈ readSse lines, chunk.Proper floatRepr := by
        intro chunk hchunk
        apply h
        cases line with
        | data _ => exact List.mem_cons_of_mem _ hchunk
        | done => exact hchunk
        | other => exact hchunk
      rw [List.map_cons, List.flatten_cons]
      cases line with
      | data chunk =>
        rw [readSseBytes_data (h chunk List.mem_cons_self), ih hrest]
        rfl
      | done =>
        rw [readSseBytes_done, ih hrest]
        rfl
      | other => exact ih hrest

end

end CapsuleMesh.Sidecar
