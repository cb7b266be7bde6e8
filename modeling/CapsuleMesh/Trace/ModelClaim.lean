import CapsuleMesh.Trace.Citation

/-!
# The model claim of a cited record

`grade_model_claim` of `trace_citation.py`.  The claim is graded apart from the citation, by
what the quote's REPORT_DATA holds.
-/

namespace CapsuleMesh.Trace

open Python

inductive ModelClaim where
  | absent
  | selfReported
  | attested
deriving DecidableEq

/-- `text.partition(":")`, without the colon. -/
def partitionColon (text : String) : String × String :=
  (String.ofList (text.toList.takeWhile (· ≠ ':')),
    String.ofList ((text.toList.dropWhile (· ≠ ':')).drop 1))

variable (T : Tools)

/-- What REPORT_DATA may hold for a digest: the hash of its text, and the digest that the text
spells. -/
def digestCandidates (digest : String) : List Bytes :=
  let (algo, hexdigest) := partitionColon digest
  T.sha256 (utf8 digest) ::
    if algo = "sha256" ∧ hexdigest.length = 64 then (bytesFromHex hexdigest).toOption.toList
    else []

/-- `model.get("weights_digest")`. -/
def weightsDigest (citedRecord : Json) : Py Json := do
  let model := (← citedRecord.get "model").or (.obj [])
  model.get "weights_digest"

def gradeModelClaim (citedRecord : Json) (quoteBytes : Option Bytes) : Py ModelClaim := do
  let digest ← weightsDigest citedRecord
  if digest.isNull then return .absent
  else
    match quoteBytes with
    | none => return .selfReported
    | some quoteBytes =>
        match T.parseTdxQuote quoteBytes with
        | .error _ => return .selfReported
        | .ok parsed =>
          if (digestCandidates T digest.pyStr).any fun c => parsed.reportData.take 32 = c then
            return .attested
          else return .selfReported

/-- Some bytes are the hash of the digest's text or the digest that `sha256:` and 64 characters
of hex spell. -/
def Binds (reportData : Bytes) (digest : String) : Prop :=
  reportData = T.sha256 (utf8 digest) ∨
    ∃ hexdigest, digest = "sha256:" ++ hexdigest ∧ hexdigest.length = 64 ∧
      bytesFromHex hexdigest = .ok reportData

/-- What the bytes parse to binds the weights digest of the record. -/
def BindsWeights (citedRecord : Json) (quoteBytes : Bytes) : Prop :=
  ∃ digest parsed, weightsDigest citedRecord = .ok digest ∧ digest.isNull = false ∧
    T.parseTdxQuote quoteBytes = .ok parsed ∧ Binds T (parsed.reportData.take 32) digest.pyStr

variable {T}

theorem partitionColon_append {algo : String} (h : ':' ∉ algo.toList) (hexdigest : String) :
    partitionColon (algo ++ ":" ++ hexdigest) = (algo, hexdigest) := by
  have hall : ∀ c ∈ algo.toList, decide (c ≠ ':') = true := by
    intro c hc
    exact decide_eq_true fun heq => h (heq ▸ hc)
  have htext : (algo ++ ":" ++ hexdigest).toList = algo.toList ++ ':' :: hexdigest.toList := by
    simp
  rw [partitionColon, htext, List.takeWhile_append_of_pos hall, List.dropWhile_append_of_pos hall]
  simp

theorem partitionColon_rebuild {text : String} (h : (partitionColon text).2 ≠ "") :
    text = (partitionColon text).1 ++ ":" ++ (partitionColon text).2 := by
  cases hdrop : text.toList.dropWhile (· ≠ ':') with
  | nil =>
      rw [partitionColon, hdrop] at h
      exact absurd rfl h
  | cons c rest =>
      have hc : c = ':' := by
        have := List.head?_dropWhile_not (· ≠ ':') text.toList
        rw [hdrop] at this
        simpa using this
      have hsplit := List.takeWhile_append_dropWhile (p := (· ≠ ':')) (l := text.toList)
      rw [hdrop, hc] at hsplit
      rw [partitionColon, hdrop]
      apply String.toList_inj.mp
      simpa using hsplit.symm

/-- The candidates are the byte strings that bind the digest. -/
theorem mem_digestCandidates {digest : String} {reportData : Bytes} :
    reportData ∈ digestCandidates T digest ↔ Binds T reportData digest := by
  rw [digestCandidates, Binds, List.mem_cons]
  apply or_congr_right
  constructor
  · intro h
    split at h
    next hspelled =>
      cases hhex : bytesFromHex (partitionColon digest).2 with
      | error e =>
        rw [hhex] at h
        cases h
      | ok bytes =>
      rw [hhex] at h
      have hbytes : reportData = bytes := List.mem_singleton.mp h
      subst hbytes
      refine ⟨(partitionColon digest).2, ?_, hspelled.2, hhex⟩
      have hne : (partitionColon digest).2 ≠ "" := by
        intro hempty
        simp [hempty] at hspelled
      have hrebuilt := partitionColon_rebuild hne
      rw [hspelled.1] at hrebuilt
      exact hrebuilt
    next => cases h
  · rintro ⟨hexdigest, rfl, hlength, hhex⟩
    have halgo : ':' ∉ "sha256".toList := by decide
    have hsplit := partitionColon_append halgo hexdigest
    have hcolon : "sha256" ++ ":" ++ hexdigest = "sha256:" ++ hexdigest := rfl
    rw [hcolon] at hsplit
    rw [hsplit, if_pos ⟨rfl, hlength⟩, hhex]
    exact List.mem_singleton_self reportData

theorem any_digestCandidates {digest : String} {parsed : TdxQuote} :
    ((digestCandidates T digest).any fun c => parsed.reportData.take 32 = c) = true ↔
      Binds T (parsed.reportData.take 32) digest := by
  rw [← mem_digestCandidates, List.any_eq_true]
  constructor
  · rintro ⟨candidate, hmem, heq⟩
    rwa [of_decide_eq_true heq]
  · intro hmem
    exact ⟨_, hmem, decide_eq_true rfl⟩

/-- The model claim is graded `attested` exactly where the parsed bytes bind the digest. -/
theorem gradeModelClaim_attested {citedRecord : Json} {quoteBytes : Bytes} :
    gradeModelClaim T citedRecord (some quoteBytes) = .ok .attested ↔
      BindsWeights T citedRecord quoteBytes := by
  rw [gradeModelClaim, Py.bind_eq_ok]
  constructor
  · rintro ⟨digest, hdigest, hgrade⟩
    split at hgrade
    next => cases hgrade
    next hnull =>
      cases hparse : T.parseTdxQuote quoteBytes with
      | error e =>
        simp only [hparse] at hgrade
        cases hgrade
      | ok parsed =>
        simp only [hparse] at hgrade
        split at hgrade
        next hany =>
          exact ⟨digest, parsed, hdigest, Bool.eq_false_iff.mpr hnull, hparse,
            any_digestCandidates.mp hany⟩
        next => cases hgrade
  · rintro ⟨digest, parsed, hdigest, hnull, hparse, hbinds⟩
    refine ⟨digest, hdigest, ?_⟩
    simp only [hnull, hparse, any_digestCandidates.mpr hbinds, Bool.false_eq_true, if_false, if_true]
    rfl

/-- Bytes given as the quote raise a model claim to `attested` only if they verify, exactly
where they verify or do not bind the weights digest. -/
theorem model_claim_verified_iff (T : Tools) (citedRecord : Json) (quoteBytes : Bytes) :
    (gradeModelClaim T citedRecord (some quoteBytes) = .ok .attested →
      T.verifyTdxQuote quoteBytes = .ok true ∧ BindsWeights T citedRecord quoteBytes) ↔
      ¬ BindsWeights T citedRecord quoteBytes ∨ T.verifyTdxQuote quoteBytes = .ok true := by
  rw [gradeModelClaim_attested]
  constructor
  · intro h
    by_cases hbinds : BindsWeights T citedRecord quoteBytes
    · exact Or.inr (h hbinds).1
    · exact Or.inl hbinds
  · rintro (h | h) hbinds
    · exact absurd hbinds h
    · exact ⟨h, hbinds⟩

/-- A record whose weights digest is written into the bytes that are given as its quote. -/
def claimedRecord : Json :=
  .obj [("model", .obj [("weights_digest", .str "weights-v1")])]

/-- `unsignedTools`, with a verifier that accepts no bytes. -/
def refusingTools : Tools :=
  { unsignedTools with verifyTdxQuote := fun _ => .ok false }

theorem unverified_quote_attested :
    gradeModelClaim refusingTools claimedRecord (some [187]) = .ok .attested ∧
      refusingTools.verifyTdxQuote [187] = .ok false := by
  constructor
  · apply gradeModelClaim_attested.mpr
    exact ⟨.str "weights-v1", ⟨[170], [187]⟩, rfl, rfl, rfl, Or.inl (by decide +kernel)⟩
  · rfl

end CapsuleMesh.Trace
