import CapsuleMesh.Python.Lines

/-!
# Citations of a foreign trust record

`grade_tee_citation` of `trace_citation.py`: which of three grades the TDX evidence of a cited
record earns.  The quote verifier, the record verifier, base64 and SHA-256 are parameters.
-/

namespace CapsuleMesh.Trace

open Python

structure TdxQuote where
  mrtd : Bytes
  reportData : Bytes

/-- What the module calls.  The errors carry the texts that get into a reason. -/
structure Tools where
  /-- `.error` is a `TdxVerificationError`. -/
  verifyTdxQuote : Bytes → Except String Bool
  parseTdxQuote : Bytes → Except String TdxQuote
  /-- `verify_record(record, jwk, max_age_seconds=None)`; `.error` is `f"{type(e).__name__}: {e}"`. -/
  verifyRecord : (record jwk : Json) → Except String Unit
  urlsafeB64decode : String → Option Bytes
  sha256 : Bytes → Bytes
  lower : String → String
  floatRepr : String → String

def TRACE_RECORD_REF_TYPE : String := "trace-record"
def DIGEST_ALG_SHA256 : String := "SHA-256"

inductive Grade where
  | unattested
  | platformAttested
  | attested
deriving DecidableEq

inductive SignatureState where
  | absent
  | verified
  | failed
deriving DecidableEq

def CARD_TEXT : Grade → String
  | .unattested =>
      "no verifiable hardware evidence cited -- every runtime claim here is the issuer's word"
  | .platformAttested =>
      "genuine Intel silicon reported this measurement. This is NOT a claim that " ++
      "this record's execution happened on that silicon, and NOT a claim that the " ++
      "platform's TCB is current -- the verifier checks the DCAP signature chain " ++
      "to a pinned Intel root only, offline, with no live PCS/ITA call."
  | .attested =>
      "genuine Intel silicon reported this measurement, and the quote's " ++
      "REPORT_DATA commits to the key that signs this record -- unreachable from " ++
      "any artifact this codebase holds today."

/-- The arguments of `grade_tee_citation`. -/
structure Citation where
  reference : Json
  citedRecord : Json
  citedRecordBytes : Bytes
  quoteBytes : Option Bytes
  trustedIssuerJwk : Option Json

structure TeeCitationResult where
  grade : Grade
  reason : String
  cardText : String
  mrtd : Option String
  quoteVerifies : Option Bool
  citationMatches : Option Bool
  recordSignatureState : SignatureState
  recordSignatureDetail : String

variable (T : Tools)

/-- `hmac.compare_digest` on strings, which have to be ASCII. -/
def compareDigest (a b : String) : Py Bool :=
  if a.toList.all (·.toNat < 128) && b.toList.all (·.toNat < 128) then .ok (a = b)
  else .error .typeError

def citationMatches (recordBytes : Bytes) (reference : Json) : Py Bool := do
  if (← reference.get "type").str? ≠ some TRACE_RECORD_REF_TYPE then return false
  if (← reference.get "digest_alg").str? ≠ some DIGEST_ALG_SHA256 then return false
  match ← reference.get "digest" with
  | .str digest => compareDigest (hexText (T.sha256 recordBytes)) (T.lower digest)
  | _ => return false

/-- `_b64url_decode`. -/
def b64urlDecode (value : String) : Option Bytes :=
  T.urlsafeB64decode
    (value ++ String.ofList (List.replicate ((4 - value.length % 4) % 4) '='))

def unattested (reason : String) (citationOk quoteVerifies : Option Bool) (mrtd : Option String)
    (signature : SignatureState × String) : TeeCitationResult :=
  ⟨.unattested, reason, CARD_TEXT .unattested, mrtd, quoteVerifies, citationOk, signature.1,
    signature.2⟩

/-- `_check_record_signature`. -/
def checkRecordSignature (citedRecord : Json) (trustedIssuerJwk : Option Json) :
    SignatureState × String :=
  match trustedIssuerJwk with
  | none =>
      (.absent, "no trusted issuer key configured -- record authenticity not checked; " ++
        "citation-digest match is the only binding available today")
  | some jwk =>
      match T.verifyRecord citedRecord jwk with
      | .ok _ => (.verified, "record signature verifies against the configured trusted issuer key")
      | .error e => (.failed, "record signature check failed: " ++ e)

/-- `text.rsplit(":", 1)[-1]`. -/
def afterLastColon (text : String) : String :=
  String.ofList (text.toList.reverse.takeWhile (· ≠ ':')).reverse

def normalizedClaimed (claimed : Json) : String :=
  T.lower (strip (afterLastColon claimed.pyStr))

/-- The key of an OKP JWK; one that cannot be decoded fails the check without an exception. -/
def okpKey (jwk : Json) : Py (Option Bytes) := do
  let kty ← jwk.get "kty"
  let x ← jwk.get "x"
  if kty.str? = some "OKP" && x.truthy then return x.str?.bind (b64urlDecode T)
  else return none

/-- The key that a record names as the one it is signed with. -/
def cnfKey (citedRecord : Json) : Py (Option Bytes) := do
  let cnf := (← citedRecord.get "cnf").or (.obj [])
  let cnfJwk := (← cnf.get "jwk").or (.obj [])
  okpKey T cnfJwk

/-- The key-binding rule. -/
def reachableAttested (citedRecord : Json) (parsed : TdxQuote) : Py Bool := do
  let key ← cnfKey T citedRecord
  return key.any fun pubRaw => parsed.reportData.take 32 = T.sha256 pubRaw

/-- A rejection of a citation whose bytes match. -/
def rejected (signature : SignatureState × String) (reason : String)
    (quoteVerifies : Option Bool) (mrtd : Option String) : Py TeeCitationResult :=
  .ok (unattested reason (some true) quoteVerifies mrtd signature)

/-- The binding rule and the key-binding rule, for a quote that verified. -/
def gradeVerified (citedRecord runtime : Json) (parsed : TdxQuote)
    (signature : SignatureState × String) : Py TeeCitationResult := do
  let mrtdHex := hexText parsed.mrtd
  let claimed ← runtime.get "measurement"
  if !claimed.truthy then
    rejected signature "cited record declares no runtime.measurement" (some true) (some mrtdHex)
  else if normalizedClaimed T claimed ≠ T.lower mrtdHex then
    rejected signature ("runtime.measurement (" ++ claimed.pyStr ++
      ") does not match the quote's MRTD (" ++ mrtdHex ++ ") -- citation mismatch")
      (some true) (some mrtdHex)
  else
    let reachable ← reachableAttested T citedRecord parsed
    let grade : Grade := if reachable then .attested else .platformAttested
    let reason :=
      if reachable then "REPORT_DATA commits to this record's signing key"
      else "genuine silicon reported this measurement; REPORT_DATA in this quote " ++
        "binds a manifest digest, not a record-signing key, so the top grade is " ++
        "unreachable from this evidence regardless of which valid quote sharing " ++
        "this MRTD is cited"
    return ⟨grade, reason, CARD_TEXT grade, some mrtdHex, some true, some true, signature.1,
      signature.2⟩

/-- Quote verification. -/
def gradeQuote (citedRecord runtime : Json) (signature : SignatureState × String)
    (quoteBytes : Bytes) : Py TeeCitationResult :=
  match T.verifyTdxQuote quoteBytes with
  | .error e =>
      rejected signature ("quote malformed or verification error: " ++ e) (some false) none
  | .ok false => rejected signature "quote signature chain did not verify" (some false) none
  | .ok true =>
      match T.parseTdxQuote quoteBytes with
      -- nothing catches the error of this second call
      | .error _ => .error .runtimeError
      | .ok parsed => gradeVerified T citedRecord runtime parsed signature

/-- Evidence presence and shape. -/
def gradeEvidence (citedRecord runtime : Json) (signature : SignatureState × String)
    (quoteBytes : Option Bytes) : Py TeeCitationResult := do
  let evidence ← runtime.get "evidence"
  if !evidence.truthy then
    rejected signature "cited record carries no runtime.evidence" none none
  else
    let format ← evidence.get "format"
    if format.str? ≠ some "tdx-quote-v4" then
      rejected signature ("unsupported evidence format " ++ format.pyRepr) none none
    else
      match quoteBytes with
      | none =>
        rejected signature ("no quote bytes carried alongside the citation -- " ++
          "by-reference evidence has verified nothing") none none
      | some quoteBytes =>
        let platform ← runtime.get "platform"
        if platform.str? ≠ some "intel-tdx" then
          rejected signature ("platform " ++ platform.pyRepr ++
            " is not what this evidence roots") none none
        else gradeQuote T citedRecord runtime signature quoteBytes

def gradeTeeCitation (c : Citation) : Py TeeCitationResult := do
  if !(← citationMatches T c.citedRecordBytes c.reference) then
    return unattested ("cited record bytes do not match the reference digest -- forged, " ++
      "stale, or substituted citation") (some false) none none
      (.absent, "no trusted issuer key configured")
  else
    let signature := checkRecordSignature T c.citedRecord c.trustedIssuerJwk
    if signature.1 = .failed then
      rejected signature ("cited record envelope failed: " ++ signature.2) none none
    else
      let runtime := (← c.citedRecord.get "runtime").or (.obj [])
      gradeEvidence T c.citedRecord runtime signature c.quoteBytes

/-! ## The top grade -/

/-- The record declares the measurement that the quote reports. -/
def MeasurementMatches (runtime : Json) (parsed : TdxQuote) : Prop :=
  ∃ claimed, runtime.get "measurement" = .ok claimed ∧ claimed.truthy = true ∧
    normalizedClaimed T claimed = T.lower (hexText parsed.mrtd)

def CarriesEvidence (runtime : Json) : Prop :=
  ∃ evidence, runtime.get "evidence" = .ok evidence ∧ evidence.truthy = true ∧
    ∃ format, evidence.get "format" = .ok format ∧ format.str? = some "tdx-quote-v4"

def OnIntelTdx (runtime : Json) : Prop :=
  ∃ platform, runtime.get "platform" = .ok platform ∧ platform.str? = some "intel-tdx"

/-- REPORT_DATA commits to a key. -/
def CommitsTo (parsed : TdxQuote) (key : Bytes) : Prop := parsed.reportData.take 32 = T.sha256 key

/-- The checks of a quote against the record. -/
structure QuoteChecks (citedRecord runtime : Json) (quote : Bytes) (parsed : TdxQuote) : Prop where
  verifies : T.verifyTdxQuote quote = .ok true
  parses : T.parseTdxQuote quote = .ok parsed
  measurement : MeasurementMatches T runtime parsed
  key : ∃ pubRaw, cnfKey T citedRecord = .ok (some pubRaw) ∧ CommitsTo T parsed pubRaw

/-- All checks that are made before the grade is `attested`. -/
structure AttestedChecks (c : Citation) (runtime : Json) (quote : Bytes) (parsed : TdxQuote) :
    Prop where
  cited : citationMatches T c.citedRecordBytes c.reference = .ok true
  signature : (checkRecordSignature T c.citedRecord c.trustedIssuerJwk).1 ≠ .failed
  runtimeOf : c.citedRecord.get "runtime" = .ok runtime
  evidence : CarriesEvidence (runtime.or (.obj []))
  platform : OnIntelTdx (runtime.or (.obj []))
  carried : c.quoteBytes = some quote
  quote : QuoteChecks T c.citedRecord (runtime.or (.obj [])) quote parsed

/-- A grading returns the top grade. -/
def Attests (graded : Py TeeCitationResult) : Prop :=
  ∃ result, graded = .ok result ∧ result.grade = .attested

theorem attests_bind {α : Type} {x : Py α} {f : α → Py TeeCitationResult} :
    Attests (x >>= f) ↔ ∃ a, x = .ok a ∧ Attests (f a) := by
  simp only [Attests, Py.bind_eq_ok]
  constructor
  · rintro ⟨result, ⟨a, ha, hresult⟩, hgrade⟩
    exact ⟨a, ha, result, hresult, hgrade⟩
  · rintro ⟨a, ha, result, hresult, hgrade⟩
    exact ⟨result, ⟨a, ha, hresult⟩, hgrade⟩

theorem attests_ok {result : TeeCitationResult} :
    Attests (.ok result) ↔ result.grade = .attested := by
  constructor
  · rintro ⟨result', h, hgrade⟩
    cases h
    exact hgrade
  · intro hgrade
    exact ⟨result, rfl, hgrade⟩

theorem not_attests_error {e : PyError} : ¬ Attests (.error e) := by
  rintro ⟨result, h, -⟩
  cases h

theorem not_attests_unattested {reason : String} {citationOk quoteVerifies : Option Bool}
    {mrtd : Option String} {signature : SignatureState × String} :
    ¬ Attests (.ok (unattested reason citationOk quoteVerifies mrtd signature)) := by
  rw [attests_ok]
  intro h
  cases h

theorem not_attests_rejected {signature : SignatureState × String} {reason : String}
    {quoteVerifies : Option Bool} {mrtd : Option String} :
    ¬ Attests (rejected signature reason quoteVerifies mrtd) := not_attests_unattested

/-- A check that rejects has to be passed. -/
theorem attests_ite {p : Prop} [Decidable p] {graded rest : Py TeeCitationResult}
    (h : ¬ Attests graded) : Attests (if p then graded else rest) ↔ ¬ p ∧ Attests rest := by
  by_cases hp : p
  · rw [if_pos hp]
    exact ⟨fun hgraded => absurd hgraded h, fun hrest => absurd hp hrest.1⟩
  · rw [if_neg hp]
    exact ⟨fun hrest => ⟨hp, hrest⟩, And.right⟩

variable {T}

theorem reachableAttested_eq_true {citedRecord : Json} {parsed : TdxQuote} :
    reachableAttested T citedRecord parsed = .ok true ↔
      ∃ pubRaw, cnfKey T citedRecord = .ok (some pubRaw) ∧ CommitsTo T parsed pubRaw := by
  rw [reachableAttested, Py.bind_eq_ok]
  constructor
  · rintro ⟨key, hkey, hbound⟩
    cases key with
    | none => cases hbound
    | some pubRaw => exact ⟨pubRaw, hkey, by simpa [CommitsTo] using hbound⟩
  · rintro ⟨pubRaw, hkey, hbound⟩
    exact ⟨some pubRaw, hkey, by simpa [CommitsTo] using hbound⟩

theorem gradeVerified_attests {citedRecord runtime : Json} {parsed : TdxQuote}
    {signature : SignatureState × String} :
    Attests (gradeVerified T citedRecord runtime parsed signature) ↔
      MeasurementMatches T runtime parsed ∧
        ∃ pubRaw, cnfKey T citedRecord = .ok (some pubRaw) ∧ CommitsTo T parsed pubRaw := by
  have hreach : ∀ reachable, (if reachable = true then Grade.attested else .platformAttested) =
      .attested ↔ reachable = true := by decide
  rw [← reachableAttested_eq_true, gradeVerified, attests_bind, MeasurementMatches]
  simp only [attests_ite not_attests_rejected, attests_bind, Py.pure_eq_ok, attests_ok, hreach,
    Bool.not_eq_true', Bool.not_eq_false, ne_eq, not_not, exists_eq_right, ← exists_and_right,
    and_assoc]

theorem gradeQuote_attests {citedRecord runtime : Json} {signature : SignatureState × String}
    {quote : Bytes} :
    Attests (gradeQuote T citedRecord runtime signature quote) ↔
      ∃ parsed, QuoteChecks T citedRecord runtime quote parsed := by
  rw [gradeQuote]
  constructor
  · intro h
    cases hverify : T.verifyTdxQuote quote with
    | error e =>
        rw [hverify] at h
        exact absurd h not_attests_rejected
    | ok verified =>
        rw [hverify] at h
        cases verified with
        | false => exact absurd h not_attests_rejected
        | true =>
          cases hparse : T.parseTdxQuote quote with
          | error e =>
            simp only [hparse] at h
            exact absurd h not_attests_error
          | ok parsed =>
            simp only [hparse] at h
            obtain ⟨hmeasurement, hkey⟩ := gradeVerified_attests.mp h
            exact ⟨parsed, hverify, hparse, hmeasurement, hkey⟩
  · rintro ⟨parsed, h⟩
    simp only [h.verifies, h.parses]
    exact gradeVerified_attests.mpr ⟨h.measurement, h.key⟩

theorem gradeEvidence_attests {citedRecord runtime : Json} {signature : SignatureState × String}
    {quoteBytes : Option Bytes} :
    Attests (gradeEvidence T citedRecord runtime signature quoteBytes) ↔
      CarriesEvidence runtime ∧ OnIntelTdx runtime ∧ ∃ quote, quoteBytes = some quote ∧
        ∃ parsed, QuoteChecks T citedRecord runtime quote parsed := by
  simp only [gradeEvidence, CarriesEvidence, OnIntelTdx, attests_bind,
    attests_ite not_attests_rejected, Bool.not_eq_true', Bool.not_eq_false, ne_eq, not_not]
  cases quoteBytes with
  | none => simp [not_attests_rejected]
  | some quote =>
      simp only [attests_bind, attests_ite not_attests_rejected, gradeQuote_attests, not_not,
        Option.some.injEq, exists_eq_left', ← exists_and_right, and_assoc]

/-- The grade is the top one exactly where all checks pass. -/
theorem gradeTeeCitation_attests {c : Citation} :
    Attests (gradeTeeCitation T c) ↔
      ∃ runtime quote parsed, AttestedChecks T c runtime quote parsed := by
  rw [gradeTeeCitation, attests_bind]
  simp only [Py.pure_eq_ok, attests_ite not_attests_unattested, attests_ite not_attests_rejected,
    Bool.not_eq_true', Bool.not_eq_false, attests_bind, gradeEvidence_attests]
  constructor
  · rintro ⟨_, hcited, rfl, hsignature, runtime, hruntime, hevidence, hplatform, quote, hcarried,
      parsed, hquote⟩
    exact ⟨runtime, quote, parsed, hcited, hsignature, hruntime, hevidence, hplatform, hcarried,
      hquote⟩
  · rintro ⟨runtime, quote, parsed, h⟩
    exact ⟨true, h.cited, rfl, h.signature, runtime, h.runtimeOf, h.evidence, h.platform, quote, h.carried,
      parsed, h.quote⟩

/-! ## The chain from the silicon to the record -/

section

variable (T)

/-- The record is the one that the bytes encode. -/
def Encodes (recordBytes : Bytes) (record : Json) : Prop :=
  ∃ value, decodeUtf8 recordBytes >>= loads T.floatRepr = .ok value ∧ value.pyEq record = true

/-- The signature of the record verifies under a key. -/
def SignedUnder (record : Json) (key : Bytes) : Prop :=
  ∃ jwk, okpKey T jwk = .ok (some key) ∧ T.verifyRecord record jwk = .ok ()

/-- Silicon signs the quote, the quote commits to the key, and the key signs the record. -/
structure Chain (c : Citation) (runtime : Json) (quote : Bytes) (parsed : TdxQuote)
    (key : Bytes) : Prop where
  carried : c.quoteBytes = some quote
  verifies : T.verifyTdxQuote quote = .ok true
  parses : T.parseTdxQuote quote = .ok parsed
  runtimeOf : c.citedRecord.get "runtime" = .ok runtime
  measurement : MeasurementMatches T (runtime.or (.obj [])) parsed
  commits : CommitsTo T parsed key
  encoded : Encodes T c.citedRecordBytes c.citedRecord
  signed : SignedUnder T c.citedRecord key

end

theorem Chain.parsed_unique {c : Citation} {runtime runtime' : Json} {quote quote' key : Bytes}
    {parsed parsed' : TdxQuote} (h : Chain T c runtime quote parsed key)
    (h' : AttestedChecks T c runtime' quote' parsed') : parsed = parsed' := by
  have hquote : quote = quote' := Option.some.inj (h.carried.symm.trans h'.carried)
  subst hquote
  exact Except.ok.inj (h.parses.symm.trans h'.quote.parses)

/-- The grade `attested` stands for the whole chain exactly where, if all checks pass, the bytes
encode the record and its signature verifies under a key that REPORT_DATA commits to. -/
theorem attested_chain_iff (T : Tools) (c : Citation) :
    (Attests (gradeTeeCitation T c) →
      ∃ runtime quote parsed key, Chain T c runtime quote parsed key) ↔
      ∀ runtime quote parsed, AttestedChecks T c runtime quote parsed →
        Encodes T c.citedRecordBytes c.citedRecord ∧
          ∃ key, CommitsTo T parsed key ∧ SignedUnder T c.citedRecord key := by
  rw [gradeTeeCitation_attests]
  constructor
  · intro hchain runtime quote parsed h
    obtain ⟨_, _, parsed', key, hholds⟩ := hchain ⟨runtime, quote, parsed, h⟩
    have hparsed := hholds.parsed_unique h
    subst hparsed
    exact ⟨hholds.encoded, key, hholds.commits, hholds.signed⟩
  · rintro hlinks ⟨runtime, quote, parsed, h⟩
    obtain ⟨hencoded, key, hcommits, hsigned⟩ := hlinks runtime quote parsed h
    exact ⟨runtime, quote, parsed, key, h.carried, h.quote.verifies, h.quote.parses, h.runtimeOf,
      h.quote.measurement, hcommits, hencoded, hsigned⟩

/-- Tools under which no signature of a record verifies. -/
def unsignedTools : Tools where
  verifyTdxQuote _ := .ok true
  parseTdxQuote quote := .ok ⟨[170], quote⟩
  verifyRecord _ _ := .error "InvalidSignature: "
  urlsafeB64decode _ := some [7]
  sha256 data := if data = [7] then List.replicate 32 7 else [187]
  lower text := text
  floatRepr text := text

def unsignedRecord : Json :=
  .obj [
    ("runtime", .obj [("platform", .str "intel-tdx"),
      ("evidence", .obj [("format", .str "tdx-quote-v4")]), ("measurement", .str "sha384:aa")]),
    ("cnf", .obj [("jwk", .obj [("kty", .str "OKP"), ("x", .str "Bw==")])])]

/-- A record that nobody signed, cited by the hash of its own bytes, with a genuine quote whose
REPORT_DATA holds the hash of the key that the record names. -/
def unsignedCitation : Citation where
  reference := .obj [("type", .str "trace-record"), ("digest_alg", .str "SHA-256"),
    ("digest", .str "bb")]
  citedRecord := unsignedRecord
  citedRecordBytes := jcs unsignedRecord
  quoteBytes := some (List.replicate 32 7)
  trustedIssuerJwk := none

theorem unsigned_record_attested :
    Attests (gradeTeeCitation unsignedTools unsignedCitation) ∧
      ¬ ∃ runtime quote parsed key,
        Chain unsignedTools unsignedCitation runtime quote parsed key := by
  constructor
  · refine gradeTeeCitation_attests.mpr ⟨_, _, _, ?_, ?_, rfl, ?_, ?_, rfl, rfl, rfl, ?_, ?_⟩
    · decide +kernel
    · decide
    · exact ⟨_, rfl, rfl, _, rfl, rfl⟩
    · exact ⟨_, rfl, rfl⟩
    · exact ⟨_, rfl, rfl, by decide +kernel⟩
    · exact ⟨_, rfl, rfl⟩
  · rintro ⟨runtime, quote, parsed, key, h⟩
    obtain ⟨jwk, -, hsigned⟩ := h.signed
    cases hsigned

end CapsuleMesh.Trace
