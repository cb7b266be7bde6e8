import CapsuleMesh.Python.Bytes

/-!
# The client's request attestation

`evaluate_bilateral_attestation` of `capsule_sidecar.py`.  Base64, JSON parsing,
the signature library, the clock and SHA-256 are parameters.  Steps whose
exceptions the source does not catch raise here too.
-/

namespace CapsuleMesh.Sidecar

open Python

structure BilateralEvalResult where
  present : Bool
  valid : Bool
  initiatorRef : Option String
  correlator : Json
  failReason : Option String

/-- How `datetime.fromisoformat` and the comparison with the current time end. -/
inductive TimeCheck where
  | malformed
  | naive
  | past
  | current
deriving DecidableEq

/-- How `load_pem_public_key(pem).verify(signature, message)` ends. -/
inductive SignatureCheck where
  | verified
  | invalidSignature
  | failed (text : String)
deriving DecidableEq

/-- How decoding and parsing an attestation fails: with one of the two exceptions that are caught, or
with one that is not, as for a text that nests too deep. -/
inductive ParseFailure where
  | caught (text : String)
  | escapes (e : PyError)
deriving DecidableEq

structure AttestationCrypto where
  urlsafeB64decode : String → Except String Bytes
  loads : Bytes → Except ParseFailure Json
  verify : (pem signature message : Bytes) → SignatureCheck
  sha256Hex : Bytes → String
  checkTime : String → TimeCheck

/-- The request headers by lower-case name. -/
abbrev Headers := String → Option String

def BILATERAL_RA_HEADER : String := "x-capsule-request-attestation"
def BILATERAL_RA_SIG_HEADER : String := "x-capsule-request-attestation-sig"
def BILATERAL_PUBKEY_HEADER : String := "x-capsule-client-pubkey"

/-- A header that is present and not empty. -/
def Headers.nonEmpty (headers : Headers) (name : String) : Option String :=
  (headers name).filter (· ≠ "")

def evalAbsent : BilateralEvalResult := ⟨false, false, none, .null, none⟩

def evalFailed (initiatorRef : Option String) (correlator : Json) (reason : String) :
    BilateralEvalResult :=
  ⟨true, false, initiatorRef, correlator, some reason⟩

/-- The validity window: whether the attestation is past its `valid_until`. -/
def expired (crypto : AttestationCrypto) (ra : Json) : Py Bool := do
  let validUntil ← ra.get "valid_until"
  if validUntil.truthy then
    match validUntil with
    | .str text =>
        match crypto.checkTime text with
        | .past => return true
        | .naive => throw .typeError
        | .malformed | .current => return false
    | _ => throw .attributeError
  else return false

/-- The token ceiling: the two numbers when the request exceeds it. -/
def exceedsMaxTokens (ra requestJson : Json) : Py (Option (Json × Json)) := do
  let raMaxTokens ← ra.get "max_tokens"
  let reqMaxTokens :=
    (← requestJson.get "max_tokens").or (← requestJson.get "max_completion_tokens")
  if raMaxTokens.isNull || reqMaxTokens.isNull then return none
  else if (← reqMaxTokens.toInt) > (← raMaxTokens.toInt) then
    return some (reqMaxTokens, raMaxTokens)
  else return none

/-- The checks after the signature verified; `ra` is what `raBytes` parses to. -/
def evaluateSigned (crypto : AttestationCrypto) (raBytes : Bytes) (ra nonce : Json)
    (rawBody : Bytes) (requestJson : Json) : Py BilateralEvalResult := do
  let initiatorRef := some (crypto.sha256Hex raBytes)
  if ← expired crypto ra then
    return evalFailed initiatorRef nonce "request attestation expired (valid_until in the past)"
  let actual := crypto.sha256Hex rawBody
  let attested ← ra.get "request_digest"
  if attested.str? ≠ some actual then
    return evalFailed initiatorRef nonce ("request_digest mismatch: RA attests " ++
      attested.pyRepr ++ ", actual body digest " ++ Python.pyRepr actual)
  match ← exceedsMaxTokens ra requestJson with
  | some (wanted, authorized) =>
      return evalFailed initiatorRef nonce ("max_tokens bound exceeded: request wants " ++
        wanted.pyStr ++ ", RA authorized " ++ authorized.pyStr)
  | none => return ⟨true, true, initiatorRef, nonce, none⟩

/-- The evaluation from the decoded header values on. -/
def evaluateDecoded (crypto : AttestationCrypto) (raBytes sigBytes pubkeyPem : Bytes)
    (rawBody : Bytes) (requestJson : Json) : Py BilateralEvalResult :=
  match crypto.loads raBytes with
  | .error (.caught text) => .ok (evalFailed none .null ("RA JSON parse error: " ++ text))
  | .error (.escapes e) => .error e
  | .ok ra => do
      let nonce ← ra.get "nonce"
      match crypto.verify pubkeyPem sigBytes raBytes with
      | .invalidSignature => return evalFailed none nonce "signature verification failed"
      | .failed text => return evalFailed none nonce ("signature error: " ++ text)
      | .verified => evaluateSigned crypto raBytes ra nonce rawBody requestJson

def decodeHeaders (crypto : AttestationCrypto) (raB64 sigB64 pubkeyB64 : String) :
    Except String (Bytes × Bytes × Bytes) := do
  let raBytes ← crypto.urlsafeB64decode (raB64 ++ "==")
  let sigBytes ← crypto.urlsafeB64decode (sigB64 ++ "==")
  let pubkeyPem ← crypto.urlsafeB64decode (pubkeyB64 ++ "==")
  return (raBytes, sigBytes, pubkeyPem)

def evaluateBilateralAttestation (crypto : AttestationCrypto) (headers : Headers)
    (rawBody : Bytes) (requestJson : Json) : Py BilateralEvalResult :=
  match headers.nonEmpty BILATERAL_RA_HEADER with
  | none => .ok evalAbsent
  | some raB64 =>
      match headers.nonEmpty BILATERAL_RA_SIG_HEADER, headers.nonEmpty BILATERAL_PUBKEY_HEADER with
      | some sigB64, some pubkeyB64 =>
        match decodeHeaders crypto raB64 sigB64 pubkeyB64 with
        | .error text => .ok (evalFailed none .null ("base64 decode error: " ++ text))
        | .ok (raBytes, sigBytes, pubkeyPem) =>
          evaluateDecoded crypto raBytes sigBytes pubkeyPem rawBody requestJson
      | _, _ =>
        .ok (evalFailed none .null "missing sig or pubkey header alongside request attestation")

/-- The attestation bytes a request presents, when its headers decode. -/
def presentedAttestation (crypto : AttestationCrypto) (headers : Headers) : Option Bytes :=
  match headers.nonEmpty BILATERAL_RA_HEADER with
  | none => none
  | some raB64 => (crypto.urlsafeB64decode (raB64 ++ "==")).toOption

/-- The public key a request presents, when its headers decode. -/
def presentedKey (crypto : AttestationCrypto) (headers : Headers) : Option Bytes :=
  match headers.nonEmpty BILATERAL_PUBKEY_HEADER with
  | none => none
  | some pubkeyB64 => (crypto.urlsafeB64decode (pubkeyB64 ++ "==")).toOption

theorem evaluateSigned_initiatorRef {crypto : AttestationCrypto} {raBytes rawBody : Bytes}
    {ra nonce requestJson : Json} {result : BilateralEvalResult}
    (h : evaluateSigned crypto raBytes ra nonce rawBody requestJson = .ok result) :
    result.initiatorRef = some (crypto.sha256Hex raBytes) := by
  simp only [evaluateSigned, Py.bind_eq_ok] at h
  obtain ⟨isExpired, -, h⟩ := h
  split_ifs at h
  · cases h
    rfl
  · simp only [Py.bind_eq_ok] at h
    obtain ⟨attested, -, h⟩ := h
    split_ifs at h
    · cases h
      rfl
    · simp only [Py.bind_eq_ok] at h
      obtain ⟨exceeds, -, h⟩ := h
      cases exceeds <;> cases h <;> rfl

theorem evaluateDecoded_valid {crypto : AttestationCrypto} {raBytes sigBytes pubkeyPem : Bytes}
    {rawBody : Bytes} {requestJson : Json} {result : BilateralEvalResult}
    (h : evaluateDecoded crypto raBytes sigBytes pubkeyPem rawBody requestJson = .ok result)
    (hvalid : result.valid = true) :
    result.initiatorRef = some (crypto.sha256Hex raBytes) := by
  unfold evaluateDecoded at h
  cases hloads : crypto.loads raBytes with
  | error failure =>
      cases failure with
      | caught text =>
        simp only [hloads, Except.ok.injEq] at h
        simp [← h, evalFailed] at hvalid
      | escapes e =>
        simp only [hloads] at h
        cases h
  | ok ra =>
      simp only [hloads, Py.bind_eq_ok] at h
      obtain ⟨nonce, -, h⟩ := h
      cases hverify : crypto.verify pubkeyPem sigBytes raBytes with
      | verified =>
        simp only [hverify] at h
        exact evaluateSigned_initiatorRef h
      | invalidSignature =>
        simp only [hverify, Py.pure_eq_ok, Except.ok.injEq] at h
        simp [← h, evalFailed] at hvalid
      | failed text =>
        simp only [hverify, Py.pure_eq_ok, Except.ok.injEq] at h
        simp [← h, evalFailed] at hvalid

theorem decodeHeaders_attestation {crypto : AttestationCrypto} {raB64 sigB64 pubkeyB64 : String}
    {raBytes sigBytes pubkeyPem : Bytes}
    (h : decodeHeaders crypto raB64 sigB64 pubkeyB64 = .ok (raBytes, sigBytes, pubkeyPem)) :
    crypto.urlsafeB64decode (raB64 ++ "==") = .ok raBytes := by
  rw [decodeHeaders] at h
  cases hra : crypto.urlsafeB64decode (raB64 ++ "==") with
  | error text =>
      rw [hra] at h
      cases h
  | ok bytes =>
      cases hsig : crypto.urlsafeB64decode (sigB64 ++ "==") with
      | error text =>
        rw [hra, hsig] at h
        cases h
      | ok sig =>
        cases hkey : crypto.urlsafeB64decode (pubkeyB64 ++ "==") with
        | error text =>
          rw [hra, hsig, hkey] at h
          cases h
        | ok pem =>
          rw [hra, hsig, hkey] at h
          cases h
          rfl

/-- A valid attestation is counted under the digest of the attestation bytes. -/
theorem evaluateBilateralAttestation_valid {crypto : AttestationCrypto} {headers : Headers}
    {rawBody : Bytes} {requestJson : Json} {result : BilateralEvalResult}
    (h : evaluateBilateralAttestation crypto headers rawBody requestJson = .ok result)
    (hvalid : result.valid = true) :
    ∃ raBytes, presentedAttestation crypto headers = some raBytes ∧
      result.initiatorRef = some (crypto.sha256Hex raBytes) := by
  unfold evaluateBilateralAttestation at h
  cases hra : headers.nonEmpty BILATERAL_RA_HEADER with
  | none =>
      simp only [hra, Except.ok.injEq] at h
      simp [← h, evalAbsent] at hvalid
  | some raB64 =>
      simp only [hra] at h
      split at h
      · rename_i sigB64 pubkeyB64 _ _
        cases hdecode : decodeHeaders crypto raB64 sigB64 pubkeyB64 with
        | error text =>
          simp only [hdecode, Except.ok.injEq] at h
          simp [← h, evalFailed] at hvalid
        | ok decoded =>
          obtain ⟨raBytes, sigBytes, pubkeyPem⟩ := decoded
          simp only [hdecode] at h
          refine ⟨raBytes, ?_, evaluateDecoded_valid h hvalid⟩
          rw [presentedAttestation, hra]
          exact congrArg Except.toOption (decodeHeaders_attestation hdecode)
      · simp only [Except.ok.injEq] at h
        simp [← h, evalFailed] at hvalid

end CapsuleMesh.Sidecar
