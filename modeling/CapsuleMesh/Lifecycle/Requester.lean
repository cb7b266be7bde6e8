import CapsuleMesh.Delegation.Verifier
import CapsuleMesh.Python.Equality
import CapsuleMesh.Python.SortKeys

/-!
# What a requester signs

`requester_commitment.py` and `requester_identity_binding.py`: a commitment of a key to one
request of one exchange, and a binding of that key to an identity.  Both are checked against
their own public key.  `CommitmentHolds` and `BindingHolds` say when they are in order.
-/

namespace CapsuleMesh.Lifecycle

open Python Delegation

def COMMITMENT_TYPE : String := "x-mesh-requester-commitment/1"

def IDENTITY_BINDING_TYPE : String := "x-mesh-requester-identity-binding/1"

def IDENTITY_BINDING_VERSION : Int := 1

/-- Signatures, and floats: `x <= now` and `repr(float(text))`. -/
structure Checks where
  crypto : Crypto
  floatLe : String → Int → Bool
  floatRepr : String → String

/-- `Ed25519PublicKey.from_public_bytes`. -/
def fromPublicBytes (crypto : Crypto) (raw : Bytes) : Py Bytes :=
  if raw.length = 32 ∧ crypto.isPoint raw = true then .ok raw
  else .error (.valueError "An Ed25519 public key is 32 bytes long")

/-- Whether a signature over a dictionary without its `signature` verifies; an error is one
of those that the callers catch. -/
def checkSignature (crypto : Crypto) (pubHex sigHex document : Json) : Py Bool := do
  let pubkey ← fromPublicBytes crypto (← bytesFromHex (← pubHex.toStr))
  let signature ← bytesFromHex (← sigHex.toStr)
  return crypto.verify pubkey signature (jcs (without ["signature"] document))

/-! ## The commitment -/

/-- Everything after the type of a commitment. -/
def checkCommitment (crypto : Crypto) (commitment expectedRequestDigest expectedExchangeId : Json) :
    Py (Bool × String) :=
  match commitment.item "signature", commitment.item "public_key" with
  | .error .keyError, _ => .ok (false, "malformed commitment: missing 'signature'")
  | .ok _, .error .keyError => .ok (false, "malformed commitment: missing 'public_key'")
  | .ok sigHex, .ok pubHex =>
      match checkSignature crypto pubHex sigHex commitment with
      | .ok false => .ok (false, "signature verification failed")
      | .error e => .ok (false, "malformed key or signature: " ++ crypto.excText e)
      | .ok true => do
        let requestDigest ← commitment.get "request_digest"
        let exchangeId ← commitment.get "exchange_id"
        if !requestDigest.pyEq expectedRequestDigest then
          return (false, "request_digest mismatch: commitment attests " ++ requestDigest.pyRepr ++
            ", record's own digest is " ++ expectedRequestDigest.pyRepr)
        else if !expectedExchangeId.isNull && !exchangeId.pyEq expectedExchangeId then
          return (false, "exchange_id mismatch: commitment attests " ++ exchangeId.pyRepr ++
            ", record's exchange_id is " ++ expectedExchangeId.pyRepr)
        else
          return (true, "requester commitment verified: signature valid, bound to request_digest")
  | .error e, _ => .error e
  | _, .error e => .error e

def verifyRequesterCommitment (crypto : Crypto)
    (commitment expectedRequestDigest expectedExchangeId : Json) : Py (Bool × String) :=
  if commitment.isNull then .ok (false, "no requester commitment present")
  else do
    let type ← commitment.get "type"
    if !type.pyEq (.str COMMITMENT_TYPE) then
      return (false, "unrecognized commitment type: " ++ type.pyRepr)
    else checkCommitment crypto commitment expectedRequestDigest expectedExchangeId

/-! ## The binding -/

structure IdentityBindingVerdict where
  valid : Bool
  reason : String
  ownerId : Json := .null
  certId : Json := .null

/-- `isinstance(x, (int, float)) and not x <= now`. -/
def unexpired (checks : Checks) (expiresAt : Json) (now : Int) : Bool :=
  match expiresAt with
  | .bool b => decide (now < if b then 1 else 0)
  | .int n => decide (now < n)
  | .float repr => !checks.floatLe repr now
  | _ => false

/-- The end of `verify_requester_identity_binding`: the expiry and the revocation. -/
def checkLifetime (checks : Checks) (binding ownerId certId : Json) (now : Int)
    (revokedCertIds : List String) : Py IdentityBindingVerdict := do
  let expiresAt ← binding.get "expires_at_unix_ms"
  if !unexpired checks expiresAt now then
    return {
      valid := false
      reason := "identity binding expired or malformed expiry: expires_at_unix_ms=" ++
        expiresAt.pyRepr ++ ", now=" ++ toString now
      ownerId := ownerId
      certId := certId }
  else
    -- A set hashes what it is asked for.
    let _ ← certId.key
    if listed certId revokedCertIds then
      return {
        valid := false
        reason := "identity binding cert_id=" ++ certId.pyRepr ++ " is revoked"
        ownerId := ownerId
        certId := certId }
    else
      return {
        valid := true
        reason := "requester identity binding verified: signature valid, bound to this " ++
          "commitment's key, unexpired, not revoked"
        ownerId := ownerId
        certId := certId }

/-- The signature of a binding, and then its lifetime. -/
def checkBinding (checks : Checks) (binding ownerId certId : Json) (now : Int)
    (revokedCertIds : List String) : Py IdentityBindingVerdict :=
  let malformed := fun (reason : String) ↦ (⟨false, reason, ownerId, certId⟩ : IdentityBindingVerdict)
  match binding.item "signature", binding.item "owner_sign_public_key" with
  | .error .keyError, _ => .ok (malformed "malformed identity binding: missing 'signature'")
  | .ok _, .error .keyError =>
      .ok (malformed "malformed identity binding: missing 'owner_sign_public_key'")
  | .ok sigHex, .ok pubHex =>
      match checkSignature checks.crypto pubHex sigHex binding with
      | .ok false => .ok (malformed "identity binding signature verification failed")
      | .error e => .ok (malformed
          ("malformed identity binding key or signature: " ++ checks.crypto.excText e))
      | .ok true => checkLifetime checks binding ownerId certId now revokedCertIds
  | .error e, _ => .error e
  | _, .error e => .error e

def verifyRequesterIdentityBinding (checks : Checks) (binding expectedCommitmentPublicKey : Json)
    (now : Int) (revokedCertIds : List String) : Py IdentityBindingVerdict :=
  if binding.isNull then
    .ok { valid := false, reason := "no requester identity binding present" }
  else do
    let type ← binding.get "type"
    let version ← binding.get "version"
    if !type.pyEq (.str IDENTITY_BINDING_TYPE) then
      return { valid := false, reason := "unrecognized identity binding type: " ++ type.pyRepr }
    else if !version.pyEq (.int IDENTITY_BINDING_VERSION) then
      return { valid := false, reason := "unsupported identity binding version: " ++ version.pyRepr }
    else
      let ownerId ← binding.get "owner_id"
      let certId ← binding.get "cert_id"
      let cited ← binding.get "commitment_public_key"
      if !cited.pyEq expectedCommitmentPublicKey then
        return {
          valid := false
          reason := "commitment_public_key mismatch: binding cites " ++ cited.pyRepr ++
            ", this commitment's own key is " ++ expectedCommitmentPublicKey.pyRepr ++
            " — a binding for a different commitment cannot be replayed onto this one"
          ownerId := ownerId
          certId := certId }
      else checkBinding checks binding ownerId certId now revokedCertIds

/-! ## When the evidence is in order -/

/-- A dictionary is signed by the key that it names in a field. -/
def SignedBy (crypto : Crypto) (members : List (String × Json)) (keyField : String) : Prop :=
  ∃ keyHex sigHex key signature, members.lookup keyField = some (.str keyHex) ∧
    members.lookup "signature" = some (.str sigHex) ∧
    bytesFromHex keyHex = .ok key ∧ key.length = 32 ∧ crypto.isPoint key = true ∧
    bytesFromHex sigHex = .ok signature ∧
    crypto.verify key signature (jcs (without ["signature"] (.obj members))) = true

/-- A commitment of its key to this request of this exchange. -/
structure CommitmentHolds (crypto : Crypto) (commitment : List (String × Json))
    (requestDigest exchangeId : String) : Prop where
  type : commitment.lookup "type" = some (.str COMMITMENT_TYPE)
  signed : SignedBy crypto commitment "public_key"
  request : commitment.lookup "request_digest" = some (.str requestDigest)
  exchange : commitment.lookup "exchange_id" = some (.str exchangeId)

/-- A signed and unexpired binding of this commitment key. -/
structure BindingCurrent (checks : Checks) (binding : List (String × Json)) (commitmentKey : String)
    (now : Int) : Prop where
  type : binding.lookup "type" = some (.str IDENTITY_BINDING_TYPE)
  version : ((binding.lookup "version").getD .null).pyEq (.int IDENTITY_BINDING_VERSION) = true
  cites : binding.lookup "commitment_public_key" = some (.str commitmentKey)
  signed : SignedBy checks.crypto binding "owner_sign_public_key"
  unexpired : unexpired checks ((binding.lookup "expires_at_unix_ms").getD .null) now = true

/-- The id that a binding can be revoked by. -/
def certIdOf (binding : List (String × Json)) : Json := (binding.lookup "cert_id").getD .null

theorem jcs_without_sorted (keys : List String) (members : List (String × Json)) :
    jcs (without keys (.obj (Json.sorted members))) = jcs (without keys (.obj members)) := by
  have hfilter := Json.filter_sorted (fun k => decide (k ∉ keys)) members
  rw [without, without, hfilter, ← Json.sortKeys_obj, jcs, Json.canonical_sortKeys, jcs]

theorem fromPublicBytes_eq_ok {crypto : Crypto} {raw key : Bytes} :
    fromPublicBytes crypto raw = .ok key ↔
      raw = key ∧ key.length = 32 ∧ crypto.isPoint key = true := by
  unfold fromPublicBytes
  split_ifs with h
  · constructor
    · intro hkey
      obtain rfl := Except.ok.inj hkey
      exact ⟨rfl, h⟩
    · rintro ⟨rfl, -⟩
      rfl
  · constructor
    · rintro ⟨⟩
    · rintro ⟨rfl, hkey⟩
      exact absurd hkey h

theorem toStr_eq_ok {j : Json} {s : String} : j.toStr = .ok s ↔ j = .str s := by
  cases j <;> simp [Json.toStr]

theorem checkSignature_true {crypto : Crypto} {pubHex sigHex document : Json} :
    checkSignature crypto pubHex sigHex document = .ok true ↔
      ∃ keyText sigText key signature, pubHex = .str keyText ∧ sigHex = .str sigText ∧
        bytesFromHex keyText = .ok key ∧ key.length = 32 ∧ crypto.isPoint key = true ∧
        bytesFromHex sigText = .ok signature ∧
        crypto.verify key signature (jcs (without ["signature"] document)) = true := by
  simp only [checkSignature, Py.bind_eq_ok, toStr_eq_ok, fromPublicBytes_eq_ok, Py.pure_eq_ok,
    Except.ok.injEq]
  constructor
  · rintro ⟨keyText, hkeyText, raw, hraw, key, ⟨rfl, hlength, hpoint⟩, sigText, hsigText, signature,
      hsignature, hverify⟩
    exact ⟨keyText, sigText, raw, signature, hkeyText, hsigText, hraw, hlength, hpoint, hsignature,
      hverify⟩
  · rintro ⟨keyText, sigText, key, signature, hkeyText, hsigText, hkey, hlength, hpoint, hsignature,
      hverify⟩
    exact ⟨keyText, hkeyText, key, hkey, key, ⟨rfl, hlength, hpoint⟩, sigText, hsigText, signature,
      hsignature, hverify⟩

theorem checkSignature_obj (crypto : Crypto) {members : List (String × Json)} {keyField : String}
    {pubHex sigHex : Json} (hpub : members.lookup keyField = some pubHex)
    (hsig : members.lookup "signature" = some sigHex) :
    checkSignature crypto pubHex sigHex (.obj members) = .ok true ↔
      SignedBy crypto members keyField := by
  rw [checkSignature_true]
  simp only [SignedBy, hpub, hsig, Option.some.injEq]

theorem lookup_sorted_eq_str {members : List (String × Json)} {key s : String} :
    (Json.sorted members).lookup key = some (.str s) ↔ members.lookup key = some (.str s) := by
  rw [Json.lookup_sorted, Option.map_eq_some_iff]
  simp only [Json.sortKeys_eq_str, exists_eq_right]

/-- The signature of a dictionary does not depend on the order of its keys. -/
theorem signedBy_sorted {crypto : Crypto} {members : List (String × Json)} {keyField : String} :
    SignedBy crypto (Json.sorted members) keyField ↔ SignedBy crypto members keyField := by
  simp only [SignedBy, lookup_sorted_eq_str, jcs_without_sorted]

theorem getD_eq_str {members : List (String × Json)} {key s : String} :
    ((members.lookup key).getD .null).pyEq (.str s) = true ↔
      members.lookup key = some (.str s) := by
  constructor
  · intro h
    have heq := Json.eq_str_of_pyEq h
    cases hlookup : members.lookup key with
    | none =>
        rw [hlookup] at heq
        cases heq
    | some v =>
        rw [hlookup] at heq
        exact congrArg some heq
  · intro h
    rw [h]
    exact decide_eq_true rfl

/-- A `get` on a dictionary that came back from its bytes. -/
theorem get_sorted (members : List (String × Json)) (key : String) :
    (Json.obj (Json.sorted members)).get key = .ok ((members.lookup key).getD .null).sortKeys := by
  rw [Json.get_obj, Json.lookup_sorted]
  cases members.lookup key <;> simp

/-! ## What the two checks return -/

/-- A commitment that is in order, against a digest and an exchange id of any type. -/
structure CommitmentAccepted (crypto : Crypto) (commitment : List (String × Json))
    (expectedRequestDigest expectedExchangeId : Json) : Prop where
  type : commitment.lookup "type" = some (.str COMMITMENT_TYPE)
  signed : SignedBy crypto commitment "public_key"
  request : ((commitment.lookup "request_digest").getD .null).pyEq expectedRequestDigest = true
  exchange : expectedExchangeId.isNull = true ∨
    ((commitment.lookup "exchange_id").getD .null).pyEq expectedExchangeId = true

section

variable (crypto : Crypto) (checks : Checks) (commitment binding : List (String × Json))
  (requestDigest exchangeId commitmentKey : String) (now : Int) (revokedCertIds : List String)

theorem checkCommitment_obj (expectedRequestDigest expectedExchangeId : Json) :
    ∃ result : Bool × String, checkCommitment crypto (.obj commitment) expectedRequestDigest
        expectedExchangeId = .ok result ∧
      (result.1 = true ↔ SignedBy crypto commitment "public_key" ∧
        ((commitment.lookup "request_digest").getD .null).pyEq expectedRequestDigest = true ∧
        (expectedExchangeId.isNull = true ∨
          ((commitment.lookup "exchange_id").getD .null).pyEq expectedExchangeId = true)) := by
  unfold checkCommitment
  simp only [Json.item]
  cases hsig : commitment.lookup "signature" with
  | none => exact ⟨_, rfl, by simp [SignedBy, hsig]⟩
  | some sigHex =>
      cases hpub : commitment.lookup "public_key" with
      | none => exact ⟨_, rfl, by simp [SignedBy, hpub]⟩
      | some pubHex =>
        have hsigned := checkSignature_obj crypto hpub hsig
        cases hcheck : checkSignature crypto pubHex sigHex (.obj commitment) with
        | error e =>
          simp only [hcheck]
          exact ⟨_, rfl, by simp [← hsigned, hcheck]⟩
        | ok verified =>
          cases verified with
          | false =>
            simp only [hcheck]
            exact ⟨_, rfl, by simp [← hsigned, hcheck]⟩
          | true =>
            simp only [hcheck, Json.get_obj, Py.ok_bind]
            rw [hcheck] at hsigned
            simp only [← hsigned, true_and]
            cases hrequest : ((commitment.lookup "request_digest").getD .null).pyEq
                expectedRequestDigest with
            | false => exact ⟨_, rfl, by simp⟩
            | true =>
              cases hnull : expectedExchangeId.isNull with
              | true => exact ⟨_, rfl, by simp⟩
              | false =>
                cases hexchange : ((commitment.lookup "exchange_id").getD .null).pyEq
                    expectedExchangeId with
                | false => exact ⟨_, rfl, by simp⟩
                | true => exact ⟨_, rfl, by simp⟩

theorem verifyRequesterCommitment_obj (expectedRequestDigest expectedExchangeId : Json) :
    ∃ result : Bool × String, verifyRequesterCommitment crypto (.obj commitment)
        expectedRequestDigest expectedExchangeId = .ok result ∧
      (result.1 = true ↔ CommitmentAccepted crypto commitment expectedRequestDigest
        expectedExchangeId) := by
  obtain ⟨checked, hchecked, hiff⟩ :=
    checkCommitment_obj crypto commitment expectedRequestDigest expectedExchangeId
  unfold verifyRequesterCommitment
  simp only [Json.isNull, Bool.false_eq_true, if_false, Json.get_obj, Py.ok_bind]
  cases htype : ((commitment.lookup "type").getD .null).pyEq (.str COMMITMENT_TYPE) with
  | false =>
      refine ⟨_, rfl, iff_of_false (by simp) fun h => ?_⟩
      rw [getD_eq_str.mpr h.type] at htype
      cases htype
  | true =>
      refine ⟨checked, hchecked, hiff.trans ?_⟩
      constructor
      · rintro ⟨hsigned, hrequest, hexchange⟩
        exact ⟨getD_eq_str.mp htype, hsigned, hrequest, hexchange⟩
      · rintro ⟨-, hsigned, hrequest, hexchange⟩
        exact ⟨hsigned, hrequest, hexchange⟩

/-- A commitment that came back from its bytes, against two texts. -/
theorem commitmentAccepted_sorted :
    CommitmentAccepted crypto (Json.sorted commitment) (.str requestDigest) (.str exchangeId) ↔
      CommitmentHolds crypto commitment requestDigest exchangeId := by
  constructor
  · rintro ⟨htype, hsigned, hrequest, hexchange⟩
    obtain hnull | hexchange := hexchange
    · cases hnull
    · exact ⟨lookup_sorted_eq_str.mp htype, signedBy_sorted.mp hsigned,
        lookup_sorted_eq_str.mp (getD_eq_str.mp hrequest),
        lookup_sorted_eq_str.mp (getD_eq_str.mp hexchange)⟩
  · rintro ⟨htype, hsigned, hrequest, hexchange⟩
    exact ⟨lookup_sorted_eq_str.mpr htype, signedBy_sorted.mpr hsigned,
      getD_eq_str.mpr (lookup_sorted_eq_str.mpr hrequest),
      .inr (getD_eq_str.mpr (lookup_sorted_eq_str.mpr hexchange))⟩

theorem verifyRequesterCommitment_sorted :
    ∃ result : Bool × String, verifyRequesterCommitment crypto (.obj (Json.sorted commitment))
        (.str requestDigest) (.str exchangeId) = .ok result ∧
      (result.1 = true ↔ CommitmentHolds crypto commitment requestDigest exchangeId) := by
  obtain ⟨result, hresult, hiff⟩ := verifyRequesterCommitment_obj crypto (Json.sorted commitment)
    (.str requestDigest) (.str exchangeId)
  exact ⟨result, hresult, hiff.trans (commitmentAccepted_sorted crypto commitment _ _)⟩

theorem unexpired_sortKeys (expiresAt : Json) :
    unexpired checks expiresAt.sortKeys now = unexpired checks expiresAt now := by
  obtain h | ⟨es, es', rfl, h⟩ | ⟨ms, ms', rfl, h⟩ := Json.sortKeys_cases expiresAt
  · rw [h]
  · rw [h]
    rfl
  · rw [h]
    rfl

theorem listed_sortKeys (j : Json) : listed j.sortKeys revokedCertIds = listed j revokedCertIds := by
  simp only [listed, Json.pyEq_str_sortKeys]

end

/-- What a check of a binding comes to where `current` says that all but its revocation is in
order.  A list or a dictionary as its id is not hashable, and the set of revoked ids raises. -/
structure BindingOutcome (current : Prop) (certId : Json) (revokedCertIds : List String)
    (outcome : Py IdentityBindingVerdict) : Prop where
  unhashable : current → ∀ e, certId.key = .error e → outcome = .error e
  hashable : current → ∀ key, certId.key = .ok key → ∃ verdict, outcome = .ok verdict ∧
    (verdict.valid = true ↔ listed certId revokedCertIds = false)
  otherwise : ¬current → ∃ verdict, outcome = .ok verdict ∧ verdict.valid = false

namespace BindingOutcome

variable {current current' : Prop} {certId : Json} {revokedCertIds : List String}
  {outcome : Py IdentityBindingVerdict}

theorem congr (h : BindingOutcome current certId revokedCertIds outcome)
    (hiff : current ↔ current') : BindingOutcome current' certId revokedCertIds outcome :=
  ⟨fun hc => h.unhashable (hiff.mpr hc), fun hc => h.hashable (hiff.mpr hc),
    fun hc => h.otherwise (mt hiff.mp hc)⟩

theorem of_sortKeys (h : BindingOutcome current certId.sortKeys revokedCertIds outcome) :
    BindingOutcome current certId revokedCertIds outcome := by
  obtain ⟨hunhashable, hhashable, hotherwise⟩ := h
  simp only [Json.key_sortKeys, listed_sortKeys] at hunhashable hhashable
  exact ⟨hunhashable, hhashable, hotherwise⟩

theorem invalid (hnot : ¬current) {verdict : IdentityBindingVerdict}
    (houtcome : outcome = .ok verdict) (hvalid : verdict.valid = false) :
    BindingOutcome current certId revokedCertIds outcome :=
  ⟨fun hc => absurd hc hnot, fun hc => absurd hc hnot, fun _ => ⟨verdict, houtcome, hvalid⟩⟩

end BindingOutcome

section

variable (checks : Checks) (binding : List (String × Json)) (now : Int)
  (revokedCertIds : List String)

theorem checkLifetime_obj (ownerId : Json) :
    BindingOutcome (unexpired checks ((binding.lookup "expires_at_unix_ms").getD .null) now = true)
      (certIdOf binding) revokedCertIds
      (checkLifetime checks (.obj binding) ownerId (certIdOf binding) now revokedCertIds) := by
  unfold checkLifetime
  simp only [Json.get_obj, Py.ok_bind]
  cases hunexpired : unexpired checks ((binding.lookup "expires_at_unix_ms").getD .null) now with
  | false => exact .invalid (by simp) rfl rfl
  | true =>
      refine ⟨fun _ e he => ?_, fun _ key hkey => ?_, fun h => absurd rfl h⟩
      · simp only [Bool.not_true, Bool.false_eq_true, if_false, he, Py.error_bind]
      · simp only [Bool.not_true, Bool.false_eq_true, if_false, hkey, Py.ok_bind]
        cases hlisted : listed (certIdOf binding) revokedCertIds with
        | false => exact ⟨_, rfl, by simp⟩
        | true => exact ⟨_, rfl, by simp⟩

theorem checkBinding_obj (ownerId : Json) :
    BindingOutcome (SignedBy checks.crypto binding "owner_sign_public_key" ∧
        unexpired checks ((binding.lookup "expires_at_unix_ms").getD .null) now = true)
      (certIdOf binding) revokedCertIds
      (checkBinding checks (.obj binding) ownerId (certIdOf binding) now revokedCertIds) := by
  unfold checkBinding
  simp only [Json.item]
  cases hsig : binding.lookup "signature" with
  | none => exact .invalid (by simp [SignedBy, hsig]) rfl rfl
  | some sigHex =>
      cases hpub : binding.lookup "owner_sign_public_key" with
      | none => exact .invalid (by simp [SignedBy, hpub]) rfl rfl
      | some pubHex =>
        have hsigned := checkSignature_obj checks.crypto hpub hsig
        cases hcheck : checkSignature checks.crypto pubHex sigHex (.obj binding) with
        | error e =>
          simp only [hcheck]
          exact .invalid (by simp [← hsigned, hcheck]) rfl rfl
        | ok verified =>
          cases verified with
          | false =>
            simp only [hcheck]
            exact .invalid (by simp [← hsigned, hcheck]) rfl rfl
          | true =>
            simp only [hcheck]
            apply (checkLifetime_obj checks binding now revokedCertIds ownerId).congr
            rw [← hsigned, hcheck]
            simp

theorem verifyRequesterIdentityBinding_obj (commitmentKey : String) :
    BindingOutcome (BindingCurrent checks binding commitmentKey now) (certIdOf binding)
      revokedCertIds (verifyRequesterIdentityBinding checks (.obj binding) (.str commitmentKey) now
        revokedCertIds) := by
  unfold verifyRequesterIdentityBinding
  simp only [Json.isNull, Bool.false_eq_true, if_false, Json.get_obj, Py.ok_bind]
  cases htype : ((binding.lookup "type").getD .null).pyEq (.str IDENTITY_BINDING_TYPE) with
  | false =>
      refine .invalid (fun h => ?_) rfl rfl
      rw [getD_eq_str.mpr h.type] at htype
      cases htype
  | true =>
      cases hversion : ((binding.lookup "version").getD .null).pyEq
          (.int IDENTITY_BINDING_VERSION) with
      | false =>
        refine .invalid (fun h => ?_) rfl rfl
        rw [h.version] at hversion
        cases hversion
      | true =>
        cases hcites : ((binding.lookup "commitment_public_key").getD .null).pyEq
            (.str commitmentKey) with
        | false =>
          refine .invalid (fun h => ?_) rfl rfl
          rw [getD_eq_str.mpr h.cites] at hcites
          cases hcites
        | true =>
          apply (checkBinding_obj checks binding now revokedCertIds _).congr
          constructor
          · rintro ⟨hsigned, hunexpired⟩
            exact ⟨getD_eq_str.mp htype, hversion, getD_eq_str.mp hcites, hsigned, hunexpired⟩
          · rintro ⟨-, -, -, hsigned, hunexpired⟩
            exact ⟨hsigned, hunexpired⟩

theorem getD_lookup_sorted (members : List (String × Json)) (key : String) :
    ((Json.sorted members).lookup key).getD .null = ((members.lookup key).getD .null).sortKeys := by
  rw [Json.lookup_sorted]
  cases members.lookup key <;> simp

theorem bindingCurrent_sorted (commitmentKey : String) :
    BindingCurrent checks (Json.sorted binding) commitmentKey now ↔
      BindingCurrent checks binding commitmentKey now := by
  have hversion := getD_lookup_sorted binding "version"
  have hexpiry := getD_lookup_sorted binding "expires_at_unix_ms"
  constructor
  · rintro ⟨htype, hv, hcites, hsigned, hunexpired⟩
    rw [hversion, Json.pyEq_int_sortKeys] at hv
    rw [hexpiry, unexpired_sortKeys] at hunexpired
    exact ⟨lookup_sorted_eq_str.mp htype, hv, lookup_sorted_eq_str.mp hcites,
      signedBy_sorted.mp hsigned, hunexpired⟩
  · rintro ⟨htype, hv, hcites, hsigned, hunexpired⟩
    rw [← Json.pyEq_int_sortKeys, ← hversion] at hv
    rw [← unexpired_sortKeys, ← hexpiry] at hunexpired
    exact ⟨lookup_sorted_eq_str.mpr htype, hv, lookup_sorted_eq_str.mpr hcites,
      signedBy_sorted.mpr hsigned, hunexpired⟩

theorem verifyRequesterIdentityBinding_sorted (commitmentKey : String) :
    BindingOutcome (BindingCurrent checks binding commitmentKey now) (certIdOf binding)
      revokedCertIds (verifyRequesterIdentityBinding checks (.obj (Json.sorted binding))
        (.str commitmentKey) now revokedCertIds) := by
  have h := verifyRequesterIdentityBinding_obj checks (Json.sorted binding) now revokedCertIds
    commitmentKey
  have hcert : certIdOf (Json.sorted binding) = (certIdOf binding).sortKeys :=
    getD_lookup_sorted binding "cert_id"
  rw [hcert] at h
  apply BindingOutcome.congr _ (bindingCurrent_sorted checks binding now commitmentKey)
  exact h.of_sortKeys

end

end CapsuleMesh.Lifecycle
