import CapsuleMesh.Ownership.ClaimBytes

/-!
# A certificate as it is loaded

`load_signed_node_ownership` and what `owner_provenance_block` makes of its result, on a
`node-ownership.json` of any content.  The label and the hostname of a loaded claim are whatever
values the file holds, and its numbers are whatever `int` reads.
-/

namespace CapsuleMesh.Ownership

open Python Library

/-! ## Loading -/

structure LoadedClaim where
  version : Int
  certId : String
  ownerId : String
  ownerSignPublicKey : String
  nodeEndpointId : String
  issuedAtUnixMs : Int
  expiresAtUnixMs : Int
  nodeLabel : Json
  hostnameHint : Json

def LoadedClaim.fromValue (value : Json) : Py LoadedClaim := do
  let version ← (← value.item "version").toInt
  let certId ← value.item "cert_id"
  let ownerId ← value.item "owner_id"
  let ownerSignPublicKey ← value.item "owner_sign_public_key"
  let nodeEndpointId ← value.item "node_endpoint_id"
  let issuedAtUnixMs ← (← value.item "issued_at_unix_ms").toInt
  let expiresAtUnixMs ← (← value.item "expires_at_unix_ms").toInt
  return {
    version := version
    certId := certId.pyStr
    ownerId := ownerId.pyStr
    ownerSignPublicKey := ownerSignPublicKey.pyStr
    nodeEndpointId := nodeEndpointId.pyStr
    issuedAtUnixMs := issuedAtUnixMs
    expiresAtUnixMs := expiresAtUnixMs
    nodeLabel := ← value.get "node_label"
    hostnameHint := ← value.get "hostname_hint" }

structure LoadedOwnership where
  claim : LoadedClaim
  signature : String

def LoadedOwnership.fromValue (value : Json) : Py LoadedOwnership := do
  let claim ← LoadedClaim.fromValue (← value.item "claim")
  let signature ← value.item "signature"
  return ⟨claim, signature.pyStr⟩

/-- What there is at the path of `node-ownership.json`. -/
inductive OwnershipFile where
  | missing
  | unreadable
  /-- Not UTF-8, or not JSON. -/
  | malformed
  /-- Nested deeper than `json.loads` follows. -/
  | tooDeep
  | value (raw : Json)

/-- `load_signed_node_ownership`; it catches `OSError`, `ValueError`, `KeyError` and
`TypeError`. -/
def loadSignedNodeOwnership : OwnershipFile → Py (Option LoadedOwnership)
  | .missing | .unreadable | .malformed => .ok none
  | .tooDeep => .error .recursionError
  | .value raw =>
      match LoadedOwnership.fromValue raw with
      | .ok ownership => .ok (some ownership)
      | .error .osError | .error (.valueError _) | .error .keyError | .error .typeError => .ok none
      | .error e => .error e

/-! ## The re-check of a loaded certificate -/

/-- `_write_string` of any value: what is not a string has no `encode`. -/
def writeValue : Json → Py Bytes
  | .str value => writeString value
  | _ => .error .attributeError

/-- `_write_optional_string` of any value. -/
def writeOptionalValue : Json → Py Bytes
  | .null => .ok [0]
  | value => do return 1 :: (← writeValue value)

/-- The fields of a loaded claim behind the domain tag, once the keys are known. -/
def LoadedClaim.fieldBytes (claim : LoadedClaim) (ownerKey nodeId : Bytes) : Py Bytes := do
  let version ← toBytesLittle claim.version 4
  let certId ← writeString claim.certId
  let ownerId ← writeString claim.ownerId
  let issuedAt ← toBytesLittle claim.issuedAtUnixMs 8
  let expiresAt ← toBytesLittle claim.expiresAtUnixMs 8
  let nodeLabel ← writeOptionalValue claim.nodeLabel
  let hostnameHint ← writeOptionalValue claim.hostnameHint
  return version ++ (certId ++ (ownerId ++ (ownerKey ++ (nodeId ++ (issuedAt ++ (expiresAt ++
    (nodeLabel ++ hostnameHint)))))))

/-- `canonical_claim_bytes` of a loaded claim. -/
def LoadedClaim.canonicalBytes (claim : LoadedClaim) : Py Bytes := do
  let ownerKey ← bytesFromHex claim.ownerSignPublicKey
  let nodeId ← bytesFromHex claim.nodeEndpointId
  if ownerKey.length ≠ 32 then .error (.valueError "owner_sign_public_key must be 32 bytes")
  else if nodeId.length ≠ 32 then .error (.valueError "node_endpoint_id must be 32 bytes")
  else
    let encoded ← claim.fieldBytes ownerKey nodeId
    return SIGNING_DOMAIN_TAG ++ encoded

structure LoadedRecheck where
  valid : Bool
  reason : String
  ownerId : String
  certId : String
  expiresAtUnixMs : Int
  nodeLabel : Json

/-- What `except (ValueError, TypeError)` catches, with the text of the exception. -/
def caught : PyError → Option String
  | .valueError text => some text
  | .typeError => some ""
  | _ => none

section

variable (crypto : CertCrypto) (ownership : LoadedOwnership)

def LoadedOwnership.verifies : Py Bool := do
  let canonical ← ownership.claim.canonicalBytes
  let key ← bytesFromHex ownership.claim.ownerSignPublicKey
  let signature ← bytesFromHex ownership.signature
  return crypto.verify key signature canonical

def LoadedOwnership.checkSignature : Py (Option String) :=
  match ownership.verifies crypto with
  | .ok true => .ok none
  | .ok false => .ok (some "owner signature over the canonical claim failed to verify")
  | .error e =>
      match caught e with
      | some text => .ok (some ("malformed cert key/signature: " ++ text))
      | none => .error e

def LoadedOwnership.recheck (expectedNodeEndpointId : String) (now : Int) : Py LoadedRecheck :=
  let claim := ownership.claim
  let recheck (valid : Bool) (reason : String) : LoadedRecheck :=
    ⟨valid, reason, claim.ownerId, claim.certId, claim.expiresAtUnixMs, claim.nodeLabel⟩
  if claim.version ≠ NODE_OWNERSHIP_VERSION then
    .ok (recheck false ("unsupported ownership claim version: " ++ toString claim.version))
  else if claim.nodeEndpointId ≠ expectedNodeEndpointId then
    .ok (recheck false ("node_endpoint_id mismatch: cert binds " ++
      pyRepr claim.nodeEndpointId ++ ", this node is " ++ pyRepr expectedNodeEndpointId))
  else do
    match ← ownership.checkSignature crypto with
    | some reason => return recheck false reason
    | none =>
        if claim.expiresAtUnixMs ≤ now then
          return recheck false ("cert expired: expires_at_unix_ms=" ++
            toString claim.expiresAtUnixMs ++ " <= now=" ++ toString now)
        else
          return recheck true
            "owner cert re-check passed: self-signature valid, node id matches, unexpired"

/-- `owner_cert_reference`. -/
def LoadedOwnership.certReference : Py Json := do
  let claimBytes ← ownership.claim.canonicalBytes
  let sigBytes ← bytesFromHex ownership.signature
  return .obj [("type", .str "owner_cert"), ("digest_alg", .str "SHA-256"),
    ("digest", .str (crypto.sha256Hex (claimBytes ++ sigBytes)))]

end

/-- `load_signed_node_ownership` and then `owner_provenance_block`. -/
def servedOwnerBlock (crypto : CertCrypto) (file : OwnershipFile) (expectedNodeEndpointId : String)
    (identityCapsuleId : Option String) (now : Int) : Py Json := do
  match ← loadSignedNodeOwnership file with
  | none => ownerProvenanceBlock crypto none expectedNodeEndpointId identityCapsuleId now
  | some ownership =>
      let recheck ← ownership.recheck crypto expectedNodeEndpointId now
      let certRef ← if recheck.valid then ownership.certReference crypto else pure .null
      return .obj
        [("owner_status", .str (if recheck.valid then "bound" else "invalid")),
         ("owner_id", .str recheck.ownerId),
         ("cert_id", .str recheck.certId),
         ("node_endpoint_id", .str expectedNodeEndpointId),
         ("expires_at_unix_ms", .int recheck.expiresAtUnixMs),
         ("node_label", recheck.nodeLabel),
         ("identity_capsule_id", if recheck.valid then .ofStr? identityCapsuleId else .null),
         ("owner_cert_ref", certRef),
         ("recheck_valid", .bool recheck.valid),
         ("recheck_reason", .str recheck.reason),
         ("identity_limitation", .str IDENTITY_LIMITATION_CAVEAT)]

/-! ## Which exceptions escape -/

/-- Whatever a computation raises, `except (ValueError, TypeError)` does not catch it. -/
abbrev Escapes {α : Type} (x : Py α) : Prop := Raising.RaisesOnly (fun e => caught e = none) x

theorem toBytesLittle_escapes (n : Int) (width : ℕ) : Escapes (toBytesLittle n width) := by
  rw [toBytesLittle]
  split
  · exact Raising.RaisesOnly.ok _
  · exact Raising.RaisesOnly.error rfl

theorem writeString_escapes (value : String) : Escapes (writeString value) :=
  (toBytesLittle_escapes _ _).bind fun _ _ => Raising.RaisesOnly.ok _

theorem writeValue_escapes (value : Json) : Escapes (writeValue value) := by
  cases value with
  | str value => exact writeString_escapes value
  | _ => exact Raising.RaisesOnly.error rfl

theorem writeOptionalValue_escapes (value : Json) : Escapes (writeOptionalValue value) := by
  cases value with
  | null => exact Raising.RaisesOnly.ok _
  | _ => exact (writeValue_escapes _).bind fun _ _ => Raising.RaisesOnly.ok _

theorem LoadedClaim.fieldBytes_escapes (claim : LoadedClaim) (ownerKey nodeId : Bytes) :
    Escapes (claim.fieldBytes ownerKey nodeId) := by
  apply (toBytesLittle_escapes _ _).bind
  intro version _
  apply (writeString_escapes _).bind
  intro certId _
  apply (writeString_escapes _).bind
  intro ownerId _
  apply (toBytesLittle_escapes _ _).bind
  intro issuedAt _
  apply (toBytesLittle_escapes _ _).bind
  intro expiresAt _
  apply (writeOptionalValue_escapes _).bind
  intro nodeLabel _
  apply (writeOptionalValue_escapes _).bind
  intro hostnameHint _
  exact Raising.RaisesOnly.ok _

theorem fromHexFrom_error {position : ℕ} {cs : List Char} {e : PyError}
    (h : fromHexFrom position cs = .error e) : ∃ text, e = .valueError text := by
  fun_induction fromHexFrom position cs with
  | case1 => cases h
  | case2 position c cs hspace ih => exact ih h
  | case3 => exact ⟨_, (Except.error.inj h).symm⟩
  | case4 => exact ⟨_, (Except.error.inj h).symm⟩
  | case5 => exact ⟨_, (Except.error.inj h).symm⟩
  | case6 position c hspace hi d ds hhi lo hlo ih =>
      cases hrest : fromHexFrom (position + 2) ds with
      | error e' =>
        rw [hrest] at h
        obtain rfl : e' = e := Except.error.inj h
        exact ih hrest
      | ok rest =>
        rw [hrest] at h
        cases h

theorem bytesFromHex_caught {s : String} {e : PyError} (h : bytesFromHex s = .error e) :
    (caught e).isSome = true := by
  obtain ⟨text, rfl⟩ := fromHexFrom_error h
  rfl

/-! ## What can be packed -/

/-- Missing, or a string. -/
def IsText (value : Json) : Prop := value = .null ∨ ∃ text, value = .str text ∧ Addressable text

/-- What the fixed widths and the string encoding take. -/
structure Packable (claim : LoadedClaim) : Prop where
  certId : Addressable claim.certId
  ownerId : Addressable claim.ownerId
  issuedAt : 0 ≤ claim.issuedAtUnixMs ∧ claim.issuedAtUnixMs < 256 ^ 8
  expiresAt : 0 ≤ claim.expiresAtUnixMs ∧ claim.expiresAtUnixMs < 256 ^ 8
  nodeLabel : IsText claim.nodeLabel
  hostnameHint : IsText claim.hostnameHint

theorem toBytesLittle_returns_iff {n : Int} {width : ℕ} :
    (∃ bytes, toBytesLittle n width = .ok bytes) ↔ 0 ≤ n ∧ n < 256 ^ width := by
  constructor
  · rintro ⟨bytes, h⟩
    by_contra hrange
    rw [toBytesLittle, if_neg hrange] at h
    cases h
  · exact exists_toBytesLittle

theorem writeString_returns_iff {value : String} :
    (∃ bytes, writeString value = .ok bytes) ↔ Addressable value := by
  constructor
  · rintro ⟨bytes, h⟩
    exact (writeString_eq_ok.mp h).1
  · exact exists_writeString

theorem writeOptionalValue_returns_iff {value : Json} :
    (∃ bytes, writeOptionalValue value = .ok bytes) ↔ IsText value := by
  cases value with
  | null => exact iff_of_true ⟨_, rfl⟩ (Or.inl rfl)
  | str text =>
      constructor
      · rintro ⟨bytes, h⟩
        obtain ⟨encoded, hencoded, -⟩ := Py.bind_eq_ok.mp h
        exact Or.inr ⟨text, rfl, writeString_returns_iff.mp ⟨encoded, hencoded⟩⟩
      · rintro (h | ⟨_, h, htext⟩)
        · cases h
        · cases h
          obtain ⟨encoded, hencoded⟩ := writeString_returns_iff.mpr htext
          exact ⟨_, Py.bind_eq_ok.mpr ⟨encoded, hencoded, rfl⟩⟩
  | _ =>
      refine iff_of_false ?_ ?_
      · rintro ⟨bytes, h⟩
        cases h
      · rintro (h | ⟨_, h, -⟩) <;> cases h

theorem LoadedClaim.fieldBytes_returns_iff {claim : LoadedClaim} {ownerKey nodeId : Bytes}
    (hversion : claim.version = NODE_OWNERSHIP_VERSION) :
    (∃ bytes, claim.fieldBytes ownerKey nodeId = .ok bytes) ↔ Packable claim := by
  simp only [fieldBytes, Py.bind_eq_ok]
  constructor
  · rintro ⟨_, _, -, _, hcertId, _, hownerId, _, hissuedAt, _, hexpiresAt, _, hnodeLabel, _,
      hhostnameHint, -⟩
    exact ⟨writeString_returns_iff.mp ⟨_, hcertId⟩, writeString_returns_iff.mp ⟨_, hownerId⟩,
      toBytesLittle_returns_iff.mp ⟨_, hissuedAt⟩, toBytesLittle_returns_iff.mp ⟨_, hexpiresAt⟩,
      writeOptionalValue_returns_iff.mp ⟨_, hnodeLabel⟩,
      writeOptionalValue_returns_iff.mp ⟨_, hhostnameHint⟩⟩
  · intro h
    have hrange : 0 ≤ claim.version ∧ claim.version < 256 ^ 4 := by
      rw [hversion]
      decide
    obtain ⟨_, hversion⟩ := toBytesLittle_returns_iff.mpr hrange
    obtain ⟨_, hcertId⟩ := writeString_returns_iff.mpr h.certId
    obtain ⟨_, hownerId⟩ := writeString_returns_iff.mpr h.ownerId
    obtain ⟨_, hissuedAt⟩ := toBytesLittle_returns_iff.mpr h.issuedAt
    obtain ⟨_, hexpiresAt⟩ := toBytesLittle_returns_iff.mpr h.expiresAt
    obtain ⟨_, hnodeLabel⟩ := writeOptionalValue_returns_iff.mpr h.nodeLabel
    obtain ⟨_, hhostnameHint⟩ := writeOptionalValue_returns_iff.mpr h.hostnameHint
    exact ⟨_, _, hversion, _, hcertId, _, hownerId, _, hissuedAt, _, hexpiresAt, _, hnodeLabel, _,
      hhostnameHint, rfl⟩

/-- The keys of a claim, in hex for 32 bytes each. -/
structure HasKeys (claim : LoadedClaim) (key id : Bytes) : Prop where
  ownerKey : bytesFromHex claim.ownerSignPublicKey = .ok key
  nodeId : bytesFromHex claim.nodeEndpointId = .ok id
  ownerLength : key.length = 32
  nodeLength : id.length = 32

/-- The claim gets as far as being packed: it is of the known version and for this node, and its
keys are well-formed. -/
structure ReachesPacking (claim : LoadedClaim) (expectedNodeEndpointId : String) : Prop where
  version : claim.version = NODE_OWNERSHIP_VERSION
  node : claim.nodeEndpointId = expectedNodeEndpointId
  keys : ∃ key id, HasKeys claim key id

variable {crypto : CertCrypto} {ownership : LoadedOwnership} {endpoint : String} {now : Int}

/-- Either the claim is packed under its keys, or an exception is raised before and caught. -/
theorem LoadedClaim.canonicalBytes_cases (claim : LoadedClaim) :
    (∃ e, claim.canonicalBytes = .error e ∧ (caught e).isSome = true ∧
      ∀ key id, ¬ HasKeys claim key id) ∨
    ∃ key id, HasKeys claim key id ∧ claim.canonicalBytes =
      claim.fieldBytes key id >>= fun encoded => .ok (SIGNING_DOMAIN_TAG ++ encoded) := by
  unfold canonicalBytes
  cases hkey : bytesFromHex claim.ownerSignPublicKey with
  | error e =>
      refine Or.inl ⟨e, rfl, bytesFromHex_caught hkey, ?_⟩
      intro key id h
      have := h.ownerKey
      simp [hkey] at this
  | ok key =>
      cases hid : bytesFromHex claim.nodeEndpointId with
      | error e =>
        refine Or.inl ⟨e, rfl, bytesFromHex_caught hid, ?_⟩
        intro key id h
        have := h.nodeId
        simp [hid] at this
      | ok id =>
        simp only [Py.ok_bind, Py.pure_eq_ok]
        split
        next hlength =>
          refine Or.inl ⟨_, rfl, rfl, ?_⟩
          intro key' id' h
          obtain rfl := Except.ok.inj (hkey.symm.trans h.ownerKey)
          exact hlength h.ownerLength
        next hlength =>
          split
          next hlength' =>
            refine Or.inl ⟨_, rfl, rfl, ?_⟩
            intro key' id' h
            obtain rfl := Except.ok.inj (hid.symm.trans h.nodeId)
            exact hlength' h.nodeLength
          next hlength' =>
            exact Or.inr ⟨key, id, ⟨hkey, hid, not_not.mp hlength, not_not.mp hlength'⟩, rfl⟩

/-- The check of a certificate returns unless its claim is to be packed and cannot. -/
theorem LoadedOwnership.checkSignature_returns_iff
    (hversion : ownership.claim.version = NODE_OWNERSHIP_VERSION) :
    (∃ found, ownership.checkSignature crypto = .ok found) ↔
      ((∃ key id, HasKeys ownership.claim key id) → Packable ownership.claim) := by
  obtain ⟨e, hcanonical, hcaught, hkeys⟩ | ⟨key, id, hkeys, hcanonical⟩ :=
    ownership.claim.canonicalBytes_cases
  · have hverifies : ownership.verifies crypto = .error e := by rw [verifies, hcanonical]; rfl
    obtain ⟨text, htext⟩ := Option.isSome_iff_exists.mp hcaught
    refine iff_of_true ?_ fun ⟨key, id, h⟩ => absurd h (hkeys key id)
    simp only [checkSignature, hverifies, htext]
    exact ⟨_, rfl⟩
  · have hpackable := @LoadedClaim.fieldBytes_returns_iff _ key id hversion
    cases hpacked : ownership.claim.fieldBytes key id with
    | error e =>
        have hescapes := ownership.claim.fieldBytes_escapes key id e hpacked
        have hverifies : ownership.verifies crypto = .error e := by
          rw [verifies, hcanonical, hpacked]
          rfl
        refine iff_of_false ?_ ?_
        · rintro ⟨found, h⟩
          simp only [checkSignature, hverifies, hescapes] at h
          cases h
        · intro h
          obtain ⟨bytes, hbytes⟩ := hpackable.mpr (h ⟨key, id, hkeys⟩)
          rw [hpacked] at hbytes
          cases hbytes
    | ok encoded =>
        refine iff_of_true ?_ fun _ => hpackable.mp ⟨encoded, hpacked⟩
        cases hsignature : bytesFromHex ownership.signature with
        | error e =>
          have hverifies : ownership.verifies crypto = .error e := by
            rw [verifies, hcanonical, hpacked, hkeys.ownerKey, hsignature]
            rfl
          obtain ⟨text, htext⟩ := Option.isSome_iff_exists.mp (bytesFromHex_caught hsignature)
          simp only [checkSignature, hverifies, htext]
          exact ⟨_, rfl⟩
        | ok signature =>
          have hverifies : ownership.verifies crypto =
              .ok (crypto.verify key signature (SIGNING_DOMAIN_TAG ++ encoded)) := by
            rw [verifies, hcanonical, hpacked, hkeys.ownerKey, hsignature]
            rfl
          rw [checkSignature, hverifies]
          cases crypto.verify key signature (SIGNING_DOMAIN_TAG ++ encoded) <;> exact ⟨_, rfl⟩

/-- A certificate whose signature was found in order can be cited. -/
theorem LoadedOwnership.certReference_returns (h : ownership.checkSignature crypto = .ok none) :
    ∃ reference, ownership.certReference crypto = .ok reference := by
  unfold checkSignature at h
  split at h
  next hverifies =>
    obtain ⟨canonical, hcanonical, hverifies⟩ := Py.bind_eq_ok.mp hverifies
    obtain ⟨key, -, hverifies⟩ := Py.bind_eq_ok.mp hverifies
    obtain ⟨signature, hsignature, -⟩ := Py.bind_eq_ok.mp hverifies
    rw [certReference, hcanonical, hsignature]
    exact ⟨_, rfl⟩
  next => cases h
  next e hverifies =>
    split at h <;> cases h

/-- The re-check returns unless the claim is to be packed and cannot; a certificate that it finds
valid can be cited. -/
theorem LoadedOwnership.recheck_returns_iff :
    (∃ recheck, ownership.recheck crypto endpoint now = .ok recheck ∧
      (recheck.valid = true → ∃ reference, ownership.certReference crypto = .ok reference)) ↔
      (ReachesPacking ownership.claim endpoint → Packable ownership.claim) := by
  unfold recheck
  by_cases hversion : ownership.claim.version = NODE_OWNERSHIP_VERSION
  · by_cases hnode : ownership.claim.nodeEndpointId = endpoint
    · have hreaches : ReachesPacking ownership.claim endpoint ↔
          ∃ key id, HasKeys ownership.claim key id :=
        ⟨fun h => h.keys, fun h => ⟨hversion, hnode, h⟩⟩
      rw [if_neg (not_not_intro hversion), if_neg (not_not_intro hnode), hreaches,
        ← @checkSignature_returns_iff crypto ownership hversion]
      constructor
      · rintro ⟨recheck, h, -⟩
        obtain ⟨found, hfound, -⟩ := Py.bind_eq_ok.mp h
        exact ⟨found, hfound⟩
      · rintro ⟨found, hfound⟩
        rw [hfound]
        cases found with
        | some reason => exact ⟨_, rfl, fun h => by cases h⟩
        | none =>
          have hreference := certReference_returns hfound
          simp only [Py.ok_bind]
          split
          · exact ⟨_, rfl, fun _ => hreference⟩
          · exact ⟨_, rfl, fun _ => hreference⟩
    · rw [if_neg (not_not_intro hversion), if_pos hnode]
      refine iff_of_true ⟨_, rfl, fun h => by cases h⟩ ?_
      intro h
      exact absurd h.node hnode
  · rw [if_pos hversion]
    refine iff_of_true ⟨_, rfl, fun h => by cases h⟩ ?_
    intro h
    exact absurd h.version hversion

/-! ## What loading raises -/

/-- A float that is no integer, however large. -/
def Infinite (value : Json) : Prop := value = .float "inf" ∨ value = .float "-inf"

theorem intOfFloat_overflow_iff {repr : String} :
    intOfFloat repr = .error .overflowError ↔ repr = "inf" ∨ repr = "-inf" := by
  constructor
  · intro h
    unfold intOfFloat at h
    split at h
    next _ digits hdigits =>
      by_cases hinf : digits = "inf".toList
      · subst hinf
        split at hdigits
        next hcs =>
          right
          apply String.toList_inj.mp
          rw [hcs, (Prod.mk.inj hdigits).2]
          rfl
        next => exact Or.inl (String.toList_inj.mp (Prod.mk.inj hdigits).2)
      · simp only [hinf, if_false] at h
        split at h
        · cases h
        · split at h <;> cases h
  · rintro (rfl | rfl) <;> rfl

theorem intOfStr_error {s : String} {e : PyError} (h : intOfStr s = .error e) :
    ∃ text, e = .valueError text := by
  unfold intOfStr at h
  simp only at h
  split at h <;> split at h <;>
    first
      | exact ⟨_, (Except.error.inj h).symm⟩
      | cases h

theorem toInt_overflow_iff {value : Json} : value.toInt = .error .overflowError ↔ Infinite value := by
  unfold Infinite
  cases value with
  | float repr => simpa [Json.toInt] using intOfFloat_overflow_iff
  | str s =>
      rw [Json.toInt]
      split
      · simp
      · refine iff_of_false ?_ (by simp)
        intro h
        obtain ⟨text, h⟩ := intOfStr_error h
        cases h
  | bool b => cases b <;> simp [Json.toInt]
  | _ => simp [Json.toInt]

/-- The claim holds an infinite number, and everything that is read before it can be read. -/
def MeetsInfinity (claim : List (String × Json)) : Prop :=
  (∃ version, claim.lookup "version" = some version ∧ Infinite version) ∨
  ((∃ version n, claim.lookup "version" = some version ∧ version.toInt = .ok n) ∧
    (∀ key ∈ ["cert_id", "owner_id", "owner_sign_public_key", "node_endpoint_id"],
      ∃ value, claim.lookup key = some value) ∧
    ((∃ issuedAt, claim.lookup "issued_at_unix_ms" = some issuedAt ∧ Infinite issuedAt) ∨
     ((∃ issuedAt n, claim.lookup "issued_at_unix_ms" = some issuedAt ∧ issuedAt.toInt = .ok n) ∧
      ∃ expiresAt, claim.lookup "expires_at_unix_ms" = some expiresAt ∧ Infinite expiresAt)))

theorem item_overflow {claim : List (String × Json)} {key : String} :
    (Json.obj claim).item key ≠ .error .overflowError := by
  rw [Json.item]
  cases claim.lookup key <;> simp

theorem item_eq_ok {claim : List (String × Json)} {key : String} {value : Json} :
    (Json.obj claim).item key = .ok value ↔ claim.lookup key = some value := by
  rw [Json.item]
  cases claim.lookup key <;> simp

theorem LoadedClaim.fromValue_overflow_iff {claim : List (String × Json)} :
    LoadedClaim.fromValue (.obj claim) = .error .overflowError ↔ MeetsInfinity claim := by
  simp only [fromValue, Raising.bind_eq_error, item_overflow, item_eq_ok, toInt_overflow_iff, false_or,
    MeetsInfinity, Json.get, Json.getD, Py.pure_eq_ok, reduceCtorEq, and_false, exists_false, or_false,
    List.forall_mem_cons]
  constructor
  · rintro ⟨version, hversion, hinfinite | ⟨n, hn, certId, hcertId, ownerId, hownerId, key, hkey,
      node, hnode, issuedAt, hissuedAt, hissued⟩⟩
    · exact Or.inl ⟨version, hversion, hinfinite⟩
    · refine Or.inr ⟨⟨version, n, hversion, hn⟩, ⟨⟨certId, hcertId⟩, ⟨ownerId, hownerId⟩,
        ⟨key, hkey⟩, ⟨node, hnode⟩, by simp⟩, ?_⟩
      obtain hinfinite | ⟨m, hm, hexpires⟩ := hissued
      · exact Or.inl ⟨issuedAt, hissuedAt, hinfinite⟩
      · exact Or.inr ⟨⟨issuedAt, m, hissuedAt, hm⟩, hexpires⟩
  · rintro (⟨version, hversion, hinfinite⟩ | ⟨⟨version, n, hversion, hn⟩, ⟨⟨certId, hcertId⟩,
      ⟨ownerId, hownerId⟩, ⟨key, hkey⟩, ⟨node, hnode⟩, -⟩, hissued⟩)
    · exact ⟨version, hversion, Or.inl hinfinite⟩
    · refine ⟨version, hversion, Or.inr ⟨n, hn, certId, hcertId, ownerId, hownerId, key, hkey, node,
        hnode, ?_⟩⟩
      obtain ⟨issuedAt, hissuedAt, hinfinite⟩ | ⟨⟨issuedAt, m, hissuedAt, hm⟩, hexpires⟩ := hissued
      · exact ⟨issuedAt, hissuedAt, Or.inl hinfinite⟩
      · exact ⟨issuedAt, hissuedAt, Or.inr ⟨m, hm, hexpires⟩⟩

/-- What loading a certificate may raise. -/
def LoadError (e : PyError) : Prop :=
  e = .typeError ∨ e = .keyError ∨ (∃ text, e = .valueError text) ∨ e = .overflowError

theorem item_raises (value : Json) (key : String) :
    Raising.RaisesOnly LoadError (value.item key) := by
  cases value with
  | obj members =>
      rw [Json.item]
      cases members.lookup key with
      | none => exact Raising.RaisesOnly.error (Or.inr (Or.inl rfl))
      | some value => exact Raising.RaisesOnly.ok _
  | _ => exact Raising.RaisesOnly.error (Or.inl rfl)

theorem intOfFloat_raises (repr : String) : Raising.RaisesOnly LoadError (intOfFloat repr) := by
  intro e h
  unfold intOfFloat at h
  split at h
  next _ digits _ =>
    by_cases hinf : digits = "inf".toList
    · simp only [hinf, if_true] at h
      exact Or.inr (Or.inr (Or.inr (Except.error.inj h).symm))
    · simp only [hinf, if_false] at h
      split at h
      · exact Or.inr (Or.inr (Or.inl ⟨_, (Except.error.inj h).symm⟩))
      · split at h <;> cases h

theorem toInt_raises (value : Json) : Raising.RaisesOnly LoadError (value.toInt) := by
  cases value with
  | null => exact Raising.RaisesOnly.error (Or.inl rfl)
  | arr elems => exact Raising.RaisesOnly.error (Or.inl rfl)
  | obj members => exact Raising.RaisesOnly.error (Or.inl rfl)
  | bool b => exact Raising.RaisesOnly.ok _
  | int n => exact Raising.RaisesOnly.ok _
  | float repr => exact intOfFloat_raises repr
  | str s =>
      intro e h
      rw [Json.toInt] at h
      split at h
      · exact Or.inr (Or.inr (Or.inl ⟨_, (Except.error.inj h).symm⟩))
      · exact Or.inr (Or.inr (Or.inl (intOfStr_error h)))

theorem item_obj {value found : Json} {key : String} (h : value.item key = .ok found) :
    ∃ members, value = .obj members := by
  cases value with
  | obj members => exact ⟨members, rfl⟩
  | _ => cases h

theorem LoadedClaim.fromValue_raises (value : Json) :
    Raising.RaisesOnly LoadError (LoadedClaim.fromValue value) := by
  apply (item_raises value "version").bind
  intro found hfound
  obtain ⟨members, rfl⟩ := item_obj hfound
  apply (toInt_raises found).bind
  intro version _
  apply (item_raises _ "cert_id").bind
  intro certId _
  apply (item_raises _ "owner_id").bind
  intro ownerId _
  apply (item_raises _ "owner_sign_public_key").bind
  intro ownerSignPublicKey _
  apply (item_raises _ "node_endpoint_id").bind
  intro nodeEndpointId _
  apply (item_raises _ "issued_at_unix_ms").bind
  intro issuedAt _
  apply (toInt_raises issuedAt).bind
  intro issuedAtUnixMs _
  apply (item_raises _ "expires_at_unix_ms").bind
  intro expiresAt _
  apply (toInt_raises expiresAt).bind
  intro expiresAtUnixMs _
  exact Raising.RaisesOnly.ok _

theorem LoadedOwnership.fromValue_raises (value : Json) :
    Raising.RaisesOnly LoadError (LoadedOwnership.fromValue value) := by
  apply (item_raises value "claim").bind
  intro claim _
  apply (LoadedClaim.fromValue_raises claim).bind
  intro loaded _
  apply (item_raises value "signature").bind
  intro signature _
  exact Raising.RaisesOnly.ok _

/-- Where the claim of a file meets an infinite number. -/
def FileMeetsInfinity (raw : Json) : Prop :=
  ∃ members claim, raw = .obj members ∧ members.lookup "claim" = some (.obj claim) ∧
    MeetsInfinity claim

theorem LoadedOwnership.fromValue_overflow_iff {raw : Json} :
    LoadedOwnership.fromValue raw = .error .overflowError ↔ FileMeetsInfinity raw := by
  have hclaim : ∀ claim : Json, LoadedClaim.fromValue claim = .error .overflowError →
      ∃ members, claim = .obj members := by
    intro claim h
    cases claim with
    | obj members => exact ⟨members, rfl⟩
    | _ => cases h
  cases raw with
  | obj members =>
      simp only [fromValue, Raising.bind_eq_error, item_overflow, item_eq_ok, false_or,
        Py.pure_eq_ok, reduceCtorEq, and_false, exists_false, or_false]
      constructor
      · rintro ⟨claim, hmember, hoverflow⟩
        obtain ⟨claim, rfl⟩ := hclaim claim hoverflow
        exact ⟨members, claim, rfl, hmember, LoadedClaim.fromValue_overflow_iff.mp hoverflow⟩
      · rintro ⟨_, claim, hmembers, hmember, hmeets⟩
        cases hmembers
        exact ⟨.obj claim, hmember, LoadedClaim.fromValue_overflow_iff.mpr hmeets⟩
  | _ =>
      refine iff_of_false ?_ ?_
      · intro h
        cases h
      · rintro ⟨_, _, h, -⟩
        cases h

/-- Loading raises where an infinite number is met, and nowhere else. -/
theorem loadSignedNodeOwnership_returns_iff {raw : Json} :
    (∃ loaded, loadSignedNodeOwnership (.value raw) = .ok loaded) ↔ ¬ FileMeetsInfinity raw := by
  rw [← LoadedOwnership.fromValue_overflow_iff, loadSignedNodeOwnership]
  cases h : LoadedOwnership.fromValue raw with
  | ok ownership => simp
  | error e =>
      obtain rfl | rfl | ⟨text, rfl⟩ | rfl := LoadedOwnership.fromValue_raises raw e h <;> simp

/-! ## The block -/

/-- The file does not nest too deep, no infinite number is met, and the claim can be packed if it comes
to that. -/
def Degrades (file : OwnershipFile) (expectedNodeEndpointId : String) : Prop :=
  file ≠ .tooDeep ∧ ∀ raw, file = .value raw → ¬ FileMeetsInfinity raw ∧
    ∀ ownership, LoadedOwnership.fromValue raw = .ok ownership →
      ReachesPacking ownership.claim expectedNodeEndpointId → Packable ownership.claim

theorem loadSignedNodeOwnership_eq_some {raw : Json} {ownership : LoadedOwnership} :
    loadSignedNodeOwnership (.value raw) = .ok (some ownership) ↔
      LoadedOwnership.fromValue raw = .ok ownership := by
  rw [loadSignedNodeOwnership]
  cases h : LoadedOwnership.fromValue raw with
  | ok found => simp
  | error e =>
      obtain rfl | rfl | ⟨text, rfl⟩ | rfl := LoadedOwnership.fromValue_raises raw e h <;> simp

theorem servedOwnerBlock_of_none {file : OwnershipFile} (identityCapsuleId : Option String)
    (h : loadSignedNodeOwnership file = .ok none) :
    ∃ block, servedOwnerBlock crypto file endpoint identityCapsuleId now = .ok block := by
  rw [servedOwnerBlock, h]
  exact ⟨_, rfl⟩

/-- With a certificate at hand the block is returned where the re-check and the reference are. -/
theorem servedOwnerBlock_of_some {file : OwnershipFile} (identityCapsuleId : Option String)
    (h : loadSignedNodeOwnership file = .ok (some ownership)) :
    (∃ block, servedOwnerBlock crypto file endpoint identityCapsuleId now = .ok block) ↔
      (ReachesPacking ownership.claim endpoint → Packable ownership.claim) := by
  rw [← @LoadedOwnership.recheck_returns_iff crypto ownership endpoint now, servedOwnerBlock, h,
    Py.ok_bind]
  constructor
  · rintro ⟨block, hblock⟩
    obtain ⟨recheck, hrecheck, hblock⟩ := Py.bind_eq_ok.mp hblock
    refine ⟨recheck, hrecheck, ?_⟩
    intro hvalid
    rw [if_pos hvalid] at hblock
    obtain ⟨certRef, hcertRef, -⟩ := Py.bind_eq_ok.mp hblock
    exact ⟨certRef, hcertRef⟩
  · rintro ⟨recheck, hrecheck, hreference⟩
    simp only [hrecheck, Py.ok_bind]
    by_cases hvalid : recheck.valid = true
    · obtain ⟨certRef, hcertRef⟩ := hreference hvalid
      rw [if_pos hvalid, hcertRef]
      exact ⟨_, rfl⟩
    · rw [if_neg hvalid]
      exact ⟨_, rfl⟩

/-- A block is returned exactly where the certificate degrades. -/
theorem servedOwnerBlock_returns_iff (crypto : CertCrypto) (file : OwnershipFile)
    (expectedNodeEndpointId : String) (identityCapsuleId : Option String) (now : Int) :
    (∃ block, servedOwnerBlock crypto file expectedNodeEndpointId identityCapsuleId now =
      .ok block) ↔ Degrades file expectedNodeEndpointId := by
  unfold Degrades
  cases file with
  | value raw =>
      have hraw : ∀ P : Json → Prop, (∀ raw', OwnershipFile.value raw = .value raw' → P raw') ↔
          P raw := fun P => ⟨fun h => h raw rfl, fun h raw' heq => OwnershipFile.value.inj heq ▸ h⟩
      rw [and_iff_right (by simp), hraw, ← loadSignedNodeOwnership_returns_iff]
      constructor
      · rintro ⟨block, hblock⟩
        obtain ⟨loaded, hloaded, -⟩ := Py.bind_eq_ok.mp hblock
        refine ⟨⟨loaded, hloaded⟩, ?_⟩
        intro ownership hownership
        have hsome := loadSignedNodeOwnership_eq_some.mpr hownership
        exact (servedOwnerBlock_of_some identityCapsuleId hsome).mp ⟨block, hblock⟩
      · rintro ⟨⟨loaded, hloaded⟩, hpackable⟩
        cases loaded with
        | none => exact servedOwnerBlock_of_none identityCapsuleId hloaded
        | some ownership =>
          have hownership := loadSignedNodeOwnership_eq_some.mp hloaded
          exact (servedOwnerBlock_of_some identityCapsuleId hloaded).mpr
            (hpackable ownership hownership)
  | missing => exact iff_of_true (servedOwnerBlock_of_none identityCapsuleId rfl) (by simp)
  | unreadable => exact iff_of_true (servedOwnerBlock_of_none identityCapsuleId rfl) (by simp)
  | malformed => exact iff_of_true (servedOwnerBlock_of_none identityCapsuleId rfl) (by simp)
  | tooDeep =>
      apply iff_of_false
      · rintro ⟨block, hblock⟩
        cases hblock
      · exact fun h => h.1 rfl

/-! ## A certificate that takes the serving path down -/

/-- A certificate of the known version for this node, issued before 1970. -/
def earlyCertificate : Json :=
  .obj [
    ("claim", .obj [("version", .int 1), ("cert_id", .str "c"), ("owner_id", .str "o"),
      ("owner_sign_public_key", .str (String.ofList (List.replicate 64 'a'))),
      ("node_endpoint_id", .str (String.ofList (List.replicate 64 'b'))),
      ("issued_at_unix_ms", .int (-1)), ("expires_at_unix_ms", .int 2)]),
    ("signature", .str "ab")]

theorem early_certificate_raises :
    ¬ ∃ block, servedOwnerBlock plainCrypto (.value earlyCertificate)
      (String.ofList (List.replicate 64 'b')) none 0 = .ok block := by
  intro h
  have hloaded : loadSignedNodeOwnership (.value earlyCertificate) = .ok (some
      ⟨⟨1, "c", "o", String.ofList (List.replicate 64 'a'), String.ofList (List.replicate 64 'b'),
        -1, 2, .null, .null⟩, "ab"⟩) := rfl
  have hkeys : HasKeys ⟨1, "c", "o", String.ofList (List.replicate 64 'a'),
      String.ofList (List.replicate 64 'b'), -1, 2, .null, .null⟩ (List.replicate 32 170)
      (List.replicate 32 187) := by
    exact ⟨by decide +kernel, by decide +kernel, rfl, rfl⟩
  have hpackable := (servedOwnerBlock_of_some none hloaded).mp h ⟨rfl, rfl, _, _, hkeys⟩
  exact absurd hpackable.issuedAt.1 (by decide)

end CapsuleMesh.Ownership
