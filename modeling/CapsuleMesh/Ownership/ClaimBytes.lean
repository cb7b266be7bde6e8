import CapsuleMesh.Library.PrefixCodes
import CapsuleMesh.Ownership
import CapsuleMesh.Python.Canonical

/-!
# The bytes of an ownership claim

The canonical bytes of a claim are its fields one behind the other, and each field says where
it ends.  So they can be read back, and nothing that stands behind them changes what they say.
-/

namespace CapsuleMesh.Ownership

open Python Library

/-! ## Fields -/

theorem leBytes_eq_map (width n : ℕ) :
    leBytes width n = (List.range width).map fun i => UInt8.ofNat (n / 256 ^ i % 256) := by
  have hbyte : ∀ m : ℕ, UInt8.ofNat (m % 256) = UInt8.ofNat m := by
    intro m
    apply UInt8.toNat_inj.mp
    simp
  induction width generalizing n with
  | zero => rfl
  | succ width ih =>
      rw [leBytes, ih, List.range_succ_eq_map, List.map_cons, List.map_map, Nat.pow_zero, Nat.div_one,
        hbyte]
      congr 1
      apply List.map_congr_left
      intro i _
      rw [Function.comp_apply, Nat.div_div_eq_div_mul, Nat.pow_succ']

theorem toBytesLittle_eq_ok {n : Int} {width : ℕ} {bytes : Bytes} :
    toBytesLittle n width = .ok bytes ↔ 0 ≤ n ∧ EncodesWord width n.toNat bytes := by
  have hrange : 0 ≤ n ∧ n < 256 ^ width ↔ 0 ≤ n ∧ n.toNat < 256 ^ width := by
    apply and_congr_right
    intro hn
    rw [Int.toNat_lt hn]
    norm_cast
  rw [toBytesLittle, ← leBytes_eq_map, EncodesWord, ← and_assoc, ← hrange]
  split
  next h => simp [h, eq_comm]
  next h => simp [h]

/-- A string in UTF-8 behind the eight bytes of its length. -/
def EncodesString (value : String) (bytes : Bytes) : Prop := EncodesPrefixed 8 (utf8 value) bytes

theorem writeString_eq_ok {value : String} {bytes : Bytes} :
    writeString value = .ok bytes ↔ EncodesString value bytes := by
  rw [writeString, Py.bind_eq_ok, EncodesString, EncodesPrefixed]
  constructor
  · rintro ⟨word, hword, hbytes⟩
    obtain ⟨-, hlt, rfl⟩ := toBytesLittle_eq_ok.mp hword
    exact ⟨hlt, (Except.ok.inj hbytes).symm⟩
  · rintro ⟨hlt, rfl⟩
    exact ⟨_, toBytesLittle_eq_ok.mpr ⟨Int.natCast_nonneg _, hlt, rfl⟩, rfl⟩

theorem writeOptionalString_eq_ok {value : Option String} {bytes : Bytes} :
    writeOptionalString value = .ok bytes ↔ Tagged 0 1 EncodesString value bytes := by
  cases value with
  | none => simp [writeOptionalString, Tagged, eq_comm]
  | some value =>
      rw [writeOptionalString, Py.bind_eq_ok, Tagged]
      constructor
      · rintro ⟨x, hx, hbytes⟩
        exact Or.inr ⟨value, x, rfl, (Except.ok.inj hbytes).symm, writeString_eq_ok.mp hx⟩
      · rintro (⟨h, -⟩ | ⟨_, x, hvalue, rfl, hx⟩)
        · cases h
        · cases hvalue
          exact ⟨x, writeString_eq_ok.mpr hx, rfl⟩

theorem selfDelimiting_string : SelfDelimiting EncodesString :=
  (selfDelimiting_prefixed 8).comap utf8_injective

theorem selfDelimiting_optionalString : SelfDelimiting (Tagged 0 1 EncodesString) :=
  selfDelimiting_string.tagged (by decide)

/-! ## Claims -/

/-- The fields of a claim in the order of its bytes, with the keys and numbers that are written. -/
abbrev ClaimFields : Type :=
  ℕ × String × String × Bytes × Bytes × ℕ × ℕ × Option String × Option String

def EncodesFields : ClaimFields → Bytes → Prop :=
  AndThen (EncodesWord 4) <| AndThen EncodesString <| AndThen EncodesString <|
  AndThen (EncodesRaw 32) <| AndThen (EncodesRaw 32) <| AndThen (EncodesWord 8) <|
  AndThen (EncodesWord 8) <| AndThen (Tagged 0 1 EncodesString) (Tagged 0 1 EncodesString)

theorem selfDelimiting_fields : SelfDelimiting EncodesFields := by
  apply (selfDelimiting_word 4).andThen
  apply selfDelimiting_string.andThen
  apply selfDelimiting_string.andThen
  apply (selfDelimiting_raw 32).andThen
  apply (selfDelimiting_raw 32).andThen
  apply (selfDelimiting_word 8).andThen
  apply (selfDelimiting_word 8).andThen
  exact selfDelimiting_optionalString.andThen selfDelimiting_optionalString

/-- What is written for a claim; the numbers are not negative and the keys are hex. -/
structure HasFields (claim : NodeOwnershipClaim) (fields : ClaimFields) : Prop where
  version : claim.version = fields.1
  certId : claim.certId = fields.2.1
  ownerId : claim.ownerId = fields.2.2.1
  ownerKey : bytesFromHex claim.ownerSignPublicKey = .ok fields.2.2.2.1
  nodeId : bytesFromHex claim.nodeEndpointId = .ok fields.2.2.2.2.1
  issuedAt : claim.issuedAtUnixMs = fields.2.2.2.2.2.1
  expiresAt : claim.expiresAtUnixMs = fields.2.2.2.2.2.2.1
  nodeLabel : claim.nodeLabel = fields.2.2.2.2.2.2.2.1
  hostnameHint : claim.hostnameHint = fields.2.2.2.2.2.2.2.2

/-- The bytes behind the domain tag, once the keys are known. -/
def fieldBytes (claim : NodeOwnershipClaim) (ownerKey nodeId : Bytes) : Py Bytes := do
  let version ← toBytesLittle claim.version 4
  let certId ← writeString claim.certId
  let ownerId ← writeString claim.ownerId
  let issuedAt ← toBytesLittle claim.issuedAtUnixMs 8
  let expiresAt ← toBytesLittle claim.expiresAtUnixMs 8
  let nodeLabel ← writeOptionalString claim.nodeLabel
  let hostnameHint ← writeOptionalString claim.hostnameHint
  return version ++ (certId ++ (ownerId ++ (ownerKey ++ (nodeId ++ (issuedAt ++ (expiresAt ++
    (nodeLabel ++ hostnameHint)))))))

theorem fieldBytes_eq_ok {claim : NodeOwnershipClaim} {ownerKey nodeId bytes : Bytes}
    (hownerKey : bytesFromHex claim.ownerSignPublicKey = .ok ownerKey)
    (hnodeId : bytesFromHex claim.nodeEndpointId = .ok nodeId)
    (hownerLength : ownerKey.length = 32) (hnodeLength : nodeId.length = 32) :
    fieldBytes claim ownerKey nodeId = .ok bytes ↔
      ∃ fields, HasFields claim fields ∧ EncodesFields fields bytes := by
  simp only [fieldBytes, Py.bind_eq_ok, Py.pure_eq_ok, Except.ok.injEq, toBytesLittle_eq_ok,
    writeString_eq_ok, writeOptionalString_eq_ok]
  constructor
  · rintro ⟨_, ⟨hversion0, hversion⟩, _, hcertId, _, hownerId, _, ⟨hissuedAt0, hissuedAt⟩, _,
      ⟨hexpiresAt0, hexpiresAt⟩, _, hnodeLabel, _, hhostnameHint, rfl⟩
    refine ⟨(claim.version.toNat, claim.certId, claim.ownerId, ownerKey, nodeId,
      claim.issuedAtUnixMs.toNat, claim.expiresAtUnixMs.toNat, claim.nodeLabel,
      claim.hostnameHint), ?_, ?_⟩
    · exact ⟨(Int.toNat_of_nonneg hversion0).symm, rfl, rfl, hownerKey, hnodeId,
        (Int.toNat_of_nonneg hissuedAt0).symm, (Int.toNat_of_nonneg hexpiresAt0).symm, rfl, rfl⟩
    · exact ⟨_, _, rfl, hversion, _, _, rfl, hcertId, _, _, rfl, hownerId, _, _, rfl,
        ⟨rfl, hownerLength⟩, _, _, rfl, ⟨rfl, hnodeLength⟩, _, _, rfl, hissuedAt, _, _, rfl,
        hexpiresAt, _, _, rfl, hnodeLabel, hhostnameHint⟩
  · rintro ⟨⟨version, certId, ownerId, ownerKey', nodeId', issuedAt, expiresAt, nodeLabel,
      hostnameHint⟩, h, _, _, rfl, hversion, _, _, rfl, hcertId, _, _, rfl, hownerId, _, _, rfl,
      ⟨rfl, -⟩, _, _, rfl, ⟨rfl, -⟩, _, _, rfl, hissuedAt, _, _, rfl, hexpiresAt, _, _, rfl,
      hnodeLabel, hhostnameHint⟩
    obtain ⟨hversion', rfl, rfl, hownerKey', hnodeId', hissuedAt', hexpiresAt', rfl, rfl⟩ := h
    simp only at hversion' hownerKey' hnodeId' hissuedAt' hexpiresAt'
    rw [hownerKey] at hownerKey'
    rw [hnodeId] at hnodeId'
    obtain rfl := Except.ok.inj hownerKey'
    obtain rfl := Except.ok.inj hnodeId'
    rw [hversion', hissuedAt', hexpiresAt']
    simp only [Int.toNat_natCast, Int.natCast_nonneg, true_and]
    exact ⟨_, hversion, _, hcertId, _, hownerId, _, hissuedAt, _, hexpiresAt, _, hnodeLabel, _,
      hhostnameHint, rfl⟩

/-- The keys have to be hex for 32 bytes each. -/
theorem canonicalClaimBytes_keys {claim : NodeOwnershipClaim} {bytes : Bytes}
    (h : canonicalClaimBytes claim = .ok bytes) :
    ∃ ownerKey nodeId, bytesFromHex claim.ownerSignPublicKey = .ok ownerKey ∧
      bytesFromHex claim.nodeEndpointId = .ok nodeId ∧ ownerKey.length = 32 ∧
      nodeId.length = 32 := by
  obtain ⟨ownerKey, hownerKey, h⟩ := Py.bind_eq_ok.mp h
  obtain ⟨nodeId, hnodeId, h⟩ := Py.bind_eq_ok.mp h
  by_cases hownerLength : ownerKey.length = 32
  · rw [if_neg (not_not_intro hownerLength)] at h
    by_cases hnodeLength : nodeId.length = 32
    · exact ⟨ownerKey, nodeId, hownerKey, hnodeId, hownerLength, hnodeLength⟩
    · rw [if_pos hnodeLength] at h
      cases h
  · rw [if_pos hownerLength] at h
    cases h

theorem canonicalClaimBytes_eq {claim : NodeOwnershipClaim} {ownerKey nodeId : Bytes}
    (hownerKey : bytesFromHex claim.ownerSignPublicKey = .ok ownerKey)
    (hnodeId : bytesFromHex claim.nodeEndpointId = .ok nodeId)
    (hownerLength : ownerKey.length = 32) (hnodeLength : nodeId.length = 32) :
    canonicalClaimBytes claim =
      fieldBytes claim ownerKey nodeId >>= fun encoded => .ok (SIGNING_DOMAIN_TAG ++ encoded) := by
  simp only [canonicalClaimBytes, fieldBytes, hownerKey, hnodeId, Py.ok_bind, hownerLength,
    hnodeLength, ne_eq, not_true_eq_false, if_false, bind_assoc, Py.pure_eq_ok, List.append_assoc]

theorem encodesFields_keys {fields : ClaimFields} {bytes : Bytes} (h : EncodesFields fields bytes) :
    fields.2.2.2.1.length = 32 ∧ fields.2.2.2.2.1.length = 32 := by
  obtain ⟨_, _, -, -, _, _, -, -, _, _, -, -, _, _, -, ⟨-, hownerLength⟩, _, _, -,
    ⟨-, hnodeLength⟩, -⟩ := h
  exact ⟨hownerLength, hnodeLength⟩

/-- The canonical bytes are the domain tag and the fields. -/
theorem canonicalClaimBytes_eq_ok {claim : NodeOwnershipClaim} {bytes : Bytes} :
    canonicalClaimBytes claim = .ok bytes ↔
      ∃ fields encoded, HasFields claim fields ∧ EncodesFields fields encoded ∧
        bytes = SIGNING_DOMAIN_TAG ++ encoded := by
  constructor
  · intro h
    obtain ⟨ownerKey, nodeId, hownerKey, hnodeId, hownerLength, hnodeLength⟩ :=
      canonicalClaimBytes_keys h
    rw [canonicalClaimBytes_eq hownerKey hnodeId hownerLength hnodeLength, Py.bind_eq_ok] at h
    obtain ⟨encoded, hencoded, hbytes⟩ := h
    obtain ⟨fields, hfields, hlayout⟩ :=
      (fieldBytes_eq_ok hownerKey hnodeId hownerLength hnodeLength).mp hencoded
    exact ⟨fields, encoded, hfields, hlayout, (Except.ok.inj hbytes).symm⟩
  · rintro ⟨fields, encoded, hfields, hlayout, rfl⟩
    obtain ⟨hownerLength, hnodeLength⟩ := encodesFields_keys hlayout
    rw [canonicalClaimBytes_eq hfields.ownerKey hfields.nodeId hownerLength hnodeLength,
      (fieldBytes_eq_ok hfields.ownerKey hfields.nodeId hownerLength hnodeLength).mpr
        ⟨fields, hfields, hlayout⟩]
    rfl

/-- Two claims that say the same. -/
structure SameClaim (a b : NodeOwnershipClaim) : Prop where
  version : a.version = b.version
  certId : a.certId = b.certId
  ownerId : a.ownerId = b.ownerId
  ownerKey : ∃ key, bytesFromHex a.ownerSignPublicKey = .ok key ∧
    bytesFromHex b.ownerSignPublicKey = .ok key
  nodeId : ∃ id, bytesFromHex a.nodeEndpointId = .ok id ∧ bytesFromHex b.nodeEndpointId = .ok id
  issuedAt : a.issuedAtUnixMs = b.issuedAtUnixMs
  expiresAt : a.expiresAtUnixMs = b.expiresAtUnixMs
  nodeLabel : a.nodeLabel = b.nodeLabel
  hostnameHint : a.hostnameHint = b.hostnameHint

theorem HasFields.same {a b : NodeOwnershipClaim} {fields : ClaimFields} (ha : HasFields a fields)
    (hb : HasFields b fields) : SameClaim a b where
  version := ha.version.trans hb.version.symm
  certId := ha.certId.trans hb.certId.symm
  ownerId := ha.ownerId.trans hb.ownerId.symm
  ownerKey := ⟨_, ha.ownerKey, hb.ownerKey⟩
  nodeId := ⟨_, ha.nodeId, hb.nodeId⟩
  issuedAt := ha.issuedAt.trans hb.issuedAt.symm
  expiresAt := ha.expiresAt.trans hb.expiresAt.symm
  nodeLabel := ha.nodeLabel.trans hb.nodeLabel.symm
  hostnameHint := ha.hostnameHint.trans hb.hostnameHint.symm

/-- Whatever stands behind the bytes of a claim, they can be told from it. -/
theorem canonicalClaimBytes_front {a b : NodeOwnershipClaim} {x y rest rest' : Bytes}
    (ha : canonicalClaimBytes a = .ok x) (hb : canonicalClaimBytes b = .ok y)
    (heq : x ++ rest = y ++ rest') : SameClaim a b ∧ rest = rest' := by
  obtain ⟨fields, encoded, hfields, hencoded, rfl⟩ := canonicalClaimBytes_eq_ok.mp ha
  obtain ⟨fields', encoded', hfields', hencoded', rfl⟩ := canonicalClaimBytes_eq_ok.mp hb
  rw [List.append_assoc, List.append_assoc] at heq
  obtain ⟨rfl, hrest⟩ := selfDelimiting_fields hencoded hencoded' (List.append_cancel_left heq)
  exact ⟨hfields.same hfields', hrest⟩

/-! ## Well-formed claims -/

/-- What the issuer writes: keys of 32 bytes in hex and numbers in range. -/
structure WellFormed (claim : NodeOwnershipClaim) : Prop where
  version : 0 ≤ claim.version ∧ claim.version < 2 ^ 32
  ownerKey : ∃ key, bytesFromHex claim.ownerSignPublicKey = .ok key ∧ key.length = 32
  nodeId : ∃ id, bytesFromHex claim.nodeEndpointId = .ok id ∧ id.length = 32
  issuedAt : 0 ≤ claim.issuedAtUnixMs ∧ claim.issuedAtUnixMs < 2 ^ 64
  expiresAt : 0 ≤ claim.expiresAtUnixMs ∧ claim.expiresAtUnixMs < 2 ^ 64

/-- A string whose length in bytes fits into the word in front of it. -/
def Addressable (value : String) : Prop := (utf8 value).length < 256 ^ 8

theorem exists_writeString {value : String} (h : Addressable value) :
    ∃ bytes, writeString value = .ok bytes :=
  ⟨_, writeString_eq_ok.mpr ⟨h, rfl⟩⟩

theorem exists_writeOptionalString {value : Option String} (h : ∀ text ∈ value, Addressable text) :
    ∃ bytes, writeOptionalString value = .ok bytes := by
  cases value with
  | none => exact ⟨_, rfl⟩
  | some text =>
      obtain ⟨bytes, hbytes⟩ := exists_writeString (h text rfl)
      exact ⟨1 :: bytes, by rw [writeOptionalString, hbytes]; rfl⟩

theorem exists_toBytesLittle {n : Int} {width : ℕ} (h : 0 ≤ n ∧ n < 256 ^ width) :
    ∃ bytes, toBytesLittle n width = .ok bytes := by
  rw [toBytesLittle, if_pos h]
  exact ⟨_, rfl⟩

/-- A well-formed claim has canonical bytes. -/
theorem WellFormed.canonicalClaimBytes_returns {claim : NodeOwnershipClaim}
    (h : WellFormed claim) (hcertId : Addressable claim.certId)
    (hownerId : Addressable claim.ownerId) (hnodeLabel : ∀ text ∈ claim.nodeLabel, Addressable text)
    (hhostnameHint : ∀ text ∈ claim.hostnameHint, Addressable text) :
    ∃ bytes, canonicalClaimBytes claim = .ok bytes := by
  obtain ⟨ownerKey, hownerKey, hownerLength⟩ := h.ownerKey
  obtain ⟨nodeId, hnodeId, hnodeLength⟩ := h.nodeId
  obtain ⟨version, hversion⟩ := @exists_toBytesLittle _ 4 h.version
  obtain ⟨certId, hcertId⟩ := exists_writeString hcertId
  obtain ⟨ownerId, hownerId⟩ := exists_writeString hownerId
  obtain ⟨issuedAt, hissuedAt⟩ := @exists_toBytesLittle _ 8 h.issuedAt
  obtain ⟨expiresAt, hexpiresAt⟩ := @exists_toBytesLittle _ 8 h.expiresAt
  obtain ⟨nodeLabel, hnodeLabel⟩ := exists_writeOptionalString hnodeLabel
  obtain ⟨hostnameHint, hhostnameHint⟩ := exists_writeOptionalString hhostnameHint
  rw [canonicalClaimBytes_eq hownerKey hnodeId hownerLength hnodeLength, fieldBytes]
  simp only [hversion, hcertId, hownerId, hissuedAt, hexpiresAt, hnodeLabel, hhostnameHint,
    Py.ok_bind, Py.pure_eq_ok]
  exact ⟨_, rfl⟩

/-- Canonical bytes that begin with the canonical bytes of a claim are of the same claim and
end with it.  So a digest, over claim and signature, is of one claim and one signature. -/
theorem claim_bytes_determine (crypto : CertCrypto)
    (hsha : Function.Injective crypto.sha256Hex) :
    (∀ a b bytes rest, canonicalClaimBytes a = .ok bytes →
      canonicalClaimBytes b = .ok (bytes ++ rest) → SameClaim a b ∧ rest = []) ∧
    ∀ s t digest, ownerCertDigest crypto s = .ok digest → ownerCertDigest crypto t = .ok digest →
      SameClaim s.claim t.claim ∧ ∃ signature, bytesFromHex s.signature = .ok signature ∧
        bytesFromHex t.signature = .ok signature := by
  constructor
  · intro a b bytes rest ha hb
    exact canonicalClaimBytes_front ha hb (List.append_nil (bytes ++ rest)).symm
  · intro s t digest hs ht
    obtain ⟨claimBytes, hclaim, hs⟩ := Py.bind_eq_ok.mp hs
    obtain ⟨signature, hsignature, hs⟩ := Py.bind_eq_ok.mp hs
    obtain ⟨claimBytes', hclaim', ht⟩ := Py.bind_eq_ok.mp ht
    obtain ⟨signature', hsignature', ht⟩ := Py.bind_eq_ok.mp ht
    have hdigest : crypto.sha256Hex (claimBytes ++ signature) =
        crypto.sha256Hex (claimBytes' ++ signature') :=
      (Except.ok.inj hs).trans (Except.ok.inj ht).symm
    obtain ⟨hsame, rfl⟩ := canonicalClaimBytes_front hclaim hclaim' (hsha hdigest)
    exact ⟨hsame, signature, hsignature, hsignature'⟩

/-- A signature check that passes and a digest that tells all byte strings apart. -/
def plainCrypto : CertCrypto where
  verify _ _ _ := true
  sha256Hex := hexText

def plainClaim : NodeOwnershipClaim where
  version := 1
  certId := "c"
  ownerId := "o"
  ownerSignPublicKey := String.ofList (List.replicate 64 'a')
  nodeEndpointId := String.ofList (List.replicate 64 'b')
  issuedAtUnixMs := 1
  expiresAtUnixMs := 2
  nodeLabel := none
  hostnameHint := some "h"

theorem plainClaim_returns : ∃ bytes, canonicalClaimBytes plainClaim = .ok bytes := by
  have hwell : WellFormed plainClaim :=
    ⟨by decide, ⟨List.replicate 32 170, by decide +kernel, by decide⟩,
      ⟨List.replicate 32 187, by decide +kernel, by decide⟩, by decide, by decide⟩
  apply hwell.canonicalClaimBytes_returns
  · exact (by decide +kernel : (utf8 "c").length < 256 ^ 8)
  · exact (by decide +kernel : (utf8 "o").length < 256 ^ 8)
  · rintro text ⟨⟩
  · rintro text ⟨⟩
    exact (by decide +kernel : (utf8 "h").length < 256 ^ 8)

/-- Two spellings of one certificate, by way of their common digest. -/
theorem claim_bytes_determine_plain :
    ∃ digest, ownerCertDigest plainCrypto ⟨plainClaim, "ab"⟩ = .ok digest ∧
      ownerCertDigest plainCrypto ⟨plainClaim, "AB"⟩ = .ok digest ∧
      ∃ signature, bytesFromHex "ab" = .ok signature ∧ bytesFromHex "AB" = .ok signature := by
  obtain ⟨bytes, hbytes⟩ := plainClaim_returns
  have hlower : bytesFromHex "ab" = .ok [171] := by decide +kernel
  have hupper : bytesFromHex "AB" = .ok [171] := by decide +kernel
  have hs : ownerCertDigest plainCrypto ⟨plainClaim, "ab"⟩ = .ok (hexText (bytes ++ [171])) := by
    simp only [ownerCertDigest, hbytes, hlower, Py.ok_bind, Py.pure_eq_ok, plainCrypto]
  have ht : ownerCertDigest plainCrypto ⟨plainClaim, "AB"⟩ = .ok (hexText (bytes ++ [171])) := by
    simp only [ownerCertDigest, hbytes, hupper, Py.ok_bind, Py.pure_eq_ok, plainCrypto]
  exact ⟨_, hs, ht, ((claim_bytes_determine plainCrypto hexText_injective).2 _ _ _ hs ht).2⟩

end CapsuleMesh.Ownership
