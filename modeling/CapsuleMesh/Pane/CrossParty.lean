import CapsuleMesh.Python.Dumps
import CapsuleMesh.Python.Equality
import CapsuleMesh.Sidecar.Attestation
import CapsuleMesh.Stranger.Bundle

/-!
# The rung of an exchange with an acknowledgement

`verify_exchange` of `bilateral_demo.py` and `cross_party_grade` of `capsule_accountability_tab.py`.
Both check an acknowledgement by `verify_client_ack`: its signature over the bytes it carries, and the
fields beside those bytes against the record.  The bytes themselves are not read.
-/

namespace CapsuleMesh.CrossParty

open Python Sidecar Stranger

/-- A `ClientAck`, with what is beside its signed bytes. -/
structure ClientAck where
  actionCapsuleId : Json
  requestNonce : Json
  timestamp : Json
  ackBytes : Bytes
  sig : Bytes
  publicKeyPem : Bytes

/-- The packages: the key library, base64, the capsule package, and the texts of exceptions. -/
structure AckTools where
  verify : (pem signature message : Bytes) → SignatureCheck
  urlsafeB64decode : String → Py Bytes
  verifyCapsule : Json → VerificationResult
  excText : PyError → String

section

variable (T : AckTools)

def verifyClientAck (ack : ClientAck) (capsuleId correlator : Json) : Bool × String :=
  match T.verify ack.publicKeyPem ack.sig ack.ackBytes with
  | .invalidSignature => (false, "ack signature invalid")
  | .failed text => (false, "ack signature error: " ++ text)
  | .verified =>
      if !ack.actionCapsuleId.pyEq capsuleId then
        (false, "ack.action_capsule_id=" ++ ack.actionCapsuleId.pyRepr ++
          " does not match capsule_id=" ++ capsuleId.pyRepr)
      else if !correlator.isNull && !ack.requestNonce.pyEq correlator then
        (false, "ack.request_nonce=" ++ ack.requestNonce.pyRepr ++
          " does not match cross_party.correlator=" ++ correlator.pyRepr)
      else (true, "ack verified: same exchange, same nonce, signature valid")

/-! ## `verify_exchange` -/

def findingText (f : Finding) : String :=
  "capsule verify: " ++ (f.check.map toString).getD "None" ++ " — " ++ f.detail

/-- `cross_party.get("correlator") if cross_party else None`. -/
def correlatorOf (crossParty : Json) : Py Json :=
  if crossParty.truthy then crossParty.get "correlator" else .ok .null

/-- Whether the acknowledgement verifies, and the finding about it. -/
def checkAck (capsule crossParty : Json) : Option ClientAck → Py (Bool × List String)
  | none => .ok (false, [])
  | some ack => do
      let correlator ← correlatorOf crossParty
      let capsuleId ← capsule.item "capsule_id"
      let (ok, reason) := verifyClientAck T ack capsuleId correlator
      return (ok, ["client_ack: " ++ reason])

def verifyExchange (capsule : Json) (clientAck : Option ClientAck) :
    Py (String × Bool × List String) := do
  let result := T.verifyCapsule capsule
  let findings := if result.ok then [] else result.findings.map findingText
  let crossParty ← getCrossParty capsule
  let (ackOk, ackFindings) ← checkAck T capsule crossParty clientAck
  let rung ← deriveCrossPartyRung crossParty ackOk
  let caveat := ((identityLimitationForRung rung).map fun text ↦ "identity_limitation: " ++ text).toList
  return (rung, result.ok, findings ++ ackFindings ++ caveat)

/-! ## `cross_party_grade` -/

/-- A member of an evidence block in base64. -/
def decodedField (block : Json) (key : String) : Py Bytes := do
  match ← block.item key with
  | .str text => T.urlsafeB64decode (text ++ "==")
  | _ => .error .typeError

def clientAckFromEvidence (block : Json) : Py ClientAck := do
  let actionCapsuleId ← block.item "action_capsule_id"
  let requestNonce ← block.item "request_nonce"
  let timestamp ← block.getD "timestamp" (.str "")
  let ackBytes ← decodedField T block "ack_bytes_b64"
  let sig ← decodedField T block "sig_b64"
  let publicKeyPem ← decodedField T block "public_key_pem_b64"
  return ⟨actionCapsuleId, requestNonce, timestamp, ackBytes, sig, publicKeyPem⟩

/-- `except (KeyError, TypeError, ValueError, binascii.Error)`. -/
def malformedBlock : PyError → Bool
  | .keyError | .typeError | .valueError _ => true
  | _ => false

/-- Whether the block of a record is a verified acknowledgement, or what it claims and cannot show. -/
def checkAckBlock (crossParty : Json) (capsuleId : String) : Py (Bool × Option String) := do
  let block ← crossParty.get "client_ack"
  if block.truthy then
    match clientAckFromEvidence T block with
    | .error e =>
        if malformedBlock e then
          return (false, some ("cross_party.client_ack is malformed: " ++ T.excText e))
        else .error e
    | .ok ack => do
        let (ok, reason) := verifyClientAck T ack (.str capsuleId) (← crossParty.get "correlator")
        return (ok, if ok then none else some ("cross_party.client_ack did not verify: " ++ reason))
  else if (← crossParty.get "ack_verified").truthy then
    return (false, some ("record claims cross_party.ack_verified=true but carries no " ++
      "cross_party.client_ack evidence to re-derive it from -- claim " ++
      "only, never counted toward the rung"))
  else return (false, none)

structure CrossPartyGrade where
  rung : String
  identityLimitation : Option String
  unverifiableClaim : Option String

def crossPartyGrade (poc : Json) (capsuleId : Option String) : Py CrossPartyGrade := do
  let crossParty ← poc.get "cross_party"
  let (hasVerifiedAck, unverifiableClaim) ←
    (if crossParty.truthy then checkAckBlock T crossParty (capsuleId.getD "")
      else .ok (false, none) : Py (Bool × Option String))
  let rung ← deriveCrossPartyRung crossParty hasVerifiedAck
  return ⟨rung, identityLimitationForRung rung, unverifiableClaim⟩

end

/-! ## What the signed bytes state -/

section

variable (T : AckTools) (floatRepr : String → String)

/-- The signed bytes are a JSON object with this capsule id and, if there is one, this nonce. -/
def States (signed : Bytes) (capsuleId correlator : Json) : Prop :=
  ∃ members, decodeUtf8 signed >>= loads floatRepr = .ok (.obj members) ∧
    ((members.lookup "action_capsule_id").getD .null).pyEq capsuleId = true ∧
      (correlator.isNull = false →
        ((members.lookup "request_nonce").getD .null).pyEq correlator = true)

/-- The signature verifies, and the fields beside the signed bytes are those of the record. -/
structure FieldsMatch (ack : ClientAck) (capsuleId correlator : Json) : Prop where
  signature : T.verify ack.publicKeyPem ack.sig ack.ackBytes = .verified
  capsuleId : ack.actionCapsuleId.pyEq capsuleId = true
  nonce : correlator.isNull = false → ack.requestNonce.pyEq correlator = true

variable {T floatRepr}

theorem verifyClientAck_iff (ack : ClientAck) (capsuleId correlator : Json) :
    (verifyClientAck T ack capsuleId correlator).1 = true ↔ FieldsMatch T ack capsuleId correlator := by
  rw [verifyClientAck]
  constructor
  · intro h
    split at h
    next => cases h
    next => cases h
    next hverified =>
        split at h
        next => cases h
        next hcapsule =>
            split at h
            next => cases h
            next hnonce =>
                rw [Bool.not_eq_true, Bool.not_eq_false'] at hcapsule
                refine ⟨hverified, hcapsule, ?_⟩
                intro hsome
                rw [hsome] at hnonce
                simpa using hnonce
  · rintro ⟨hverified, hcapsule, hnonce⟩
    rw [hverified]
    simp only [hcapsule, Bool.not_true, Bool.false_eq_true, if_false]
    cases hnull : correlator.isNull with
    | true => rfl
    | false => simp [hnonce hnull]

/-- A block that states a commitment of the initiator, with its correlator. -/
structure Committed (crossParty correlator : Json) : Prop where
  truthy : crossParty.truthy = true
  initiator : ∃ initiator, crossParty.get "initiator_ref" = .ok initiator ∧ initiator.truthy = true
  correlator : crossParty.get "correlator" = .ok correlator

/-- The full rung needs a commitment and a verified acknowledgement. -/
theorem rung_full_iff {crossParty : Json} {ackOk : Bool} {rung : String}
    (h : deriveCrossPartyRung crossParty ackOk = .ok rung) :
    rung = "full_bilateral" ↔ ackOk = true ∧ ∃ correlator, Committed crossParty correlator := by
  unfold deriveCrossPartyRung at h
  cases htruthy : crossParty.truthy with
  | false =>
      rw [htruthy, if_pos (by rfl)] at h
      obtain rfl := Except.ok.inj h
      apply iff_of_false (by decide)
      rintro ⟨-, correlator, hcommitted⟩
      cases htruthy.symm.trans hcommitted.truthy
  | true =>
      rw [htruthy, if_neg (by simp)] at h
      obtain ⟨initiator, hinitiator, h⟩ := Py.bind_eq_ok.mp h
      cases hpresent : initiator.truthy with
      | false =>
        rw [hpresent, if_pos (by rfl)] at h
        obtain rfl := Except.ok.inj h
        apply iff_of_false (by decide)
        rintro ⟨-, correlator, hcommitted⟩
        obtain ⟨other, hother, hother'⟩ := hcommitted.initiator
        obtain rfl := Except.ok.inj (hinitiator.symm.trans hother)
        cases hpresent.symm.trans hother'
      | true =>
        rw [hpresent, if_neg (by simp)] at h
        cases ackOk with
        | false =>
          obtain rfl := Except.ok.inj h
          apply iff_of_false (by decide)
          rintro ⟨h, -⟩
          cases h
        | true =>
          obtain rfl := Except.ok.inj h
          apply iff_of_true rfl
          refine ⟨rfl, ?_⟩
          cases crossParty with
          | obj members => exact ⟨_, htruthy, ⟨initiator, hinitiator, hpresent⟩, rfl⟩
          | _ => cases hinitiator

/-! ## What is supplied -/

/-- An acknowledgement, with the capsule id and the correlator that it is checked against. -/
structure Check where
  ack : ClientAck
  capsuleId : Json
  correlator : Json

def Check.FieldsMatch (T : AckTools) (check : Check) : Prop :=
  CrossParty.FieldsMatch T check.ack check.capsuleId check.correlator

def Check.States (floatRepr : String → String) (check : Check) : Prop :=
  CrossParty.States floatRepr check.ack.ackBytes check.capsuleId check.correlator

/-- The fields are those of the record, and the signed bytes state something else. -/
structure Check.Detached (T : AckTools) (floatRepr : String → String) (check : Check) : Prop where
  fields : check.FieldsMatch T
  signed : ¬check.States floatRepr

/-- `verify_exchange` makes this check for a record with a commitment. -/
structure SuppliedToExchange (capsule : Json) (clientAck : Option ClientAck) (check : Check) :
    Prop where
  ack : check.ack ∈ clientAck
  block : ∃ crossParty, getCrossParty capsule = .ok crossParty ∧ Committed crossParty check.correlator
  capsuleId : capsule.item "capsule_id" = .ok check.capsuleId

/-- `cross_party_grade` makes this check for a record with a commitment. -/
structure SuppliedToGrade (T : AckTools) (poc : Json) (capsuleId : Option String) (check : Check) :
    Prop where
  block : ∃ crossParty block, poc.get "cross_party" = .ok crossParty ∧
    Committed crossParty check.correlator ∧ crossParty.get "client_ack" = .ok block ∧
      block.truthy = true ∧ clientAckFromEvidence T block = .ok check.ack
  capsuleId : check.capsuleId = .str (capsuleId.getD "")

theorem SuppliedToExchange.unique {capsule : Json} {clientAck : Option ClientAck} {a b : Check}
    (ha : SuppliedToExchange capsule clientAck a) (hb : SuppliedToExchange capsule clientAck b) :
    a = b := by
  obtain ⟨ackA, idA, correlatorA⟩ := a
  obtain ⟨ackB, idB, correlatorB⟩ := b
  obtain ⟨crossParty, hblockA, hcommittedA⟩ := ha.block
  obtain ⟨other, hblockB, hcommittedB⟩ := hb.block
  obtain rfl := Except.ok.inj (hblockA.symm.trans hblockB)
  obtain rfl := Option.some.inj (ha.ack.symm.trans hb.ack)
  obtain rfl := Except.ok.inj (ha.capsuleId.symm.trans hb.capsuleId)
  obtain rfl := Except.ok.inj (hcommittedA.correlator.symm.trans hcommittedB.correlator)
  rfl

theorem SuppliedToGrade.unique {poc : Json} {capsuleId : Option String} {a b : Check}
    (ha : SuppliedToGrade T poc capsuleId a) (hb : SuppliedToGrade T poc capsuleId b) : a = b := by
  obtain ⟨ackA, idA, correlatorA⟩ := a
  obtain ⟨ackB, idB, correlatorB⟩ := b
  obtain ⟨crossParty, block, hcrossA, hcommittedA, hblockA, -, hackA⟩ := ha.block
  obtain ⟨other, other', hcrossB, hcommittedB, hblockB, -, hackB⟩ := hb.block
  obtain rfl := Except.ok.inj (hcrossA.symm.trans hcrossB)
  obtain rfl := Except.ok.inj (hblockA.symm.trans hblockB)
  obtain rfl := Except.ok.inj (hackA.symm.trans hackB)
  obtain rfl := Except.ok.inj (hcommittedA.correlator.symm.trans hcommittedB.correlator)
  obtain rfl := ha.capsuleId.trans hb.capsuleId.symm
  rfl

/-- The full rung is stated by the signed bytes unless the one check made is of detached fields. -/
theorem full_stated_iff {full : Prop} {supplied : Check → Prop}
    (hfull : full ↔ ∃ check, supplied check ∧ check.FieldsMatch T)
    (hunique : ∀ a b, supplied a → supplied b → a = b) :
    (full → ∃ check, supplied check ∧ check.States floatRepr) ↔
      ¬∃ check, supplied check ∧ check.Detached T floatRepr := by
  constructor
  · rintro hsound ⟨check, hcheck, hdetached⟩
    obtain ⟨other, hother, hstates⟩ := hsound (hfull.mpr ⟨check, hcheck, hdetached.fields⟩)
    obtain rfl := hunique check other hcheck hother
    exact hdetached.signed hstates
  · intro hnone hrung
    obtain ⟨check, hcheck, hfields⟩ := hfull.mp hrung
    refine ⟨check, hcheck, ?_⟩
    by_contra hsigned
    exact hnone ⟨check, hcheck, hfields, hsigned⟩

theorem checkAck_iff {capsule crossParty correlator : Json} {clientAck : Option ClientAck} {ackOk : Bool}
    {findings : List String} (hcommitted : Committed crossParty correlator)
    (h : checkAck T capsule crossParty clientAck = .ok (ackOk, findings)) :
    ackOk = true ↔ ∃ ack ∈ clientAck, ∃ capsuleId, capsule.item "capsule_id" = .ok capsuleId ∧
      FieldsMatch T ack capsuleId correlator := by
  cases clientAck with
  | none =>
      obtain ⟨rfl, -⟩ := Prod.mk.inj (Except.ok.inj h)
      apply iff_of_false (by simp)
      rintro ⟨ack, hack, -⟩
      cases hack
  | some ack =>
      obtain ⟨found, hfound, h⟩ := Py.bind_eq_ok.mp h
      rw [correlatorOf, hcommitted.truthy, if_pos rfl, hcommitted.correlator] at hfound
      obtain rfl := Except.ok.inj hfound
      obtain ⟨capsuleId, hcapsuleId, h⟩ := Py.bind_eq_ok.mp h
      have hok : (verifyClientAck T ack capsuleId correlator).1 = ackOk :=
        (Prod.mk.inj (Except.ok.inj h)).1
      rw [← hok, verifyClientAck_iff]
      constructor
      · intro hfields
        exact ⟨ack, rfl, capsuleId, hcapsuleId, hfields⟩
      · rintro ⟨other, hother, otherId, hotherId, hfields⟩
        obtain rfl := Option.some.inj hother
        obtain rfl := Except.ok.inj (hcapsuleId.symm.trans hotherId)
        exact hfields

theorem verifyExchange_full_iff {capsule : Json} {clientAck : Option ClientAck} {rung : String}
    {ok : Bool} {findings : List String}
    (h : verifyExchange T capsule clientAck = .ok (rung, ok, findings)) :
    rung = "full_bilateral" ↔
      ∃ check, SuppliedToExchange capsule clientAck check ∧ check.FieldsMatch T := by
  obtain ⟨crossParty, hcross, h⟩ := Py.bind_eq_ok.mp h
  obtain ⟨⟨ackOk, ackFindings⟩, hack, h⟩ := Py.bind_eq_ok.mp h
  obtain ⟨derived, hderived, h⟩ := Py.bind_eq_ok.mp h
  obtain ⟨rfl, -⟩ := Prod.mk.inj (Except.ok.inj h)
  rw [rung_full_iff hderived]
  constructor
  · rintro ⟨hok, correlator, hcommitted⟩
    obtain ⟨ack, hack, capsuleId, hcapsuleId, hfields⟩ := (checkAck_iff hcommitted hack).mp hok
    exact ⟨⟨ack, capsuleId, correlator⟩, ⟨hack, ⟨crossParty, hcross, hcommitted⟩, hcapsuleId⟩, hfields⟩
  · rintro ⟨check, ⟨hsome, ⟨other, hother, hcommitted⟩, hcapsuleId⟩, hfields⟩
    obtain rfl := Except.ok.inj (hcross.symm.trans hother)
    refine ⟨(checkAck_iff hcommitted hack).mpr ?_, check.correlator, hcommitted⟩
    exact ⟨check.ack, hsome, check.capsuleId, hcapsuleId, hfields⟩

theorem checkAckBlock_iff {crossParty correlator : Json} {capsuleId : String} {ackOk : Bool}
    {claim : Option String} (hcommitted : Committed crossParty correlator)
    (h : checkAckBlock T crossParty capsuleId = .ok (ackOk, claim)) :
    ackOk = true ↔ ∃ block ack, crossParty.get "client_ack" = .ok block ∧ block.truthy = true ∧
      clientAckFromEvidence T block = .ok ack ∧ FieldsMatch T ack (.str capsuleId) correlator := by
  obtain ⟨block, hblock, h⟩ := Py.bind_eq_ok.mp h
  have hthis : ∀ {other : Json}, crossParty.get "client_ack" = .ok other → other = block := by
    intro other hother
    exact Except.ok.inj (hother.symm.trans hblock)
  split at h
  next htruthy =>
      split at h
      next e hraises =>
          split at h
          next =>
              obtain ⟨rfl, -⟩ := Prod.mk.inj (Except.ok.inj h)
              apply iff_of_false (by simp)
              rintro ⟨other, ack, hother, -, hack, -⟩
              rw [hthis hother] at hack
              cases hraises.symm.trans hack
          next => cases h
      next ack hack =>
          obtain ⟨found, hfound, h⟩ := Py.bind_eq_ok.mp h
          obtain rfl := Except.ok.inj (hfound.symm.trans hcommitted.correlator)
          have hok : (verifyClientAck T ack (.str capsuleId) found).1 = ackOk :=
            (Prod.mk.inj (Except.ok.inj h)).1
          rw [← hok, verifyClientAck_iff]
          constructor
          · intro hfields
            exact ⟨block, ack, hblock, htruthy, hack, hfields⟩
          · rintro ⟨other, otherAck, hother, -, hotherAck, hfields⟩
            rw [hthis hother] at hotherAck
            obtain rfl := Except.ok.inj (hack.symm.trans hotherAck)
            exact hfields
  next htruthy =>
      have hfalse : ackOk = false := by
        obtain ⟨claimed, -, h⟩ := Py.bind_eq_ok.mp h
        split at h
        next => exact (Prod.mk.inj (Except.ok.inj h)).1.symm
        next => exact (Prod.mk.inj (Except.ok.inj h)).1.symm
      rw [hfalse]
      apply iff_of_false (by simp)
      rintro ⟨other, ack, hother, hother', -⟩
      rw [hthis hother] at hother'
      exact htruthy hother'

theorem crossPartyGrade_full_iff {poc : Json} {capsuleId : Option String} {grade : CrossPartyGrade}
    (h : crossPartyGrade T poc capsuleId = .ok grade) :
    grade.rung = "full_bilateral" ↔
      ∃ check, SuppliedToGrade T poc capsuleId check ∧ check.FieldsMatch T := by
  obtain ⟨crossParty, hcross, h⟩ := Py.bind_eq_ok.mp h
  obtain ⟨⟨ackOk, claim⟩, hack, h⟩ := Py.bind_eq_ok.mp h
  obtain ⟨derived, hderived, h⟩ := Py.bind_eq_ok.mp h
  obtain rfl := Except.ok.inj h
  change derived = _ ↔ _
  rw [rung_full_iff hderived]
  have hchecked : ∀ {correlator : Json}, Committed crossParty correlator →
      checkAckBlock T crossParty (capsuleId.getD "") = .ok (ackOk, claim) := by
    intro correlator hcommitted
    rwa [hcommitted.truthy, if_pos rfl] at hack
  constructor
  · rintro ⟨hok, correlator, hcommitted⟩
    obtain ⟨block, ack, hblock, htruthy, hread, hfields⟩ :=
      (checkAckBlock_iff hcommitted (hchecked hcommitted)).mp hok
    exact ⟨⟨ack, .str (capsuleId.getD ""), correlator⟩,
      ⟨⟨crossParty, block, hcross, hcommitted, hblock, htruthy, hread⟩, rfl⟩, hfields⟩
  · rintro ⟨⟨ack, id, correlator⟩, ⟨⟨other, block, hother, hcommitted, hblock, htruthy, hread⟩, hid⟩,
      hfields⟩
    obtain rfl := Except.ok.inj (hcross.symm.trans hother)
    obtain rfl := hid
    refine ⟨(checkAckBlock_iff hcommitted (hchecked hcommitted)).mpr ?_, correlator, hcommitted⟩
    exact ⟨block, ack, hblock, htruthy, hread, hfields⟩

end

/-! ## Acknowledgements that were changed -/

section

variable {T : AckTools} {floatRepr : String → String}

/-- Both functions give the full rung only on what the signed bytes state, unless the fields of the one
acknowledgement they check are detached from them. -/
theorem fullBilateral_stated_iff (T : AckTools) (floatRepr : String → String) :
    (∀ capsule clientAck rung ok findings,
      verifyExchange T capsule clientAck = .ok (rung, ok, findings) →
        ((rung = "full_bilateral" →
          ∃ check, SuppliedToExchange capsule clientAck check ∧ check.States floatRepr) ↔
        ¬∃ check, SuppliedToExchange capsule clientAck check ∧ check.Detached T floatRepr)) ∧
    ∀ poc capsuleId grade, crossPartyGrade T poc capsuleId = .ok grade →
      ((grade.rung = "full_bilateral" →
        ∃ check, SuppliedToGrade T poc capsuleId check ∧ check.States floatRepr) ↔
      ¬∃ check, SuppliedToGrade T poc capsuleId check ∧ check.Detached T floatRepr) := by
  constructor
  · intro capsule clientAck rung ok findings h
    apply full_stated_iff (verifyExchange_full_iff h)
    intro a b
    exact SuppliedToExchange.unique
  · intro poc capsuleId grade h
    apply full_stated_iff (crossPartyGrade_full_iff h)
    intro a b
    exact SuppliedToGrade.unique

end

/-- A key whose one signature is over the two bytes `hi`. -/
def hiTools : AckTools where
  verify pem signature message :=
    if pem = [112, 101, 109] ∧ signature = [1] ∧ message = [104, 105] then .verified
    else .invalidSignature
  urlsafeB64decode text :=
    if text = "aGk==" then .ok [104, 105]
    else if text = "AQ==" then .ok [1]
    else if text = "cGVt==" then .ok [112, 101, 109]
    else .error (.valueError "Incorrect padding")
  verifyCapsule _ := ⟨true, []⟩
  excText _ := ""

def hiBlock : Json :=
  .obj [("action_capsule_id", .str "A"), ("request_nonce", .str "n1"), ("ack_bytes_b64", .str "aGk"),
    ("sig_b64", .str "AQ"), ("public_key_pem_b64", .str "cGVt")]

def hiPoc : Json :=
  .obj [("cross_party", .obj [("initiator_ref", .str "r"), ("correlator", .str "n1"),
    ("client_ack", hiBlock)])]

def hiCapsule : Json :=
  .obj [("capsule_id", .str "A"), ("model_attestation", .obj [("compute_attestation", .obj
    [("x-mesh-poc-v1", hiPoc)])])]

def hiAck : ClientAck := ⟨.str "A", .str "n1", .str "", [104, 105], [1], [112, 101, 109]⟩

/-- A signature over unrelated bytes gives the full rung. -/
theorem unrelated_bytes_full :
    (∃ ok findings, verifyExchange hiTools hiCapsule (some hiAck) =
        .ok ("full_bilateral", ok, findings)) ∧
      (∃ grade, crossPartyGrade hiTools hiPoc (some "A") = .ok grade ∧ grade.rung = "full_bilateral") ∧
        ¬States id [104, 105] (.str "A") (.str "n1") := by
  refine ⟨⟨_, _, rfl⟩, ⟨_, rfl, rfl⟩, ?_⟩
  rintro ⟨members, hread, -⟩
  have hnone : decodeUtf8 [104, 105] >>= loads id = .error (.valueError "Expecting value") := rfl
  cases hread.symm.trans hnone

end CapsuleMesh.CrossParty
