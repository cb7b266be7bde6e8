import CapsuleMesh.Plugin.PeerRoots

/-!
# Attestations of the running binary

`signed_message`, `build_attestation` and `verify_signature` of `runtime_attest.rs`.  One signature
covers the digest of the binary and the kernel's hash of it, joined with a colon, and neither is
looked at for its form.
-/

namespace CapsuleMesh.Plugin.RuntimeAttest

open Python

inductive MeasurementClass where
  | selfMeasured
  | osMeasured
  | teeMeasured
deriving DecidableEq

structure KernelAttestation where
  cdhash : String
  cdhashSource : String
  kernelValid : Bool
  kernelSigned : Bool
  platformBinary : Bool
  adHocSignature : Bool
  signingAuthority : String
  sipEnabled : Bool
deriving DecidableEq

structure BinaryAttestation where
  measurementClass : MeasurementClass
  binaryPath : String
  binarySha256 : String
  binarySizeBytes : UInt64
  signatureAlgorithm : String
  signature : String
  signerKeyId : String
  kernelSigning : Option KernelAttestation
  measuredAt : String

/-- A key pair of `ed25519_dalek`, with `verify(message, signature).is_ok()` under its own key, and
`hex`. -/
structure KeyPair where
  hex : HexCrate
  sign : (message : Bytes) → Bytes
  length_sign : ∀ message, (sign message).length = 64
  verifies : (message signature : Bytes) → Bool
  keyId : String

def signedMessage (binarySha256 : String) : Option KernelAttestation → String
  | some k => binarySha256 ++ ":" ++ k.cdhash
  | none => binarySha256

/-- Verification under a key that is given by what it verifies. -/
def BinaryAttestation.verifySignature (hex : HexCrate) (attestation : BinaryAttestation)
    (verifies : (message signature : Bytes) → Bool) : Bool :=
  (do
    let sigArr ← sized 64 (← hex.decode attestation.signature)
    let message := signedMessage attestation.binarySha256 attestation.kernelSigning
    return verifies (utf8 message) sigArr).getD false

def buildAttestation (keys : KeyPair) (measurementClass : MeasurementClass) (path : String)
    (binarySha256 : String) (binarySizeBytes : UInt64) (kernelSigning : Option KernelAttestation)
    (measuredAt : String) : BinaryAttestation where
  measurementClass := measurementClass
  binaryPath := path
  binarySha256 := binarySha256
  binarySizeBytes := binarySizeBytes
  signatureAlgorithm := "ed25519"
  signature := keys.hex.encode (keys.sign (utf8 (signedMessage binarySha256 kernelSigning)))
  signerKeyId := keys.keyId
  kernelSigning := kernelSigning
  measuredAt := measuredAt

/-! ## What the signature covers -/

/-- The cdhash that an attestation states, if it states one. -/
def BinaryAttestation.cdhash (attestation : BinaryAttestation) : Option String :=
  attestation.kernelSigning.map KernelAttestation.cdhash

/-- The two attestations state different measurements. -/
def DifferentMeasurements (a b : BinaryAttestation) : Prop :=
  a.binarySha256 ≠ b.binarySha256 ∨ a.cdhash ≠ b.cdhash

/-- One value has taken in a part of the other, with the colon between them. -/
def CarriedOver (a b : BinaryAttestation) : Prop :=
  match a.cdhash, b.cdhash with
  | none, none => False
  | none, some cdhash => a.binarySha256 = b.binarySha256 ++ ":" ++ cdhash
  | some cdhash, none => b.binarySha256 = a.binarySha256 ++ ":" ++ cdhash
  | some cdhash, some cdhash' => ∃ moved,
      (b.binarySha256 = a.binarySha256 ++ ":" ++ moved ∧ cdhash = moved ++ ":" ++ cdhash') ∨
        a.binarySha256 = b.binarySha256 ++ ":" ++ moved ∧ cdhash' = moved ++ ":" ++ cdhash

theorem toList_joined (left right : String) :
    (left ++ ":" ++ right).toList = left.toList ++ ':' :: right.toList := by
  rw [String.toList_append, String.toList_append, List.append_assoc]
  rfl

theorem joined_eq_iff (left right left' right' : String) :
    left ++ ":" ++ right = left' ++ ":" ++ right' ↔
      left = left' ∧ right = right' ∨ ∃ moved,
        (left' = left ++ ":" ++ moved ∧ right = moved ++ ":" ++ right') ∨
          left = left' ++ ":" ++ moved ∧ right' = moved ++ ":" ++ right := by
  have hlonger : ∀ {left right left' right' : String} {rest : List Char},
      left'.toList = left.toList ++ rest → ':' :: right.toList = rest ++ ':' :: right'.toList →
        left = left' ∧ right = right' ∨
          ∃ moved, left' = left ++ ":" ++ moved ∧ right = moved ++ ":" ++ right' := by
    intro left right left' right' rest hleft hright
    cases rest with
    | nil =>
        rw [List.append_nil] at hleft
        exact .inl ⟨(String.toList_inj.mp hleft).symm,
          String.toList_inj.mp (List.cons.inj hright).2⟩
    | cons c rest =>
        obtain ⟨rfl, htail⟩ := List.cons.inj hright
        rw [List.append_eq] at htail
        refine .inr ⟨String.ofList rest, ?_, ?_⟩
        · apply String.toList_inj.mp
          rw [hleft, toList_joined, String.toList_ofList]
        · apply String.toList_inj.mp
          rw [htail, toList_joined, String.toList_ofList]
  constructor
  · intro h
    have hlist := congrArg String.toList h
    rw [toList_joined, toList_joined, List.append_eq_append_iff] at hlist
    obtain ⟨rest, hleft, hright⟩ | ⟨rest, hleft, hright⟩ := hlist
    · exact (hlonger hleft hright).imp_right fun ⟨moved, hmoved⟩ => ⟨moved, .inl hmoved⟩
    · obtain ⟨hleft, hright⟩ | ⟨moved, hmoved⟩ := hlonger hleft hright
      · exact .inl ⟨hleft.symm, hright.symm⟩
      · exact .inr ⟨moved, .inr hmoved⟩
  · rintro (⟨rfl, rfl⟩ | ⟨moved, ⟨rfl, rfl⟩ | ⟨rfl, rfl⟩⟩)
    · rfl
    · simp [String.append_assoc]
    · simp [String.append_assoc]

/-- Different measurements have one signed message exactly when one was carried over. -/
theorem signedMessage_eq_iff {a b : BinaryAttestation} (h : DifferentMeasurements a b) :
    signedMessage a.binarySha256 a.kernelSigning = signedMessage b.binarySha256 b.kernelSigning ↔
      CarriedOver a b := by
  rw [DifferentMeasurements] at h
  rw [CarriedOver]
  unfold BinaryAttestation.cdhash at h ⊢
  cases ha : a.kernelSigning with
  | none =>
      cases hb : b.kernelSigning with
      | none =>
        rw [ha, hb] at h
        simpa [signedMessage] using h
      | some k => rfl
  | some k =>
      cases hb : b.kernelSigning with
      | none => exact eq_comm
      | some k' =>
        rw [ha, hb] at h
        have hne : ¬ (a.binarySha256 = b.binarySha256 ∧ k.cdhash = k'.cdhash) := by
          rintro ⟨hsha, hcdhash⟩
          obtain h | h := h
          · exact h hsha
          · exact h (congrArg some hcdhash)
        simp only [signedMessage, Option.map_some]
        rw [joined_eq_iff, or_iff_right hne]

/-- A signature that was made by the keys is read back as it was made. -/
theorem verifySignature_eq (keys : KeyPair) {attestation : BinaryAttestation} {message : Bytes}
    (hsignature : attestation.signature = keys.hex.encode (keys.sign message)) :
    attestation.verifySignature keys.hex keys.verifies = keys.verifies
      (utf8 (signedMessage attestation.binarySha256 attestation.kernelSigning))
      (keys.sign message) := by
  rw [BinaryAttestation.verifySignature, hsignature, keys.hex.decode_encode]
  simp only [Option.bind_eq_bind, Option.bind_some, sized, keys.length_sign, if_true]
  rfl

/-- An attestation with other measurements and the same signature is refused, unless a part of one
value was carried over the colon into the other. -/
theorem changed_measurement_refused_iff (keys : KeyPair) (measurementClass : MeasurementClass)
    (path binarySha256 : String) (binarySizeBytes : UInt64)
    (kernelSigning : Option KernelAttestation) (measuredAt : String)
    (hideal : ∀ message,
      keys.verifies message (keys.sign (utf8 (signedMessage binarySha256 kernelSigning))) = true ↔
        message = utf8 (signedMessage binarySha256 kernelSigning))
    (changed : BinaryAttestation)
    (hsignature : changed.signature = (buildAttestation keys measurementClass path binarySha256
      binarySizeBytes kernelSigning measuredAt).signature)
    (hdiffers : DifferentMeasurements (buildAttestation keys measurementClass path binarySha256
      binarySizeBytes kernelSigning measuredAt) changed) :
    changed.verifySignature keys.hex keys.verifies = false ↔
      ¬ CarriedOver (buildAttestation keys measurementClass path binarySha256 binarySizeBytes
        kernelSigning measuredAt) changed := by
  rw [verifySignature_eq keys hsignature, ← Bool.not_eq_true, hideal, ← signedMessage_eq_iff hdiffers]
  apply not_congr
  constructor
  · intro h
    exact (utf8_injective h).symm
  · intro h
    exact congrArg utf8 h.symm

/-! ## One attestation and two changes of it -/

def kernelBB : KernelAttestation where
  cdhash := "bb"
  cdhashSource := "csops"
  kernelValid := true
  kernelSigned := true
  platformBinary := false
  adHocSignature := true
  signingAuthority := ""
  sipEnabled := true

/-- A key that has signed the one message `aa:bb`. -/
def keysOfOneMessage : KeyPair where
  hex := plainHex
  sign := fun _ => List.replicate 64 7
  length_sign := fun _ => rfl
  verifies := fun message signature =>
    decide (message = utf8 "aa:bb") && decide (signature = List.replicate 64 7)
  keyId := "0011223344556677"

theorem keysOfOneMessage_verifies (message : Bytes) :
    keysOfOneMessage.verifies message (keysOfOneMessage.sign
      (utf8 (signedMessage "aa" (some kernelBB)))) = true ↔
        message = utf8 (signedMessage "aa" (some kernelBB)) := by
  have hsignature : keysOfOneMessage.verifies message (List.replicate 64 7) =
      decide (message = utf8 "aa:bb") := by
    apply Bool.and_true
  apply Iff.trans (Bool.eq_iff_iff.mp hsignature)
  apply decide_eq_true_iff

def attestedBB : BinaryAttestation :=
  buildAttestation keysOfOneMessage .osMeasured "/usr/bin/node" "aa" 4096 (some kernelBB)
    "2026-01-01T00:00:00Z"

/-- The kernel's hash is dropped and the colon with it goes into the digest. -/
def movedBB : BinaryAttestation :=
  { attestedBB with binarySha256 := "aa:bb", kernelSigning := none }

theorem moved_cdhash_verifies :
    movedBB.signature = attestedBB.signature ∧ DifferentMeasurements attestedBB movedBB ∧
      movedBB.verifySignature plainHex keysOfOneMessage.verifies = true := by
  refine ⟨rfl, ?_, ?_⟩
  · left
    decide
  · have hsignature : movedBB.signature =
        plainHex.encode (keysOfOneMessage.sign (utf8 (signedMessage "aa" (some kernelBB)))) := rfl
    refine (verifySignature_eq keysOfOneMessage hsignature).trans ?_
    apply (keysOfOneMessage_verifies _).mpr
    rfl

/-- Dropping the kernel's hash alone is refused. -/
theorem dropped_cdhash_refused :
    ({ attestedBB with kernelSigning := none } : BinaryAttestation).verifySignature
      plainHex keysOfOneMessage.verifies = false := by
  apply (changed_measurement_refused_iff keysOfOneMessage .osMeasured "/usr/bin/node" "aa" 4096
    (some kernelBB) "2026-01-01T00:00:00Z" keysOfOneMessage_verifies
    { attestedBB with kernelSigning := none } rfl ?_).mpr
  · intro (h : "aa" = "aa" ++ ":" ++ "bb")
    revert h
    decide
  · right
    decide

end CapsuleMesh.Plugin.RuntimeAttest
