import CapsuleMesh.Tee.Acceptance

/-!
# The binding of a quote to an exchange

The report data of a quote is a hash of the capsule digest and the nonce, one behind the other.
Where the digest ends is not hashed.
-/

namespace CapsuleMesh.Tee

open Library

def TEE_BINDING_DOMAIN_TAG : Bytes := "capsule-emit-mesh/tee-binding/v1".toUTF8.toList

inductive TeeVerifyError
  | bindingMismatch
  deriving DecidableEq

section

variable (sha512 : Bytes → ByteArr 64)

/-- `sha512` is the hash of the `sha2` crate, fed with the tag, the digest and the nonce. -/
def teeBindingReportData (capsuleDigest nonce : Bytes) : ByteArr 64 :=
  sha512 (TEE_BINDING_DOMAIN_TAG ++ capsuleDigest ++ nonce)

def verifyBinding (quote : TdQuoteV4) (capsuleDigest nonce : Bytes) : Except TeeVerifyError Unit :=
  let expected := teeBindingReportData sha512 capsuleDigest nonce
  let diff := (expected.toList.zip quote.body.reportData.toList).foldl
    (fun diff ab => diff ||| (ab.1 ^^^ ab.2)) (0 : UInt8)
  if diff = 0 then .ok () else .error .bindingMismatch

end

/-- The differences of two strings are collected bit by bit. -/
theorem foldl_diff_eq_zero (a b : Bytes) (diff : UInt8) (hlength : a.length = b.length) :
    (a.zip b).foldl (fun diff ab => diff ||| (ab.1 ^^^ ab.2)) diff = 0 ↔ diff = 0 ∧ a = b := by
  induction a generalizing b diff with
  | nil =>
      obtain rfl := List.length_eq_zero_iff.mp hlength.symm
      simp
  | cons x a ih =>
      cases b with
      | nil => cases hlength
      | cons y b =>
        rw [List.zip_cons_cons, List.foldl_cons, ih b _ (Nat.succ.inj hlength),
          UInt8.or_eq_zero_iff, UInt8.xor_eq_zero_iff, List.cons.injEq, and_assoc]

section

variable {sha512 : Bytes → ByteArr 64} {quote : TdQuoteV4} {d n d' n' : Bytes}

theorem verifyBinding_ok_iff :
    verifyBinding sha512 quote d n = .ok () ↔
      quote.body.reportData = teeBindingReportData sha512 d n := by
  have hlength : (teeBindingReportData sha512 d n).toList.length =
      quote.body.reportData.toList.length := by
    rw [List.Vector.toList_length, List.Vector.toList_length]
  have hdiff := foldl_diff_eq_zero _ _ 0 hlength
  rw [verifyBinding]
  constructor
  · intro h
    split_ifs at h with hzero
    exact (List.Vector.toList_injective (hdiff.mp hzero).2).symm
  · intro h
    apply if_pos
    exact hdiff.mpr ⟨rfl, congrArg _ h.symm⟩

/-- Only the joined text of the digest and the nonce counts. -/
theorem verifyBinding_congr (happend : d ++ n = d' ++ n') :
    verifyBinding sha512 quote d n = verifyBinding sha512 quote d' n' := by
  rw [verifyBinding, verifyBinding, teeBindingReportData, teeBindingReportData, List.append_assoc,
    List.append_assoc, happend]

/-- One quote accepted for both exchanges means that their hashed texts agree. -/
theorem append_eq_of_accepted
    (hcollision : sha512 (TEE_BINDING_DOMAIN_TAG ++ d ++ n) =
      sha512 (TEE_BINDING_DOMAIN_TAG ++ d' ++ n') →
        TEE_BINDING_DOMAIN_TAG ++ d ++ n = TEE_BINDING_DOMAIN_TAG ++ d' ++ n')
    (h : verifyBinding sha512 quote d n = .ok ())
    (h' : verifyBinding sha512 quote d' n' = .ok ()) : d ++ n = d' ++ n' := by
  have hhash := (verifyBinding_ok_iff.mp h).symm.trans (verifyBinding_ok_iff.mp h')
  have htext := hcollision hhash
  rw [List.append_assoc, List.append_assoc] at htext
  exact List.append_cancel_left htext

end

/-- A quote of zeros, with given report data. -/
def blankQuote (reportData : ByteArr 64) : QuoteValue where
  header := ⟨4, 2, 0x81, .replicate 16 0, .replicate 20 0⟩
  body := ⟨.replicate 16 0, .replicate 48 0, .replicate 48 0, 0, 0, 0, .replicate 48 0,
    .replicate 48 0, .replicate 48 0, .replicate 48 0, .replicate 4 (.replicate 48 0), reportData⟩
  signatureData := ⟨.replicate 64 0, .replicate 64 0, .replicate 384 0, .replicate 64 0, [], 5, []⟩
  version_eq := rfl
  teeType_eq := rfl
  certDataType_eq := rfl
  auth_lt := by decide
  utf8 := by decide

/-- Some quote carries the report data of a given exchange. -/
theorem exists_quote (sha512 : Bytes → ByteArr 64) (d n : Bytes) :
    ∃ bytes quote, TdQuoteV4.parse bytes = .ok quote ∧ verifyBinding sha512 quote d n = .ok () := by
  have hfits : (blankQuote (teeBindingReportData sha512 d n)).sectionLength + 0 < 2 ^ 32 := by
    change (584 : ℕ) < 2 ^ 32
    decide
  have hparse := (blankQuote (teeBindingReportData sha512 d n)).parse_encode (.replicate 4 0) []
    hfits
  exact ⟨_, _, hparse, verifyBinding_ok_iff.mpr rfl⟩

/-- The report data of a quote binds at most one of two exchanges, unless their digests and nonces
are one text that is cut at different places. -/
theorem bindsOne_iff (sha512 : Bytes → ByteArr 64) (d n d' n' : Bytes)
    (hcollision : sha512 (TEE_BINDING_DOMAIN_TAG ++ d ++ n) =
      sha512 (TEE_BINDING_DOMAIN_TAG ++ d' ++ n') →
        TEE_BINDING_DOMAIN_TAG ++ d ++ n = TEE_BINDING_DOMAIN_TAG ++ d' ++ n') :
    (∀ bytes quote, TdQuoteV4.parse bytes = .ok quote →
      verifyBinding sha512 quote d n = .ok () → verifyBinding sha512 quote d' n' = .ok () →
        (d, n) = (d', n')) ↔
      (d ++ n = d' ++ n' → d.length = d'.length) := by
  constructor
  · intro h happend
    obtain ⟨bytes, quote, hparse, haccepted⟩ := exists_quote sha512 d n
    have haccepted' : verifyBinding sha512 quote d' n' = .ok () := by
      rw [← verifyBinding_congr happend]
      exact haccepted
    have hpair := h bytes quote hparse haccepted haccepted'
    exact congrArg (fun pair => pair.1.length) hpair
  · intro hlength bytes quote _ haccepted haccepted'
    have happend := append_eq_of_accepted hcollision haccepted haccepted'
    obtain ⟨hd, hn⟩ := List.append_inj happend (hlength happend)
    rw [hd, hn]

/-- SHA-512 of the tag with the texts `abc` and `abcd`. -/
def sampleSha512 (b : Bytes) : ByteArr 64 :=
  if b = TEE_BINDING_DOMAIN_TAG ++ [0x61, 0x62, 0x63] then
    ⟨(leBytes 32 0xfa4169ded608449f077ae7633b5349b82859c99756cb5526f136f7bd657f3ac7).reverse ++
      (leBytes 32 0x3d2cd306dbfd066864c14d16955287636f8686691fd4b760ca981e4c75dc1bc5).reverse,
      by simp⟩
  else
    ⟨(leBytes 32 0x8f98dc9db6278168ef3204db706d7b755b14413101cc3c7d90a73bb4f032c6fb).reverse ++
      (leBytes 32 0x9e982f574d0fabf0e00e9b2e4a0bc985f40f831c35a31da2f49aa5ac1b23ee0b).reverse,
      by simp⟩

theorem bindsOne_abc_abcd :
    (∀ bytes quote, TdQuoteV4.parse bytes = .ok quote →
      verifyBinding sampleSha512 quote [0x61, 0x62] [0x63] = .ok () →
      verifyBinding sampleSha512 quote [0x61, 0x62] [0x63, 0x64] = .ok () →
        ([0x61, 0x62], [0x63]) = (([0x61, 0x62], [0x63, 0x64]) : Bytes × Bytes)) ↔
      ([0x61, 0x62] ++ [0x63] = ([0x61, 0x62] ++ [0x63, 0x64] : Bytes) → 2 = 2) :=
  bindsOne_iff sampleSha512 [0x61, 0x62] [0x63] [0x61, 0x62] [0x63, 0x64] (by decide +kernel)

/-- One quote is accepted for the digest `ab` with the nonce `c`, and for `a` with `bc`. -/
theorem quote_binds_two :
    ∃ bytes quote, TdQuoteV4.parse bytes = .ok quote ∧
      verifyBinding sampleSha512 quote [0x61, 0x62] [0x63] = .ok () ∧
      verifyBinding sampleSha512 quote [0x61] [0x62, 0x63] = .ok () := by
  obtain ⟨bytes, quote, hparse, haccepted⟩ := exists_quote sampleSha512 [0x61, 0x62] [0x63]
  refine ⟨bytes, quote, hparse, haccepted, ?_⟩
  rw [verifyBinding_congr (show [0x61] ++ [0x62, 0x63] = ([0x61, 0x62] ++ [0x63] : Bytes) from rfl)]
  exact haccepted

end CapsuleMesh.Tee
