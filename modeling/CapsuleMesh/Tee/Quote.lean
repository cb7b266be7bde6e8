import CapsuleMesh.Library.ByteFields

/-!
# TDX quotes

The parser of TD quotes, version 4. An access to a slice that is out of range, or a slice of the
wrong length where the code expects another, is a `panic`.
-/

namespace CapsuleMesh.Tee

open Library

abbrev Bytes := List UInt8

abbrev ByteArr (n : ℕ) := List.Vector UInt8 n

def HEADER_LEN : ℕ := 48
def BODY_LEN : ℕ := 584
def EC_SIG_LEN : ℕ := 64
def EC_PUBKEY_LEN : ℕ := 64
def QE_REPORT_LEN : ℕ := 384

inductive TeeQuoteError
  | tooShort (need got : ℕ)
  | unsupportedVersion (version : UInt16)
  | unsupportedTeeType (teeType : UInt32)
  | truncatedSignatureData (what : String)
  | unsupportedCertDataType (certDataType : UInt16)
  | certDataNotUtf8
  deriving DecidableEq

/-- How a call ends that returns no value. -/
inductive Failure
  | error (e : TeeQuoteError)
  | panic
  deriving DecidableEq

abbrev Parsed := Except Failure

def reject {α : Type} (e : TeeQuoteError) : Parsed α := .error (.error e)

@[simp] theorem ok_bind {α β : Type} (a : α) (f : α → Parsed β) :
    (.ok a : Parsed α) >>= f = f a := rfl

structure TdQuoteHeader where
  version : UInt16
  attestationKeyType : UInt16
  teeType : UInt32
  qeVendorId : ByteArr 16
  userData : ByteArr 20
  deriving DecidableEq

structure TdQuoteBody where
  teeTcbSvn : ByteArr 16
  mrseam : ByteArr 48
  mrsignerseam : ByteArr 48
  seamAttributes : UInt64
  tdAttributes : UInt64
  xfam : UInt64
  mrtd : ByteArr 48
  mrconfigid : ByteArr 48
  mrowner : ByteArr 48
  mrownerconfig : ByteArr 48
  rtmr : List.Vector (ByteArr 48) 4
  reportData : ByteArr 64
  deriving DecidableEq

structure QeCertData where
  certDataType : UInt16
  pemChain : Bytes
  deriving DecidableEq

structure QuoteSignatureData where
  signature : ByteArr EC_SIG_LEN
  attestPubKey : ByteArr EC_PUBKEY_LEN
  qeReport : ByteArr QE_REPORT_LEN
  qeReportSig : ByteArr EC_SIG_LEN
  qeAuthData : Bytes
  certData : QeCertData
  deriving DecidableEq

structure TdQuoteV4 where
  header : TdQuoteHeader
  body : TdQuoteBody
  signatureData : QuoteSignatureData
  raw : Bytes
  deriving DecidableEq

/-- `b[lo..hi]`. -/
def slice (b : Bytes) (lo hi : ℕ) : Parsed Bytes :=
  if lo ≤ hi ∧ hi ≤ b.length then .ok ((b.drop lo).take (hi - lo)) else .error .panic

/-- `b[i]`. -/
def byteAt (b : Bytes) (i : ℕ) : Parsed UInt8 :=
  match b[i]? with
  | some x => .ok x
  | none => .error .panic

def arr (n : ℕ) (b : Bytes) : Parsed (ByteArr n) :=
  if h : b.length = n then .ok ⟨b, h⟩ else .error .panic

def u16Le (b : Bytes) : Parsed UInt16 := do
  return UInt16.ofNat (leNat [← byteAt b 0, ← byteAt b 1])

def u32Le (b : Bytes) : Parsed UInt32 := do
  return UInt32.ofNat (leNat [← byteAt b 0, ← byteAt b 1, ← byteAt b 2, ← byteAt b 3])

def u64Le (b : Bytes) : Parsed UInt64 := do
  return UInt64.ofNat (leNat (← arr 8 b).toList)

def TdQuoteV4.signedBytes (q : TdQuoteV4) : Parsed Bytes := slice q.raw 0 (HEADER_LEN + BODY_LEN)

def parseHeader (b : Bytes) : Parsed TdQuoteHeader := do
  let version ← u16Le (← slice b 0 2)
  if version ≠ 4 then
    reject (.unsupportedVersion version)
  else
    let attestationKeyType ← u16Le (← slice b 2 4)
    let teeType ← u32Le (← slice b 4 8)
    if teeType ≠ 0x81 then
      reject (.unsupportedTeeType teeType)
    else
      -- the bytes from 8 to 12 are reserved
      let qeVendorId ← arr 16 (← slice b 12 28)
      let userData ← arr 20 (← slice b 28 48)
      return { version, attestationKeyType, teeType, qeVendorId, userData }

/-- The next `n` bytes, and the offset behind them. -/
def take (b : Bytes) (off n : ℕ) : Parsed (Bytes × ℕ) := do
  return (← slice b off (off + n), off + n)

/-- The loop over the slots of the runtime registers. -/
def takeSlots (b : Bytes) : (count off : ℕ) → Parsed (List.Vector (ByteArr 48) count × ℕ)
  | 0, off => return (.nil, off)
  | count + 1, off => do
      let (s, off) ← take b off 48
      let slot ← arr 48 s
      let (slots, off) ← takeSlots b count off
      return (slot ::ᵥ slots, off)

def parseBody (b : Bytes) : Parsed TdQuoteBody := do
  let (s, off) ← take b 0 16
  let teeTcbSvn ← arr 16 s
  let (s, off) ← take b off 48
  let mrseam ← arr 48 s
  let (s, off) ← take b off 48
  let mrsignerseam ← arr 48 s
  let (s, off) ← take b off 8
  let seamAttributes ← u64Le s
  let (s, off) ← take b off 8
  let tdAttributes ← u64Le s
  let (s, off) ← take b off 8
  let xfam ← u64Le s
  let (s, off) ← take b off 48
  let mrtd ← arr 48 s
  let (s, off) ← take b off 48
  let mrconfigid ← arr 48 s
  let (s, off) ← take b off 48
  let mrowner ← arr 48 s
  let (s, off) ← take b off 48
  let mrownerconfig ← arr 48 s
  let (rtmr, off) ← takeSlots b 4 off
  let (s, off) ← take b off 64
  let reportData ← arr 64 s
  -- the assertion of a debug build
  if off ≠ BODY_LEN then
    .error .panic
  else
    return { teeTcbSvn, mrseam, mrsignerseam, seamAttributes, tdAttributes, xfam, mrtd,
             mrconfigid, mrowner, mrownerconfig, rtmr, reportData }

/-- `false` where `std::str::from_utf8` fails. -/
def isUtf8 (b : Bytes) : Bool := (ByteArray.mk b.toArray).validateUTF8

/-- The size of the fixed fields of the signature section. -/
def minFixed : ℕ := EC_SIG_LEN + EC_PUBKEY_LEN + QE_REPORT_LEN + EC_SIG_LEN + 2

/-- The authentication and certification data, from the offset behind the fixed fields on. -/
def parseAuthAndCert (signature : ByteArr EC_SIG_LEN) (attestPubKey : ByteArr EC_PUBKEY_LEN)
    (qeReport : ByteArr QE_REPORT_LEN) (qeReportSig : ByteArr EC_SIG_LEN)
    (qeAuthDataSize : UInt16) (section_ : Bytes) (off : ℕ) : Parsed QuoteSignatureData :=
  if section_.length < off + qeAuthDataSize.toNat + 6 then
    reject (.truncatedSignatureData "qe_auth_data")
  else do
    let (qeAuthData, off) ← take section_ off qeAuthDataSize.toNat
    let (s, off) ← take section_ off 2
    let certDataType ← u16Le s
    let (s, off) ← take section_ off 4
    let certDataSize ← u32Le s
    if section_.length < off + certDataSize.toNat then
      reject (.truncatedSignatureData "cert_data")
    else if certDataType ≠ 5 then
      reject (.unsupportedCertDataType certDataType)
    else
      let (pemChain, _) ← take section_ off certDataSize.toNat
      if isUtf8 pemChain then
        return { signature, attestPubKey, qeReport, qeReportSig, qeAuthData,
                 certData := { certDataType, pemChain } }
      else
        reject .certDataNotUtf8

/-- The section that the length prefix declares. -/
def parseSection (section_ : Bytes) : Parsed QuoteSignatureData :=
  if section_.length < minFixed then
    reject (.truncatedSignatureData "fixed-size fields")
  else do
    let (s, off) ← take section_ 0 EC_SIG_LEN
    let signature ← arr EC_SIG_LEN s
    let (s, off) ← take section_ off EC_PUBKEY_LEN
    let attestPubKey ← arr EC_PUBKEY_LEN s
    let (s, off) ← take section_ off QE_REPORT_LEN
    let qeReport ← arr QE_REPORT_LEN s
    let (s, off) ← take section_ off EC_SIG_LEN
    let qeReportSig ← arr EC_SIG_LEN s
    let (s, off) ← take section_ off 2
    let qeAuthDataSize ← u16Le s
    parseAuthAndCert signature attestPubKey qeReport qeReportSig qeAuthDataSize section_ off

def parseSignatureData (b : Bytes) : Parsed QuoteSignatureData := do
  if b.length < 4 then
    reject (.truncatedSignatureData "missing length prefix")
  else
    let declaredLen ← u32Le (← slice b 0 4)
    let section_ ← slice b 4 b.length
    if section_.length < declaredLen.toNat then
      reject (.truncatedSignatureData "section shorter than declared length")
    else
      parseSection (← slice section_ 0 declaredLen.toNat)

def TdQuoteV4.parse (bytes : Bytes) : Parsed TdQuoteV4 := do
  if bytes.length < HEADER_LEN + BODY_LEN then
    reject (.tooShort (HEADER_LEN + BODY_LEN) bytes.length)
  else
    let header ← parseHeader (← slice bytes 0 HEADER_LEN)
    let body ← parseBody (← slice bytes HEADER_LEN (HEADER_LEN + BODY_LEN))
    let signatureData ← parseSignatureData (← slice bytes (HEADER_LEN + BODY_LEN) bytes.length)
    return { header, body, signatureData, raw := bytes }

end CapsuleMesh.Tee
