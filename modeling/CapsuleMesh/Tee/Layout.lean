import CapsuleMesh.Tee.Quote

/-!
# The layout of a quote

What each part of the parser does on a byte string that is laid out field by field. A byte string
of the right length always is, so the parser never leaves its range.
-/

namespace CapsuleMesh.Tee

open Library

section

variable {b field rest : Bytes} {off n hi : ℕ}

theorem slice_eq (h : ReadsAt b off (field ++ rest)) (hn : field.length = n) (hhi : hi = off + n) :
    slice b off hi = .ok field := by
  have hlength := h.length_eq
  rw [List.length_append, hn] at hlength
  have hfield := h.take hn
  rw [slice, if_pos ⟨by omega, by omega⟩, hhi, Nat.add_sub_cancel_left, hfield]

theorem take_eq (h : ReadsAt b off (field ++ rest)) (hn : field.length = n) :
    take b off n = .ok (field, off + n) := by
  rw [take, slice_eq h hn rfl]
  rfl

end

@[simp] theorem arr_toList {n : ℕ} (v : ByteArr n) : arr n v.toList = .ok v := by
  rw [arr, dif_pos v.toList_length]
  rfl

@[simp] theorem u16Le_leBytes (w : UInt16) : u16Le (leBytes 2 w.toNat) = .ok w := by
  have hw : leNat (leBytes 2 w.toNat) = w.toNat := leNat_leBytes w.toNat_lt
  have heval : u16Le (leBytes 2 w.toNat) = .ok (UInt16.ofNat (leNat (leBytes 2 w.toNat))) := rfl
  rw [heval, hw, UInt16.ofNat_toNat]

@[simp] theorem u32Le_leBytes (w : UInt32) : u32Le (leBytes 4 w.toNat) = .ok w := by
  have hw : leNat (leBytes 4 w.toNat) = w.toNat := leNat_leBytes w.toNat_lt
  have heval : u32Le (leBytes 4 w.toNat) = .ok (UInt32.ofNat (leNat (leBytes 4 w.toNat))) := rfl
  rw [heval, hw, UInt32.ofNat_toNat]

@[simp] theorem u64Le_leBytes (w : UInt64) : u64Le (leBytes 8 w.toNat) = .ok w := by
  have hw : leNat (leBytes 8 w.toNat) = w.toNat := leNat_leBytes w.toNat_lt
  have heval : u64Le (leBytes 8 w.toNat) = .ok (UInt64.ofNat (leNat (leBytes 8 w.toNat))) := rfl
  rw [heval, hw, UInt64.ofNat_toNat]

section

variable {b : Bytes}

theorem exists_u16 (m : ℕ) (h : b.length = 2 + m) :
    ∃ w : UInt16, ∃ rest, b = leBytes 2 w.toNat ++ rest ∧ rest.length = m := by
  obtain ⟨w, rest, hw, hb, hrest⟩ := exists_word 2 m h
  exact ⟨UInt16.ofNatLT w hw, rest, by rw [UInt16.toNat_ofNatLT, hb], hrest⟩

theorem exists_u32 (m : ℕ) (h : b.length = 4 + m) :
    ∃ w : UInt32, ∃ rest, b = leBytes 4 w.toNat ++ rest ∧ rest.length = m := by
  obtain ⟨w, rest, hw, hb, hrest⟩ := exists_word 4 m h
  exact ⟨UInt32.ofNatLT w hw, rest, by rw [UInt32.toNat_ofNatLT, hb], hrest⟩

theorem exists_u64 (m : ℕ) (h : b.length = 8 + m) :
    ∃ w : UInt64, ∃ rest, b = leBytes 8 w.toNat ++ rest ∧ rest.length = m := by
  obtain ⟨w, rest, hw, hb, hrest⟩ := exists_word 8 m h
  exact ⟨UInt64.ofNatLT w hw, rest, by rw [UInt64.toNat_ofNatLT, hb], hrest⟩

end

/-! ### The header -/

/-- The header with its four reserved bytes. -/
def TdQuoteHeader.encode (h : TdQuoteHeader) (reserved : ByteArr 4) : Bytes :=
  leBytes 2 h.version.toNat ++ (leBytes 2 h.attestationKeyType.toNat ++
    (leBytes 4 h.teeType.toNat ++ (reserved.toList ++ (h.qeVendorId.toList ++ h.userData.toList))))

theorem TdQuoteHeader.length_encode (h : TdQuoteHeader) (reserved : ByteArr 4) :
    (h.encode reserved).length = HEADER_LEN := by
  simp [encode, HEADER_LEN]

theorem exists_header {b : Bytes} (hb : b.length = HEADER_LEN) :
    ∃ h : TdQuoteHeader, ∃ reserved, b = h.encode reserved := by
  obtain ⟨version, b₁, rfl, h₁⟩ := exists_u16 46 hb
  obtain ⟨attestationKeyType, b₂, rfl, h₂⟩ := exists_u16 44 h₁
  obtain ⟨teeType, b₃, rfl, h₃⟩ := exists_u32 40 h₂
  obtain ⟨reserved, b₄, rfl, h₄⟩ := exists_field 4 36 h₃
  obtain ⟨qeVendorId, b₅, rfl, h₅⟩ := exists_field 16 20 h₄
  exact ⟨⟨version, attestationKeyType, teeType, qeVendorId, ⟨b₅, h₅⟩⟩, reserved, rfl⟩

theorem parseHeader_encode (h : TdQuoteHeader) (reserved : ByteArr 4) :
    parseHeader (h.encode reserved) =
      if h.version ≠ 4 then reject (.unsupportedVersion h.version)
      else if h.teeType ≠ 0x81 then reject (.unsupportedTeeType h.teeType)
      else .ok h := by
  have h₀ := ReadsAt.start (h.encode reserved)
  have h₂ : ReadsAt _ 2 _ := h₀.next (length_leBytes _ _)
  have h₄ : ReadsAt _ 4 _ := h₂.next (length_leBytes _ _)
  have h₈ : ReadsAt _ 8 _ := h₄.next (length_leBytes _ _)
  have h₁₂ : ReadsAt _ 12 _ := h₈.next reserved.toList_length
  have h₂₈ : ReadsAt (h.encode reserved) 28 (h.userData.toList ++ []) := by
    rw [List.append_nil]
    exact h₁₂.next h.qeVendorId.toList_length
  have s₀ := slice_eq h₀ (length_leBytes _ _) (rfl : 2 = 0 + 2)
  have s₂ := slice_eq h₂ (length_leBytes _ _) (rfl : 4 = 2 + 2)
  have s₄ := slice_eq h₄ (length_leBytes _ _) (rfl : 8 = 4 + 4)
  have s₁₂ := slice_eq h₁₂ h.qeVendorId.toList_length (rfl : 28 = 12 + 16)
  have s₂₈ := slice_eq h₂₈ h.userData.toList_length (rfl : 48 = 28 + 20)
  simp only [parseHeader, s₀, s₂, s₄, s₁₂, s₂₈, ok_bind, u16Le_leBytes, u32Le_leBytes, arr_toList]
  rfl

/-! ### The body -/

def encodeSlots {count : ℕ} (slots : List.Vector (ByteArr 48) count) : Bytes :=
  (slots.toList.map List.Vector.toList).flatten

def TdQuoteBody.encode (q : TdQuoteBody) : Bytes :=
  q.teeTcbSvn.toList ++ (q.mrseam.toList ++ (q.mrsignerseam.toList ++
    (leBytes 8 q.seamAttributes.toNat ++ (leBytes 8 q.tdAttributes.toNat ++
      (leBytes 8 q.xfam.toNat ++ (q.mrtd.toList ++ (q.mrconfigid.toList ++
        (q.mrowner.toList ++ (q.mrownerconfig.toList ++ (encodeSlots q.rtmr ++
          (q.reportData.toList ++ [])))))))))))

theorem exists_slots {b : Bytes} (count m : ℕ) (hb : b.length = 48 * count + m) :
    ∃ slots : List.Vector (ByteArr 48) count, ∃ rest,
      b = encodeSlots slots ++ rest ∧ rest.length = m := by
  induction count generalizing b with
  | zero => exact ⟨.nil, b, rfl, by omega⟩
  | succ count ih =>
      obtain ⟨slot, b', rfl, h'⟩ := exists_field 48 (48 * count + m) (hb.trans (by omega))
      obtain ⟨slots, rest, rfl, hrest⟩ := ih h'
      refine ⟨slot ::ᵥ slots, rest, ?_, hrest⟩
      rw [encodeSlots, encodeSlots, List.Vector.toList_cons, List.map_cons, List.flatten_cons,
        List.append_assoc]

theorem length_encodeSlots {count : ℕ} (slots : List.Vector (ByteArr 48) count) :
    (encodeSlots slots).length = 48 * count := by
  induction count with
  | zero =>
      rw [slots.eq_nil]
      rfl
  | succ count ih =>
      obtain ⟨slot, slots, rfl⟩ := slots.exists_eq_cons
      have htail := ih slots
      rw [encodeSlots] at htail ⊢
      rw [List.Vector.toList_cons, List.map_cons, List.flatten_cons, List.length_append, htail,
        slot.toList_length]
      omega

theorem takeSlots_eq {b rest : Bytes} {count off : ℕ} {slots : List.Vector (ByteArr 48) count}
    (h : ReadsAt b off (encodeSlots slots ++ rest)) :
    takeSlots b count off = .ok (slots, off + 48 * count) := by
  induction count generalizing off with
  | zero =>
      rw [slots.eq_nil]
      rfl
  | succ count ih =>
      obtain ⟨slot, slots, rfl⟩ := slots.exists_eq_cons
      rw [encodeSlots, List.Vector.toList_cons, List.map_cons, List.flatten_cons,
        List.append_assoc] at h
      have hslot := take_eq h slot.toList_length
      have hslots := ih (h.next slot.toList_length)
      have hoff : off + 48 + 48 * count = off + 48 * (count + 1) := by ring
      simp only [takeSlots, hslot, hslots, ok_bind, arr_toList, hoff]
      rfl

theorem TdQuoteBody.length_encode (q : TdQuoteBody) : q.encode.length = BODY_LEN := by
  simp [encode, length_encodeSlots, BODY_LEN]

theorem exists_body {b : Bytes} (hb : b.length = BODY_LEN) : ∃ q : TdQuoteBody, b = q.encode := by
  obtain ⟨teeTcbSvn, b₁, rfl, h₁⟩ := exists_field 16 568 hb
  obtain ⟨mrseam, b₂, rfl, h₂⟩ := exists_field 48 520 h₁
  obtain ⟨mrsignerseam, b₃, rfl, h₃⟩ := exists_field 48 472 h₂
  obtain ⟨seamAttributes, b₄, rfl, h₄⟩ := exists_u64 464 h₃
  obtain ⟨tdAttributes, b₅, rfl, h₅⟩ := exists_u64 456 h₄
  obtain ⟨xfam, b₆, rfl, h₆⟩ := exists_u64 448 h₅
  obtain ⟨mrtd, b₇, rfl, h₇⟩ := exists_field 48 400 h₆
  obtain ⟨mrconfigid, b₈, rfl, h₈⟩ := exists_field 48 352 h₇
  obtain ⟨mrowner, b₉, rfl, h₉⟩ := exists_field 48 304 h₈
  obtain ⟨mrownerconfig, b₁₀, rfl, h₁₀⟩ := exists_field 48 256 h₉
  obtain ⟨rtmr, b₁₁, rfl, h₁₁⟩ := exists_slots 4 64 h₁₀
  obtain ⟨reportData, b₁₂, rfl, h₁₂⟩ := exists_field 64 0 h₁₁
  obtain rfl := List.length_eq_zero_iff.mp h₁₂
  exact ⟨⟨teeTcbSvn, mrseam, mrsignerseam, seamAttributes, tdAttributes, xfam, mrtd, mrconfigid,
    mrowner, mrownerconfig, rtmr, reportData⟩, rfl⟩

theorem parseBody_encode (q : TdQuoteBody) : parseBody q.encode = .ok q := by
  have h₀ := ReadsAt.start q.encode
  have h₁ := h₀.next q.teeTcbSvn.toList_length
  have h₂ := h₁.next q.mrseam.toList_length
  have h₃ := h₂.next q.mrsignerseam.toList_length
  have h₄ := h₃.next (length_leBytes _ _)
  have h₅ := h₄.next (length_leBytes _ _)
  have h₆ := h₅.next (length_leBytes _ _)
  have h₇ := h₆.next q.mrtd.toList_length
  have h₈ := h₇.next q.mrconfigid.toList_length
  have h₉ := h₈.next q.mrowner.toList_length
  have h₁₀ := h₉.next q.mrownerconfig.toList_length
  have h₁₁ := h₁₀.next (length_encodeSlots q.rtmr)
  simp only [parseBody, ok_bind, arr_toList, u64Le_leBytes,
    take_eq h₀ q.teeTcbSvn.toList_length, take_eq h₁ q.mrseam.toList_length,
    take_eq h₂ q.mrsignerseam.toList_length, take_eq h₃ (length_leBytes _ _),
    take_eq h₄ (length_leBytes _ _), take_eq h₅ (length_leBytes _ _),
    take_eq h₆ q.mrtd.toList_length, take_eq h₇ q.mrconfigid.toList_length,
    take_eq h₈ q.mrowner.toList_length, take_eq h₉ q.mrownerconfig.toList_length,
    takeSlots_eq h₁₀, take_eq h₁₁ q.reportData.toList_length]
  rfl

/-! ### The signature section -/

/-- The fixed fields of the section, up to the size of the authentication data. -/
def encodeFixed (signature : ByteArr EC_SIG_LEN) (attestPubKey : ByteArr EC_PUBKEY_LEN)
    (qeReport : ByteArr QE_REPORT_LEN) (qeReportSig : ByteArr EC_SIG_LEN)
    (qeAuthDataSize : UInt16) (rest : Bytes) : Bytes :=
  signature.toList ++ (attestPubKey.toList ++ (qeReport.toList ++ (qeReportSig.toList ++
    (leBytes 2 qeAuthDataSize.toNat ++ rest))))

/-- The certification data behind the authentication data. -/
def encodeCert (certDataType : UInt16) (certDataSize : UInt32) (tail : Bytes) : Bytes :=
  leBytes 2 certDataType.toNat ++ (leBytes 4 certDataSize.toNat ++ tail)

/-- The sizes that the section declares fit into it, and its certification data is a text of
type 5. -/
structure SectionLayout (b : Bytes) : Prop where
  fits : minFixed + wordAt b 576 2 + 6 + wordAt b (minFixed + wordAt b 576 2 + 2) 4 ≤ b.length
  certDataType : wordAt b (minFixed + wordAt b 576 2) 2 = 5
  utf8 : isUtf8 ((b.drop (minFixed + wordAt b 576 2 + 6)).take
    (wordAt b (minFixed + wordAt b 576 2 + 2) 4))

section

variable {b rest : Bytes} (signature : ByteArr EC_SIG_LEN) (attestPubKey : ByteArr EC_PUBKEY_LEN)
  (qeReport : ByteArr QE_REPORT_LEN) (qeReportSig : ByteArr EC_SIG_LEN)
  (qeAuthDataSize : UInt16)

theorem exists_fixed (m : ℕ) (hb : b.length = minFixed + m) :
    ∃ signature attestPubKey qeReport qeReportSig qeAuthDataSize rest,
      b = encodeFixed signature attestPubKey qeReport qeReportSig qeAuthDataSize rest ∧
        rest.length = m := by
  obtain ⟨signature, b₁, rfl, h₁⟩ := exists_field EC_SIG_LEN (514 + m)
    (hb.trans (by simp only [minFixed, EC_SIG_LEN, EC_PUBKEY_LEN, QE_REPORT_LEN]; omega))
  obtain ⟨attestPubKey, b₂, rfl, h₂⟩ := exists_field EC_PUBKEY_LEN (450 + m)
    (h₁.trans (by simp only [EC_PUBKEY_LEN]; omega))
  obtain ⟨qeReport, b₃, rfl, h₃⟩ := exists_field QE_REPORT_LEN (66 + m)
    (h₂.trans (by simp only [QE_REPORT_LEN]; omega))
  obtain ⟨qeReportSig, b₄, rfl, h₄⟩ := exists_field EC_SIG_LEN (2 + m)
    (h₃.trans (by simp only [EC_SIG_LEN]; omega))
  obtain ⟨qeAuthDataSize, rest, rfl, hrest⟩ := exists_u16 m h₄
  exact ⟨signature, attestPubKey, qeReport, qeReportSig, qeAuthDataSize, rest, rfl, hrest⟩

theorem length_encodeFixed :
    (encodeFixed signature attestPubKey qeReport qeReportSig qeAuthDataSize rest).length =
      minFixed + rest.length := by
  simp only [encodeFixed, List.length_append, List.Vector.toList_length, length_leBytes, minFixed]
  ring

theorem readsAt_qeAuthDataSize :
    ReadsAt (encodeFixed signature attestPubKey qeReport qeReportSig qeAuthDataSize rest) 576
      (leBytes 2 qeAuthDataSize.toNat ++ rest) := by
  have h₀ := ReadsAt.start
    (encodeFixed signature attestPubKey qeReport qeReportSig qeAuthDataSize rest)
  have h₁ := h₀.next signature.toList_length
  have h₂ := h₁.next attestPubKey.toList_length
  have h₃ := h₂.next qeReport.toList_length
  exact h₃.next qeReportSig.toList_length

variable (rest) in
/-- Behind the fixed fields the section holds the rest. -/
theorem readsAt_rest :
    ReadsAt (encodeFixed signature attestPubKey qeReport qeReportSig qeAuthDataSize rest) minFixed
      rest :=
  (readsAt_qeAuthDataSize signature attestPubKey qeReport qeReportSig qeAuthDataSize).next
    (length_leBytes _ _)

variable (rest) in
theorem wordAt_qeAuthDataSize :
    wordAt (encodeFixed signature attestPubKey qeReport qeReportSig qeAuthDataSize rest) 576 2 =
      qeAuthDataSize.toNat :=
  (readsAt_qeAuthDataSize signature attestPubKey qeReport qeReportSig qeAuthDataSize).wordAt_eq
    qeAuthDataSize.toNat_lt

theorem parseSection_encodeFixed {b : Bytes}
    (hb : b = encodeFixed signature attestPubKey qeReport qeReportSig qeAuthDataSize rest) :
    parseSection b = parseAuthAndCert signature attestPubKey qeReport qeReportSig
      qeAuthDataSize b minFixed := by
  have h₀ : ReadsAt b 0
      (encodeFixed signature attestPubKey qeReport qeReportSig qeAuthDataSize rest) :=
    ⟨Nat.zero_le _, hb⟩
  have h₁ := h₀.next signature.toList_length
  have h₂ := h₁.next attestPubKey.toList_length
  have h₃ := h₂.next qeReport.toList_length
  have h₄ := h₃.next qeReportSig.toList_length
  have hlength : ¬ b.length < minFixed := by
    rw [hb, length_encodeFixed]
    omega
  rw [parseSection, if_neg hlength]
  simp only [ok_bind, arr_toList, u16Le_leBytes, take_eq h₀ signature.toList_length,
    take_eq h₁ attestPubKey.toList_length, take_eq h₂ qeReport.toList_length,
    take_eq h₃ qeReportSig.toList_length, take_eq h₄ (length_leBytes _ _)]
  rfl

/-- The authentication data, the certification data and the sizes in front of them. -/
theorem parseAuthAndCert_encode {certDataType : UInt16} {certDataSize : UInt32}
    {qeAuthData tail : Bytes} (hauth : qeAuthData.length = qeAuthDataSize.toNat)
    (hb : ReadsAt b minFixed (qeAuthData ++ encodeCert certDataType certDataSize tail)) :
    parseAuthAndCert signature attestPubKey qeReport qeReportSig qeAuthDataSize b minFixed =
      if tail.length < certDataSize.toNat then reject (.truncatedSignatureData "cert_data")
      else if certDataType ≠ 5 then reject (.unsupportedCertDataType certDataType)
      else if isUtf8 (tail.take certDataSize.toNat) then
        .ok ⟨signature, attestPubKey, qeReport, qeReportSig, qeAuthData,
          ⟨certDataType, tail.take certDataSize.toNat⟩⟩
      else reject .certDataNotUtf8 := by
  have h₁ := hb.next hauth
  have h₂ := h₁.next (length_leBytes _ _)
  have h₃ := h₂.next (length_leBytes _ _)
  have hlength := h₃.length_eq
  have hauthFits : ¬ b.length < minFixed + qeAuthDataSize.toNat + 6 := by omega
  have hcert : b.length < minFixed + qeAuthDataSize.toNat + 2 + 4 + certDataSize.toNat ↔
      tail.length < certDataSize.toNat := by omega
  rw [parseAuthAndCert, if_neg hauthFits]
  simp only [ok_bind, u16Le_leBytes, u32Le_leBytes, take_eq hb hauth,
    take_eq h₁ (length_leBytes _ _), take_eq h₂ (length_leBytes _ _), hcert]
  apply if_ctx_congr Iff.rfl (fun _ => rfl)
  intro htail
  have hpem : ReadsAt b (minFixed + qeAuthDataSize.toNat + 2 + 4)
      (tail.take certDataSize.toNat ++ tail.drop certDataSize.toNat) := by
    rw [List.take_append_drop]
    exact h₃
  rw [take_eq hpem (List.length_take_of_le (not_lt.mp htail))]
  rfl

/-- What the layout says of a section whose authentication data fits. -/
theorem sectionLayout_iff {certDataType : UInt16} {certDataSize : UInt32}
    {qeAuthData tail : Bytes} (hsize : wordAt b 576 2 = qeAuthDataSize.toNat)
    (hauth : qeAuthData.length = qeAuthDataSize.toNat)
    (hb : ReadsAt b minFixed (qeAuthData ++ encodeCert certDataType certDataSize tail)) :
    SectionLayout b ↔ certDataSize.toNat ≤ tail.length ∧ certDataType = 5 ∧
      isUtf8 (tail.take certDataSize.toNat) := by
  have h₁ := hb.next hauth
  have h₂ := h₁.next (length_leBytes _ _)
  have h₃ := h₂.next (length_leBytes _ _)
  have hlength := h₃.length_eq
  have htype : wordAt b (minFixed + qeAuthDataSize.toNat) 2 = certDataType.toNat :=
    h₁.wordAt_eq certDataType.toNat_lt
  have hcertSize : wordAt b (minFixed + qeAuthDataSize.toNat + 2) 4 = certDataSize.toNat :=
    h₂.wordAt_eq certDataSize.toNat_lt
  have htail : b.drop (minFixed + qeAuthDataSize.toNat + 6) = tail := h₃.drop
  constructor
  · rintro ⟨hfits, hfive, hutf8⟩
    rw [hsize] at hfits hfive hutf8
    rw [hcertSize] at hfits hutf8
    rw [htype] at hfive
    rw [htail] at hutf8
    exact ⟨by omega, UInt16.toNat_inj.mp hfive, hutf8⟩
  · rintro ⟨hfits, rfl, hutf8⟩
    refine ⟨?_, ?_, ?_⟩
    · rw [hsize, hcertSize]
      omega
    · rw [hsize, htype]
      rfl
    · rw [hsize, hcertSize, htail]
      exact hutf8

end

/-- A section of any bytes is refused, or it has the layout and its fields are read. -/
theorem parseSection_cases (b : Bytes) :
    (∃ e, parseSection b = reject e) ∧ ¬ SectionLayout b ∨
      (∃ d, parseSection b = .ok d) ∧ SectionLayout b := by
  rcases Nat.lt_or_ge b.length minFixed with hshort | hfixed
  · refine .inl ⟨⟨_, if_pos hshort⟩, fun hlayout => ?_⟩
    have hfits := hlayout.fits
    omega
  obtain ⟨m, hm⟩ := Nat.exists_eq_add_of_le hfixed
  obtain ⟨signature, attestPubKey, qeReport, qeReportSig, qeAuthDataSize, rest, rfl, rfl⟩ :=
    exists_fixed m hm
  have hsize := wordAt_qeAuthDataSize rest signature attestPubKey qeReport qeReportSig
    qeAuthDataSize
  rw [parseSection_encodeFixed signature attestPubKey qeReport qeReportSig qeAuthDataSize rfl]
  have hrest := readsAt_rest rest signature attestPubKey qeReport qeReportSig
    qeAuthDataSize
  generalize encodeFixed signature attestPubKey qeReport qeReportSig qeAuthDataSize rest = b at *
  rcases Nat.lt_or_ge rest.length (qeAuthDataSize.toNat + 6) with hshort | hauth
  · refine .inl ⟨⟨.truncatedSignatureData "qe_auth_data", ?_⟩, fun hlayout => ?_⟩
    · rw [parseAuthAndCert, if_pos (by omega)]
    · have hfits := hlayout.fits
      rw [hsize] at hfits
      omega
  obtain ⟨k, hk⟩ := Nat.exists_eq_add_of_le hauth
  obtain ⟨qeAuthData, b₁, rfl, h₁⟩ := exists_field qeAuthDataSize.toNat (6 + k) (hk.trans (by ring))
  obtain ⟨certDataType, b₂, rfl, h₂⟩ := exists_u16 (4 + k) (h₁.trans (by ring))
  obtain ⟨certDataSize, tail, rfl, -⟩ := exists_u32 k h₂
  have hlength : qeAuthData.toList.length = qeAuthDataSize.toNat := qeAuthData.toList_length
  rw [parseAuthAndCert_encode signature attestPubKey qeReport qeReportSig qeAuthDataSize hlength
    hrest, sectionLayout_iff qeAuthDataSize hsize hlength hrest]
  split_ifs with htail htype hutf8
  · exact .inl ⟨⟨_, rfl⟩, fun h => absurd h.1 (Nat.not_le_of_lt htail)⟩
  · exact .inl ⟨⟨_, rfl⟩, fun h => htype h.2.1⟩
  · exact .inr ⟨⟨_, rfl⟩, not_lt.mp htail, not_not.mp htype, hutf8⟩
  · exact .inl ⟨⟨_, rfl⟩, fun h => hutf8 h.2.2⟩

end CapsuleMesh.Tee
