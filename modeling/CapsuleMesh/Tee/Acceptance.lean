import CapsuleMesh.Tee.Layout

/-!
# Accepted quotes

The parser accepts the byte strings that have the layout of a quote, reads back every quote that
is encoded, and keeps the bytes that the signature covers.
-/

namespace CapsuleMesh.Tee

open Library

/-- A version 4 header with the TDX type, and a signature section of the declared length. -/
structure Layout (bytes : Bytes) : Prop where
  minimum : HEADER_LEN + BODY_LEN + 4 ≤ bytes.length
  version : wordAt bytes 0 2 = 4
  teeType : wordAt bytes 4 4 = 0x81
  declared : HEADER_LEN + BODY_LEN + 4 + wordAt bytes 632 4 ≤ bytes.length
  signatureSection : SectionLayout ((bytes.drop 636).take (wordAt bytes 632 4))

theorem parseSignatureData_encode (declaredLen : UInt32) (rest : Bytes) :
    parseSignatureData (leBytes 4 declaredLen.toNat ++ rest) =
      if rest.length < declaredLen.toNat then
        reject (.truncatedSignatureData "section shorter than declared length")
      else parseSection (rest.take declaredLen.toNat) := by
  have h₀ := ReadsAt.start (leBytes 4 declaredLen.toNat ++ rest)
  have h₄ : ReadsAt _ 4 rest := h₀.next (length_leBytes _ _)
  have hlength := h₄.length_eq
  have hrest : ReadsAt (leBytes 4 declaredLen.toNat ++ rest) 4 (rest ++ []) := by
    rw [List.append_nil]
    exact h₄
  have s₀ := slice_eq h₀ (length_leBytes _ _) (rfl : 4 = 0 + 4)
  have s₄ := slice_eq hrest rfl hlength
  rw [parseSignatureData, if_neg (by omega)]
  simp only [s₀, s₄, ok_bind, u32Le_leBytes]
  apply if_ctx_congr Iff.rfl (fun _ => rfl)
  intro hfits
  have hsection : ReadsAt rest 0
      (rest.take declaredLen.toNat ++ rest.drop declaredLen.toNat) := by
    rw [List.take_append_drop]
    exact ReadsAt.start rest
  rw [slice_eq hsection (List.length_take_of_le (not_lt.mp hfits)) (Nat.zero_add _).symm, ok_bind]

/-- A quote, part by part. -/
theorem parse_encode (header : TdQuoteHeader) (reserved : ByteArr 4) (body : TdQuoteBody)
    (rest bytes : Bytes) (hbytes : bytes = header.encode reserved ++ (body.encode ++ rest)) :
    TdQuoteV4.parse bytes =
      if header.version ≠ 4 then reject (.unsupportedVersion header.version)
      else if header.teeType ≠ 0x81 then reject (.unsupportedTeeType header.teeType)
      else do return ⟨header, body, ← parseSignatureData rest, bytes⟩ := by
  have h₀ : ReadsAt bytes 0 (header.encode reserved ++ (body.encode ++ rest)) :=
    ⟨Nat.zero_le _, hbytes⟩
  have h₁ := h₀.next (header.length_encode reserved)
  have h₂ := h₁.next body.length_encode
  have h₃ : ReadsAt bytes (0 + HEADER_LEN + BODY_LEN) (rest ++ []) := by
    rw [List.append_nil]
    exact h₂
  rw [Nat.zero_add] at h₁ h₃
  have hlength := h₂.length_eq
  have s₀ := slice_eq h₀ (header.length_encode reserved) (rfl : HEADER_LEN = _)
  have s₁ := slice_eq h₁ body.length_encode (rfl : HEADER_LEN + BODY_LEN = _)
  have s₂ : slice bytes (HEADER_LEN + BODY_LEN) bytes.length = .ok rest :=
    slice_eq h₃ rfl (by omega)
  rw [TdQuoteV4.parse, if_neg (by omega)]
  simp only [s₀, s₁, s₂, ok_bind, parseHeader_encode, parseBody_encode]
  split_ifs
  · rfl
  · rfl
  · rfl

theorem exists_parts {bytes : Bytes} (h : HEADER_LEN + BODY_LEN ≤ bytes.length) :
    ∃ header reserved, ∃ body : TdQuoteBody, ∃ rest,
      bytes = TdQuoteHeader.encode header reserved ++ (body.encode ++ rest) := by
  obtain ⟨m, hm⟩ := Nat.exists_eq_add_of_le h
  obtain ⟨headerBytes, b₁, rfl, h₁⟩ :=
    exists_field HEADER_LEN (BODY_LEN + m) (hm.trans (Nat.add_assoc _ _ _))
  obtain ⟨bodyBytes, rest, rfl, -⟩ := exists_field BODY_LEN m h₁
  obtain ⟨header, reserved, hheader⟩ := exists_header headerBytes.toList_length
  obtain ⟨body, hbody⟩ := exists_body bodyBytes.toList_length
  exact ⟨header, reserved, body, rest, by rw [hheader, hbody]⟩

/-- What the layout says of a quote whose header and body are there. -/
theorem layout_iff {header : TdQuoteHeader} {reserved : ByteArr 4} {body : TdQuoteBody}
    {rest bytes : Bytes} (hbytes : bytes = header.encode reserved ++ (body.encode ++ rest)) :
    Layout bytes ↔ 4 ≤ rest.length ∧ header.version = 4 ∧ header.teeType = 0x81 ∧
      4 + wordAt rest 0 4 ≤ rest.length ∧ SectionLayout ((rest.drop 4).take (wordAt rest 0 4)) := by
  have h₀ : ReadsAt bytes 0 (header.encode reserved ++ (body.encode ++ rest)) :=
    ⟨Nat.zero_le _, hbytes⟩
  have h₁ := h₀.next (header.length_encode reserved)
  have h₂ : ReadsAt bytes 632 rest := h₁.next body.length_encode
  have hlength := h₂.length_eq
  have hfields : header.encode reserved ++ (body.encode ++ rest) =
      leBytes 2 header.version.toNat ++ (leBytes 2 header.attestationKeyType.toNat ++
        (leBytes 4 header.teeType.toNat ++ (reserved.toList ++ (header.qeVendorId.toList ++
          header.userData.toList)) ++ (body.encode ++ rest))) := by
    simp only [TdQuoteHeader.encode, List.append_assoc]
  rw [hfields, List.append_assoc] at h₀
  have hversion : wordAt bytes 0 2 = header.version.toNat := h₀.wordAt_eq header.version.toNat_lt
  have h₄ := (h₀.next (length_leBytes _ _)).next (length_leBytes _ _)
  have hteeType : wordAt bytes 4 4 = header.teeType.toNat := h₄.wordAt_eq header.teeType.toNat_lt
  have hdeclared : wordAt bytes 632 4 = wordAt rest 0 4 := by
    rw [wordAt, wordAt, h₂.drop, List.drop_zero]
  have hsection : bytes.drop 636 = rest.drop 4 := by
    rw [← h₂.drop, List.drop_drop]
  constructor
  · rintro ⟨hminimum, hfour, htdx, hfits, hlayout⟩
    rw [HEADER_LEN, BODY_LEN] at hminimum hfits
    rw [hversion] at hfour
    rw [hteeType] at htdx
    rw [hdeclared] at hfits hlayout
    rw [hsection] at hlayout
    exact ⟨by omega, UInt16.toNat_inj.mp hfour, UInt32.toNat_inj.mp htdx, by omega, hlayout⟩
  · rintro ⟨hminimum, hfour, htdx, hfits, hlayout⟩
    refine ⟨?_, ?_, ?_, ?_, ?_⟩
    · rw [HEADER_LEN, BODY_LEN]
      omega
    · rw [hversion, hfour]
      rfl
    · rw [hteeType, htdx]
      rfl
    · rw [hdeclared, HEADER_LEN, BODY_LEN]
      omega
    · rw [hdeclared, hsection]
      exact hlayout

/-- A signature part of any bytes is refused, or it has its layout and its fields are read. -/
theorem parseSignatureData_cases (rest : Bytes) :
    (∃ e, parseSignatureData rest = reject e) ∧
        ¬ (4 ≤ rest.length ∧ 4 + wordAt rest 0 4 ≤ rest.length ∧
          SectionLayout ((rest.drop 4).take (wordAt rest 0 4))) ∨
      (∃ d, parseSignatureData rest = .ok d) ∧
        4 ≤ rest.length ∧ 4 + wordAt rest 0 4 ≤ rest.length ∧
          SectionLayout ((rest.drop 4).take (wordAt rest 0 4)) := by
  rcases Nat.lt_or_ge rest.length 4 with hshort | hprefix
  · exact .inl ⟨⟨_, if_pos hshort⟩, fun h => absurd h.1 (Nat.not_le_of_lt hshort)⟩
  obtain ⟨m, hm⟩ := Nat.exists_eq_add_of_le hprefix
  obtain ⟨declaredLen, tail, rfl, -⟩ := exists_u32 m hm
  have h₀ := ReadsAt.start (leBytes 4 declaredLen.toNat ++ tail)
  have h₄ : ReadsAt _ 4 tail := h₀.next (length_leBytes _ _)
  have hlength := h₄.length_eq
  rw [parseSignatureData_encode, h₀.wordAt_eq declaredLen.toNat_lt, h₄.drop]
  split_ifs with hdeclared
  · exact .inl ⟨⟨_, rfl⟩, fun h => by omega⟩
  · rcases parseSection_cases (tail.take declaredLen.toNat) with ⟨hrefused, hno⟩ | ⟨hread, hlayout⟩
    · exact .inl ⟨hrefused, fun h => hno h.2.2⟩
    · exact .inr ⟨hread, hprefix, by omega, hlayout⟩

/-- Every byte string is refused with an error, or it has the layout and is read. -/
theorem parse_cases (bytes : Bytes) :
    (∃ e, TdQuoteV4.parse bytes = reject e) ∧ ¬ Layout bytes ∨
      (∃ q, TdQuoteV4.parse bytes = .ok q) ∧ Layout bytes := by
  rcases Nat.lt_or_ge bytes.length (HEADER_LEN + BODY_LEN) with hshort | hlong
  · refine .inl ⟨⟨_, if_pos hshort⟩, fun hlayout => ?_⟩
    have hminimum := hlayout.minimum
    omega
  obtain ⟨header, reserved, body, rest, hbytes⟩ := exists_parts hlong
  rw [parse_encode header reserved body rest bytes hbytes, layout_iff hbytes]
  split_ifs with hversion hteeType
  · exact .inl ⟨⟨_, rfl⟩, fun h => hversion h.2.1⟩
  · exact .inl ⟨⟨_, rfl⟩, fun h => hteeType h.2.2.1⟩
  · rcases parseSignatureData_cases rest with ⟨⟨e, he⟩, hno⟩ | ⟨⟨d, hd⟩, hlayout⟩
    · rw [he]
      exact .inl ⟨⟨e, rfl⟩, fun h => hno ⟨h.1, h.2.2.2⟩⟩
    · rw [hd]
      exact .inr ⟨⟨_, rfl⟩, hlayout.1, not_not.mp hversion, not_not.mp hteeType, hlayout.2⟩

/-- An accepted quote keeps its bytes; the body was read from the part that is signed. -/
theorem signedBytes_of_parse {bytes : Bytes} {q : TdQuoteV4}
    (h : TdQuoteV4.parse bytes = .ok q) :
    ∃ header reserved, q.signedBytes =
      .ok (TdQuoteHeader.encode header reserved ++ q.body.encode) := by
  rcases Nat.lt_or_ge bytes.length (HEADER_LEN + BODY_LEN) with hshort | hlong
  · rw [TdQuoteV4.parse, if_pos hshort] at h
    cases h
  obtain ⟨header, reserved, body, rest, hbytes⟩ := exists_parts hlong
  rw [parse_encode header reserved body rest bytes hbytes] at h
  split_ifs at h
  · cases h
  · cases h
  · cases hd : parseSignatureData rest with
    | error e =>
        rw [hd] at h
        cases h
    | ok d =>
        rw [hd] at h
        cases h
        refine ⟨header, reserved, ?_⟩
        have hstart : ReadsAt bytes 0 ((header.encode reserved ++ body.encode) ++ rest) := by
          rw [List.append_assoc]
          exact ⟨Nat.zero_le _, hbytes⟩
        apply slice_eq hstart
        · rw [List.length_append, header.length_encode, body.length_encode]
        · rfl

/-- The values that a quote can carry. -/
structure QuoteValue where
  header : TdQuoteHeader
  body : TdQuoteBody
  signatureData : QuoteSignatureData
  version_eq : header.version = 4
  teeType_eq : header.teeType = 0x81
  certDataType_eq : signatureData.certData.certDataType = 5
  auth_lt : signatureData.qeAuthData.length < 2 ^ 16
  utf8 : isUtf8 signatureData.certData.pemChain

namespace QuoteValue

variable (v : QuoteValue)

/-- The size of the signature section. -/
def sectionLength : ℕ :=
  minFixed + v.signatureData.qeAuthData.length + 6 + v.signatureData.certData.pemChain.length

/-- The signature section, with bytes behind its fields that nothing reads. -/
def encodeSection (unread : Bytes) : Bytes :=
  encodeFixed v.signatureData.signature v.signatureData.attestPubKey v.signatureData.qeReport
    v.signatureData.qeReportSig (UInt16.ofNat v.signatureData.qeAuthData.length)
    (v.signatureData.qeAuthData ++ encodeCert v.signatureData.certData.certDataType
      (UInt32.ofNat v.signatureData.certData.pemChain.length)
      (v.signatureData.certData.pemChain ++ unread))

/-- The quote, with the bytes that are reserved and those that follow a field or the section. -/
def encode (reserved : ByteArr 4) (unread trailing : Bytes) : Bytes :=
  v.header.encode reserved ++ (v.body.encode ++
    (leBytes 4 (UInt32.ofNat (v.encodeSection unread).length).toNat ++
      (v.encodeSection unread ++ trailing)))

theorem length_encodeSection (unread : Bytes) :
    (v.encodeSection unread).length = v.sectionLength + unread.length := by
  rw [encodeSection, length_encodeFixed]
  simp only [encodeCert, List.length_append, length_leBytes, sectionLength]
  ring

theorem parseSection_encodeSection {unread : Bytes}
    (hfits : v.sectionLength + unread.length < 2 ^ 32) :
    parseSection (v.encodeSection unread) = .ok v.signatureData := by
  have hauth : v.signatureData.qeAuthData.length =
      (UInt16.ofNat v.signatureData.qeAuthData.length).toNat :=
    (UInt16.toNat_ofNat_of_lt' v.auth_lt).symm
  have hpem : (UInt32.ofNat v.signatureData.certData.pemChain.length).toNat =
      v.signatureData.certData.pemChain.length := by
    apply UInt32.toNat_ofNat_of_lt'
    rw [sectionLength] at hfits
    exact lt_of_le_of_lt (by omega) hfits
  have hlong : ¬ (v.signatureData.certData.pemChain ++ unread).length <
      v.signatureData.certData.pemChain.length := by
    rw [List.length_append]
    omega
  have hpemChain : (v.signatureData.certData.pemChain ++ unread).take
      v.signatureData.certData.pemChain.length = v.signatureData.certData.pemChain :=
    List.take_left' rfl
  rw [encodeSection, parseSection_encodeFixed _ _ _ _ _ rfl,
    parseAuthAndCert_encode _ _ _ _ _ hauth (readsAt_rest _ _ _ _ _ _), hpem, if_neg hlong,
    if_neg (not_not.mpr v.certDataType_eq), hpemChain, if_pos v.utf8]

theorem parse_encode (reserved : ByteArr 4) {unread : Bytes} (trailing : Bytes)
    (hfits : v.sectionLength + unread.length < 2 ^ 32) :
    TdQuoteV4.parse (v.encode reserved unread trailing) =
      .ok ⟨v.header, v.body, v.signatureData, v.encode reserved unread trailing⟩ := by
  have hdeclared : (UInt32.ofNat (v.encodeSection unread).length).toNat =
      (v.encodeSection unread).length := by
    apply UInt32.toNat_ofNat_of_lt'
    rw [length_encodeSection]
    exact hfits
  have hlong : ¬ (v.encodeSection unread ++ trailing).length < (v.encodeSection unread).length := by
    rw [List.length_append]
    omega
  have hsection : (v.encodeSection unread ++ trailing).take (v.encodeSection unread).length =
      v.encodeSection unread :=
    List.take_left' rfl
  have hparse := Tee.parse_encode v.header reserved v.body _ (v.encode reserved unread trailing) rfl
  rw [hparse, if_neg (not_not.mpr v.version_eq), if_neg (not_not.mpr v.teeType_eq),
    parseSignatureData_encode, hdeclared, if_neg hlong, hsection,
    v.parseSection_encodeSection hfits]
  rfl

end QuoteValue

/-- The parser never leaves its range and accepts exactly the layout; it undoes encoding, and
quotes with different bodies, so with different registers or report data, differ in the bytes that
their signatures cover. -/
theorem parse_spec :
    (∀ bytes, TdQuoteV4.parse bytes ≠ .error .panic ∧
      ((∃ q, TdQuoteV4.parse bytes = .ok q) ↔ Layout bytes)) ∧
    (∀ (v : QuoteValue) (reserved : ByteArr 4) (unread trailing : Bytes),
      v.sectionLength + unread.length < 2 ^ 32 →
        TdQuoteV4.parse (v.encode reserved unread trailing) =
          .ok ⟨v.header, v.body, v.signatureData, v.encode reserved unread trailing⟩) ∧
    ∀ bytes bytes' q q', TdQuoteV4.parse bytes = .ok q → TdQuoteV4.parse bytes' = .ok q' →
      ∃ signed signed', q.signedBytes = .ok signed ∧ q'.signedBytes = .ok signed' ∧
        (q.body ≠ q'.body → signed ≠ signed') := by
  refine ⟨fun bytes => ?_, fun v reserved unread trailing hfits => ?_, ?_⟩
  · rcases parse_cases bytes with ⟨⟨e, he⟩, hno⟩ | ⟨⟨q, hq⟩, hlayout⟩
    · rw [he]
      refine ⟨fun h => (nomatch h), iff_of_false ?_ hno⟩
      rintro ⟨q, hq⟩
      cases hq
    · rw [hq]
      exact ⟨fun h => (nomatch h), iff_of_true ⟨q, rfl⟩ hlayout⟩
  · exact v.parse_encode reserved trailing hfits
  · intro bytes bytes' q q' h h'
    obtain ⟨header, reserved, hsigned⟩ := signedBytes_of_parse h
    obtain ⟨header', reserved', hsigned'⟩ := signedBytes_of_parse h'
    refine ⟨_, _, hsigned, hsigned', fun hbody heq => hbody ?_⟩
    have hlength : (header.encode reserved).length = (header'.encode reserved').length := by
      rw [header.length_encode, header'.length_encode]
    have hencode := (List.append_inj heq hlength).2
    have hparse := parseBody_encode q.body
    rw [hencode, parseBody_encode] at hparse
    exact (Except.ok.inj hparse).symm

end CapsuleMesh.Tee
