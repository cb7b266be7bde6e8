import CapsuleMesh.Sidecar.Attestation

/-!
# The token ceiling of a request attestation

A request may carry two token limits.  The evaluation compares one of them with the ceiling that
the client authorised, and reads some fields of the attestation without a guard.
-/

namespace CapsuleMesh.Sidecar

open Python

/-- `int` reads more from the limit than from the ceiling. -/
def Exceeds (limit ceiling : Json) : Prop :=
  ∃ n m, limit.toInt = .ok n ∧ ceiling.toInt = .ok m ∧ m < n

/-- No limit that the request carries exceeds the ceiling of the attestation. -/
def WithinCeiling (ra requestJson : Json) : Prop :=
  ∀ name ∈ ["max_tokens", "max_completion_tokens"], ∀ limit ceiling,
    requestJson.get name = .ok limit → ra.get "max_tokens" = .ok ceiling → ¬ Exceeds limit ceiling

/-- The evaluation of the request returns, and when it accepts the attestation the request stays
within the ceiling. -/
def BoundedOnAccept (crypto : AttestationCrypto) (headers : Headers) (rawBody : Bytes)
    (requestJson : Json) : Prop :=
  ∃ result, evaluateBilateralAttestation crypto headers rawBody requestJson = .ok result ∧
    (result.valid = true → ∀ raBytes ra, presentedAttestation crypto headers = some raBytes →
      crypto.loads raBytes = .ok ra → WithinCeiling ra requestJson)

/-- The value of a dictionary's key, `None` when it is missing. -/
def entry (members : List (String × Json)) (key : String) : Json := (members.lookup key).getD .null

/-- `request_json.get("max_tokens") or request_json.get("max_completion_tokens")`. -/
def comparedLimit (request : List (String × Json)) : Json :=
  (entry request "max_tokens").or (entry request "max_completion_tokens")

/-- The limit that `or` leaves out. -/
def otherLimit (request : List (String × Json)) : Json :=
  if (entry request "max_tokens").truthy then entry request "max_completion_tokens"
  else entry request "max_tokens"

/-- The limit that is compared with the ceiling can be read, as the ceiling can; the other limit
exceeds the ceiling only where the compared one does. -/
structure LimitsDecided (compared other ceiling : Json) : Prop where
  readable : ceiling.isNull = false → compared.isNull = false →
    (∃ n, compared.toInt = .ok n) ∧ ∃ m, ceiling.toInt = .ok m
  within : Exceeds other ceiling → Exceeds compared ceiling

def UntilReadable (crypto : AttestationCrypto) (validUntil : Json) : Prop :=
  validUntil.truthy = true → ∃ text, validUntil = .str text ∧ crypto.checkTime text ≠ .naive

def UntilPast (crypto : AttestationCrypto) (validUntil : Json) : Prop :=
  validUntil.truthy = true ∧ ∃ text, validUntil = .str text ∧ crypto.checkTime text = .past

/-- What has to hold of an attestation whose signature verified. -/
structure SignedDecided (crypto : AttestationCrypto) (ra : List (String × Json)) (rawBody : Bytes)
    (requestJson : Json) : Prop where
  validUntil : UntilReadable crypto (entry ra "valid_until")
  limits : ¬ UntilPast crypto (entry ra "valid_until") →
    entry ra "request_digest" = .str (crypto.sha256Hex rawBody) →
      ∃ request, requestJson = .obj request ∧
        LimitsDecided (comparedLimit request) (otherLimit request) (entry ra "max_tokens")

theorem withinCeiling_obj (ra request : List (String × Json)) :
    WithinCeiling (.obj ra) (.obj request) ↔
      ¬ Exceeds (entry request "max_tokens") (entry ra "max_tokens") ∧
        ¬ Exceeds (entry request "max_completion_tokens") (entry ra "max_tokens") := by
  constructor
  · intro h
    exact ⟨h _ (by simp) _ _ rfl rfl, h _ (by simp) _ _ rfl rfl⟩
  · rintro ⟨hfirst, hsecond⟩ name hname limit ceiling hlimit hceiling
    cases hceiling
    rcases List.mem_pair.mp hname with rfl | rfl
    · cases hlimit
      exact hfirst
    · cases hlimit
      exact hsecond

/-- The two limits are the compared one and the other, in some order. -/
theorem withinCeiling_iff (ra request : List (String × Json)) :
    WithinCeiling (.obj ra) (.obj request) ↔
      ¬ Exceeds (comparedLimit request) (entry ra "max_tokens") ∧
        ¬ Exceeds (otherLimit request) (entry ra "max_tokens") := by
  rw [withinCeiling_obj, comparedLimit, otherLimit]
  cases h : (entry request "max_tokens").truthy with
  | true =>
      rw [Json.or_of_truthy h]
      rfl
  | false =>
      rw [Json.or_of_falsy h]
      exact And.comm

/-- The comparison with the ceiling, on an attestation and a request that are objects. -/
theorem exceedsMaxTokens_obj (ra request : List (String × Json)) :
    exceedsMaxTokens (.obj ra) (.obj request) =
      if (entry ra "max_tokens").isNull || (comparedLimit request).isNull then .ok none
      else do
        let wanted ← (comparedLimit request).toInt
        let authorized ← (entry ra "max_tokens").toInt
        if wanted > authorized then return some (comparedLimit request, entry ra "max_tokens")
        else return none := rfl

/-- The comparison returns, and finds nothing only where nothing exceeds the ceiling. -/
theorem exceedsMaxTokens_iff (ra request : List (String × Json)) :
    (∃ found, exceedsMaxTokens (.obj ra) (.obj request) = .ok found ∧
      (found = none → WithinCeiling (.obj ra) (.obj request))) ↔
      LimitsDecided (comparedLimit request) (otherLimit request) (entry ra "max_tokens") := by
  rw [withinCeiling_iff, exceedsMaxTokens_obj]
  generalize comparedLimit request = compared
  generalize otherLimit request = other
  generalize entry ra "max_tokens" = ceiling
  by_cases hnull : (ceiling.isNull || compared.isNull) = true
  · have hcompared : ¬ Exceeds compared ceiling := by
      rintro ⟨n, m, hn, hm, -⟩
      cases ceiling with
      | null => cases hm
      | _ =>
        cases compared with
        | null => cases hn
        | _ => cases hnull
    rw [if_pos hnull]
    constructor
    · rintro ⟨found, hfound, hwithin⟩
      cases hfound
      refine ⟨fun hceiling hsome => ?_, fun hother => absurd hother (hwithin rfl).2⟩
      rw [hceiling, hsome] at hnull
      cases hnull
    · intro h
      exact ⟨none, rfl, fun _ => ⟨hcompared, fun hother => hcompared (h.within hother)⟩⟩
  rw [if_neg hnull]
  have hnone : ceiling.isNull = false ∧ compared.isNull = false := by
    rwa [Bool.or_eq_true, not_or, Bool.not_eq_true, Bool.not_eq_true] at hnull
  cases hn : compared.toInt with
  | error e =>
      apply iff_of_false
      · rintro ⟨found, hfound, -⟩
        cases hfound
      · intro h
        obtain ⟨⟨n, hread⟩, -⟩ := h.readable hnone.1 hnone.2
        cases hn.symm.trans hread
  | ok n =>
    cases hm : ceiling.toInt with
    | error e =>
        apply iff_of_false
        · rintro ⟨found, hfound, -⟩
          cases hfound
        · intro h
          obtain ⟨-, m, hread⟩ := h.readable hnone.1 hnone.2
          cases hm.symm.trans hread
    | ok m =>
        have hexceeds : Exceeds compared ceiling ↔ n > m := by
          constructor
          · rintro ⟨n', m', hn', hm', hlt⟩
            cases hn.symm.trans hn'
            cases hm.symm.trans hm'
            exact hlt
          · exact fun hlt => ⟨n, m, hn, hm, hlt⟩
        rw [Py.ok_bind, Py.ok_bind]
        constructor
        · rintro ⟨found, hfound, hwithin⟩
          refine ⟨fun _ _ => ⟨⟨n, hn⟩, m, hm⟩, fun hother => ?_⟩
          by_contra hle
          rw [if_neg (hle ∘ hexceeds.mpr)] at hfound
          cases hfound
          exact (hwithin rfl).2 hother
        · intro h
          by_cases hlt : n > m
          · rw [if_pos hlt]
            exact ⟨_, rfl, fun hnone => nomatch hnone⟩
          · rw [if_neg hlt]
            have hcompared : ¬ Exceeds compared ceiling := hlt ∘ hexceeds.mp
            exact ⟨none, rfl, fun _ => ⟨hcompared, hcompared ∘ h.within⟩⟩

/-! ### The validity window -/

section

variable {crypto : AttestationCrypto} {ra : List (String × Json)}

theorem expired_past (h : UntilPast crypto (entry ra "valid_until")) :
    expired crypto (.obj ra) = .ok true := by
  obtain ⟨htruthy, text, htext, hpast⟩ := h
  have hget : Json.get (.obj ra) "valid_until" = .ok (.str text) := congrArg Except.ok htext
  rw [htext] at htruthy
  simp only [expired, hget, Py.ok_bind, htruthy, if_true, hpast]
  rfl

theorem expired_current (hreadable : UntilReadable crypto (entry ra "valid_until"))
    (h : ¬ UntilPast crypto (entry ra "valid_until")) : expired crypto (.obj ra) = .ok false := by
  have hget : Json.get (.obj ra) "valid_until" = .ok (entry ra "valid_until") := rfl
  rw [expired, hget, Py.ok_bind]
  by_cases htruthy : (entry ra "valid_until").truthy = true
  · obtain ⟨text, htext, hnaive⟩ := hreadable htruthy
    rw [if_pos htruthy, htext]
    cases htime : crypto.checkTime text with
    | past => exact absurd ⟨htruthy, text, htext, htime⟩ h
    | naive => exact absurd htime hnaive
    | malformed => simp only [htime]; rfl
    | current => simp only [htime]; rfl
  · rw [if_neg htruthy]
    rfl

theorem expired_error (h : ¬ UntilReadable crypto (entry ra "valid_until")) :
    ∃ e, expired crypto (.obj ra) = .error e := by
  have hget : Json.get (.obj ra) "valid_until" = .ok (entry ra "valid_until") := rfl
  rw [UntilReadable, Classical.not_imp] at h
  obtain ⟨htruthy, hno⟩ := h
  rw [expired, hget, Py.ok_bind, if_pos htruthy]
  cases hvalue : entry ra "valid_until" with
  | str text =>
      have hnaive : crypto.checkTime text = .naive := by
        by_contra hne
        exact hno ⟨text, hvalue, hne⟩
      simp only [hnaive]
      exact ⟨_, rfl⟩
  | _ => exact ⟨_, rfl⟩

end

/-- The checks behind the signature, on an attestation that is an object. -/
theorem evaluateSigned_iff (crypto : AttestationCrypto) (raBytes rawBody : Bytes)
    (ra : List (String × Json)) (nonce requestJson : Json) :
    (∃ result, evaluateSigned crypto raBytes (.obj ra) nonce rawBody requestJson = .ok result ∧
      (result.valid = true → WithinCeiling (.obj ra) requestJson)) ↔
      SignedDecided crypto ra rawBody requestJson := by
  have hget : Json.get (.obj ra) "request_digest" = .ok (entry ra "request_digest") := rfl
  rw [evaluateSigned]
  by_cases hreadable : UntilReadable crypto (entry ra "valid_until")
  case neg =>
    obtain ⟨e, he⟩ := expired_error hreadable
    apply iff_of_false
    · rintro ⟨result, hresult, -⟩
      rw [he] at hresult
      cases hresult
    · exact fun h => hreadable h.validUntil
  by_cases hpast : UntilPast crypto (entry ra "valid_until")
  · apply iff_of_true
    · rw [expired_past hpast]
      exact ⟨_, rfl, fun hvalid => absurd hvalid Bool.false_ne_true⟩
    · exact ⟨hreadable, fun hno => absurd hpast hno⟩
  rw [expired_current hreadable hpast, Py.ok_bind, if_neg Bool.false_ne_true, hget, Py.ok_bind]
  by_cases hdigest : entry ra "request_digest" = .str (crypto.sha256Hex rawBody)
  case neg =>
    have hmismatch : (entry ra "request_digest").str? ≠ some (crypto.sha256Hex rawBody) := by
      intro h
      apply hdigest
      cases hvalue : entry ra "request_digest" with
      | str text =>
        rw [hvalue] at h
        exact congrArg Json.str (Option.some.inj h)
      | _ =>
        rw [hvalue] at h
        cases h
    rw [if_pos hmismatch]
    apply iff_of_true
    · exact ⟨_, rfl, fun hvalid => absurd hvalid Bool.false_ne_true⟩
    · exact ⟨hreadable, fun _ h => absurd h hdigest⟩
  have hmatch : ¬ (entry ra "request_digest").str? ≠ some (crypto.sha256Hex rawBody) := by
    rw [hdigest]
    exact not_not.mpr rfl
  rw [if_neg hmatch]
  have hsigned : SignedDecided crypto ra rawBody requestJson ↔ ∃ request,
      requestJson = .obj request ∧
        LimitsDecided (comparedLimit request) (otherLimit request) (entry ra "max_tokens") :=
    ⟨fun h => h.limits hpast hdigest, fun h => ⟨hreadable, fun _ _ => h⟩⟩
  rw [hsigned]
  constructor
  · rintro ⟨result, hresult, hwithin⟩
    rw [Py.bind_eq_ok] at hresult
    obtain ⟨found, hfound, hresult⟩ := hresult
    cases requestJson with
    | obj request =>
        refine ⟨request, rfl, (exceedsMaxTokens_iff ra request).mp ⟨found, hfound, ?_⟩⟩
        rintro rfl
        cases hresult
        exact hwithin rfl
    | _ => cases hfound
  · rintro ⟨request, rfl, hlimits⟩
    obtain ⟨found, hfound, hwithin⟩ := (exceedsMaxTokens_iff ra request).mpr hlimits
    rw [hfound, Py.ok_bind]
    cases found with
    | none => exact ⟨_, rfl, fun _ => hwithin rfl⟩
    | some _ => exact ⟨_, rfl, fun hvalid => absurd hvalid Bool.false_ne_true⟩

/-- The evaluation of an attestation whose bytes parse. -/
theorem evaluateDecoded_iff (crypto : AttestationCrypto) {raBytes : Bytes}
    (sigBytes pubkeyPem rawBody : Bytes) (requestJson : Json) {ra : Json}
    (hloads : crypto.loads raBytes = .ok ra) :
    (∃ result, evaluateDecoded crypto raBytes sigBytes pubkeyPem rawBody requestJson = .ok result ∧
      (result.valid = true → WithinCeiling ra requestJson)) ↔
      ∃ members, ra = .obj members ∧ (crypto.verify pubkeyPem sigBytes raBytes = .verified →
        SignedDecided crypto members rawBody requestJson) := by
  simp only [evaluateDecoded, hloads]
  cases ra with
  | obj members =>
      have hnonce : Json.get (.obj members) "nonce" = .ok (entry members "nonce") := rfl
      have hobj : (∃ other, Json.obj members = .obj other ∧
          (crypto.verify pubkeyPem sigBytes raBytes = .verified →
            SignedDecided crypto other rawBody requestJson)) ↔
          (crypto.verify pubkeyPem sigBytes raBytes = .verified →
            SignedDecided crypto members rawBody requestJson) := by
        constructor
        · rintro ⟨other, hother, h⟩
          cases hother
          exact h
        · exact fun h => ⟨members, rfl, h⟩
      rw [hobj, hnonce, Py.ok_bind]
      cases crypto.verify pubkeyPem sigBytes raBytes with
      | verified =>
        rw [evaluateSigned_iff]
        exact ⟨fun h _ => h, fun h => h rfl⟩
      | invalidSignature =>
        exact iff_of_true ⟨_, rfl, fun hvalid ↦ absurd hvalid Bool.false_ne_true⟩ fun h ↦ nomatch h
      | failed text =>
        exact iff_of_true ⟨_, rfl, fun hvalid => absurd hvalid Bool.false_ne_true⟩
          fun h => nomatch h
  | _ =>
      apply iff_of_false
      · rintro ⟨result, hresult, -⟩
        cases hresult
      · rintro ⟨members, hmembers, -⟩
        cases hmembers

/-- Headers that present an attestation with a signature and a key, all in base64. -/
def Presents (crypto : AttestationCrypto) (headers : Headers)
    (raBytes sigBytes pubkeyPem : Bytes) : Prop :=
  ∃ raB64 sigB64 pubkeyB64, headers.nonEmpty BILATERAL_RA_HEADER = some raB64 ∧
    headers.nonEmpty BILATERAL_RA_SIG_HEADER = some sigB64 ∧
    headers.nonEmpty BILATERAL_PUBKEY_HEADER = some pubkeyB64 ∧
    decodeHeaders crypto raB64 sigB64 pubkeyB64 = .ok (raBytes, sigBytes, pubkeyPem)

theorem Presents.unique {crypto : AttestationCrypto} {headers : Headers}
    {raBytes sigBytes pubkeyPem raBytes' sigBytes' pubkeyPem' : Bytes}
    (h : Presents crypto headers raBytes sigBytes pubkeyPem)
    (h' : Presents crypto headers raBytes' sigBytes' pubkeyPem') :
    raBytes = raBytes' ∧ sigBytes = sigBytes' ∧ pubkeyPem = pubkeyPem' := by
  obtain ⟨_, _, _, hra, hsig, hkey, hdecode⟩ := h
  obtain ⟨_, _, _, hra', hsig', hkey', hdecode'⟩ := h'
  cases hra.symm.trans hra'
  cases hsig.symm.trans hsig'
  cases hkey.symm.trans hkey'
  cases hdecode.symm.trans hdecode'
  exact ⟨rfl, rfl, rfl⟩

/-- Nothing is evaluated where the headers do not present an attestation. -/
theorem boundedOnAccept_of_not_presents {crypto : AttestationCrypto} {headers : Headers}
    {rawBody : Bytes} {requestJson : Json}
    (h : ∀ raBytes sigBytes pubkeyPem, ¬ Presents crypto headers raBytes sigBytes pubkeyPem) :
    BoundedOnAccept crypto headers rawBody requestJson := by
  rw [BoundedOnAccept, evaluateBilateralAttestation]
  cases hra : headers.nonEmpty BILATERAL_RA_HEADER with
  | none => exact ⟨_, rfl, fun hvalid => absurd hvalid Bool.false_ne_true⟩
  | some raB64 =>
      cases hsig : headers.nonEmpty BILATERAL_RA_SIG_HEADER with
      | none => exact ⟨_, rfl, fun hvalid => absurd hvalid Bool.false_ne_true⟩
      | some sigB64 =>
        cases hkey : headers.nonEmpty BILATERAL_PUBKEY_HEADER with
        | none => exact ⟨_, rfl, fun hvalid => absurd hvalid Bool.false_ne_true⟩
        | some pubkeyB64 =>
          cases hdecode : decodeHeaders crypto raB64 sigB64 pubkeyB64 with
          | error text =>
            simp only [hdecode]
            exact ⟨_, rfl, fun hvalid => absurd hvalid Bool.false_ne_true⟩
          | ok decoded =>
            exact absurd ⟨raB64, sigB64, pubkeyB64, hra, hsig, hkey, hdecode⟩
              (h decoded.1 decoded.2.1 decoded.2.2)

theorem evaluate_of_presents {crypto : AttestationCrypto} {headers : Headers}
    {raBytes sigBytes pubkeyPem : Bytes} (rawBody : Bytes) (requestJson : Json)
    (h : Presents crypto headers raBytes sigBytes pubkeyPem) :
    evaluateBilateralAttestation crypto headers rawBody requestJson =
        evaluateDecoded crypto raBytes sigBytes pubkeyPem rawBody requestJson ∧
      presentedAttestation crypto headers = some raBytes := by
  obtain ⟨raB64, sigB64, pubkeyB64, hra, hsig, hkey, hdecode⟩ := h
  constructor
  · simp only [evaluateBilateralAttestation, hra, hsig, hkey, hdecode]
  · rw [presentedAttestation, hra]
    exact congrArg Except.toOption (decodeHeaders_attestation hdecode)

/-- The evaluation is bounded exactly when parsing the attestation raises nothing that is not
caught, and what it gets to read is an object with a readable window, and, where the signature, the
window and the digest all pass, the request is an object, the compared limit and the ceiling are
readable, and the limit that is not compared exceeds the ceiling only with the compared one. -/
theorem boundedOnAccept_iff (crypto : AttestationCrypto) (headers : Headers) (rawBody : Bytes)
    (requestJson : Json) :
    BoundedOnAccept crypto headers rawBody requestJson ↔
      ∀ raBytes sigBytes pubkeyPem, Presents crypto headers raBytes sigBytes pubkeyPem →
        (∀ e, crypto.loads raBytes ≠ .error (.escapes e)) ∧
        ∀ ra, crypto.loads raBytes = .ok ra →
          ∃ members, ra = .obj members ∧ (crypto.verify pubkeyPem sigBytes raBytes = .verified →
            SignedDecided crypto members rawBody requestJson) := by
  by_cases hpresents : ∃ raBytes sigBytes pubkeyPem,
      Presents crypto headers raBytes sigBytes pubkeyPem
  case neg =>
    apply iff_of_true
    · apply boundedOnAccept_of_not_presents
      intro raBytes sigBytes pubkeyPem h
      exact hpresents ⟨raBytes, sigBytes, pubkeyPem, h⟩
    · intro raBytes sigBytes pubkeyPem h
      exact absurd ⟨raBytes, sigBytes, pubkeyPem, h⟩ hpresents
  obtain ⟨raBytes, sigBytes, pubkeyPem, h⟩ := hpresents
  obtain ⟨heval, hattestation⟩ := evaluate_of_presents rawBody requestJson h
  rw [BoundedOnAccept, heval, hattestation]
  cases hloads : crypto.loads raBytes with
  | error failure =>
      cases failure with
      | caught text =>
        apply iff_of_true
        · rw [evaluateDecoded, hloads]
          exact ⟨_, rfl, fun hvalid => absurd hvalid Bool.false_ne_true⟩
        · intro raBytes' sigBytes' pubkeyPem' h'
          obtain ⟨rfl, -, -⟩ := h'.unique h
          constructor
          · intro e he
            cases hloads.symm.trans he
          · intro ra hra
            cases hloads.symm.trans hra
      | escapes e =>
        apply iff_of_false
        · rintro ⟨result, hresult, -⟩
          rw [evaluateDecoded, hloads] at hresult
          cases hresult
        · intro hdecided
          exact (hdecided _ _ _ h).1 e hloads
  | ok ra =>
      have hiff := evaluateDecoded_iff crypto sigBytes pubkeyPem rawBody requestJson hloads
      constructor
      · rintro ⟨result, hresult, hwithin⟩ raBytes' sigBytes' pubkeyPem' h'
        obtain ⟨rfl, rfl, rfl⟩ := h'.unique h
        constructor
        · intro e he
          cases hloads.symm.trans he
        · intro ra' hra
          cases hloads.symm.trans hra
          exact hiff.mp ⟨result, hresult, fun hvalid => hwithin hvalid _ _ rfl hloads⟩
      · intro hdecided
        obtain ⟨result, hresult, hwithin⟩ := hiff.mpr ((hdecided _ _ _ h).2 _ hloads)
        refine ⟨result, hresult, fun hvalid raBytes' ra' hbytes hra => ?_⟩
        cases hbytes
        cases hloads.symm.trans hra
        exact hwithin hvalid

/-- The attestation `{"request_digest": "digest", "max_tokens": 5}`, whose signature verifies. -/
def ceilingCrypto : AttestationCrypto where
  urlsafeB64decode := fun _ => .ok []
  loads := fun _ => .ok (.obj [("request_digest", .str "digest"), ("max_tokens", .int 5)])
  verify := fun _ _ _ => .verified
  sha256Hex := fun _ => "digest"
  checkTime := fun _ => .current

/-- A request for one token in one field and a million in the other is accepted under a ceiling of
five. -/
theorem million_tokens_accepted :
    ∃ result, evaluateBilateralAttestation ceilingCrypto (fun _ => some "header") []
        (.obj [("max_tokens", .int 1), ("max_completion_tokens", .int 1000000)]) = .ok result ∧
      result.valid = true ∧
      ¬ WithinCeiling (.obj [("request_digest", .str "digest"), ("max_tokens", .int 5)])
        (.obj [("max_tokens", .int 1), ("max_completion_tokens", .int 1000000)]) := by
  refine ⟨_, rfl, rfl, fun hwithin => ?_⟩
  apply hwithin "max_completion_tokens" (by simp) (.int 1000000) (.int 5) rfl rfl
  exact ⟨1000000, 5, rfl, rfl, by decide⟩

end CapsuleMesh.Sidecar
