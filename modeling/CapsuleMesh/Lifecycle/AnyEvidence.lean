import CapsuleMesh.Lifecycle.RoundTrip
import CapsuleMesh.Python.Dumps
import CapsuleMesh.Python.Order

/-!
# Evidence of any type

The two checks of the requester's evidence and `verify_record_bytes`, on JSON values of any
type.  The first half says exactly when the checks return and when a binding is reported valid
on an expiry that is later than the clock; the second half walks the reader's checks in order,
and says which records it reads without an exception that it does not document.
-/

namespace CapsuleMesh.Lifecycle

open Python Delegation Library.Raising

/-! ## Expiries -/

/-- `x <= n` for a float. -/
def floatLe (repr : String) (n : Int) : Bool :=
  !(Json.float repr).isNan && (decide ((Json.float repr).infinity < 0) ||
    decide ((Json.float repr).infinity = 0) && decide ((Json.float repr).finiteValue ≤ n))

/-- The checks with Python's own comparison of floats. -/
def pythonChecks (crypto : Crypto) (floatRepr : String → String) : Checks :=
  ⟨crypto, floatLe, floatRepr⟩

/-- A number that is strictly later than the clock. -/
def IsLater (now : Int) : Json → Prop
  | .int n => now < n
  | .float repr => (Json.int now).numLt (.float repr) = true
  | _ => False

/-- `isinstance(x, (int, float))` lets a boolean pass, and `x <= now` is false for a NaN. -/
def Comparable : Json → Prop
  | .bool _ => False
  | .float repr => repr ≠ "nan"
  | _ => True

theorem floatLe_eq_false {repr : String} {now : Int} (hnan : repr ≠ "nan") :
    floatLe repr now = false ↔ (Json.int now).numLt (.float repr) = true := by
  have hint : (Json.int now).infinity = 0 := rfl
  have hvalue : (Json.int now).finiteValue = now := rfl
  have hnumber : (Json.int now).isNan = false := rfl
  have hfloat : (Json.float repr).isNan = false := by simp [Json.isNan, hnan]
  simp only [floatLe, Json.numLt, hint, hvalue, hnumber, hfloat, Bool.not_false, Bool.true_and,
    Bool.or_eq_false_iff, Bool.and_eq_false_iff, Bool.or_eq_true, Bool.and_eq_true,
    decide_eq_true_eq, decide_eq_false_iff_not, not_lt, not_le]
  constructor
  · rintro ⟨hnonneg, hne | hlt⟩
    · exact .inl (lt_of_le_of_ne hnonneg (Ne.symm hne))
    · obtain h | h := hnonneg.lt_or_eq
      · exact .inl h
      · exact .inr ⟨h, hlt⟩
  · rintro (hpos | ⟨hzero, hlt⟩)
    · exact ⟨hpos.le, .inl hpos.ne'⟩
    · exact ⟨hzero.le, .inr hlt⟩

theorem isLater_iff (crypto : Crypto) (floatRepr : String → String) (now : Int) (expiry : Json) :
    IsLater now expiry ↔
      unexpired (pythonChecks crypto floatRepr) expiry now = true ∧ Comparable expiry := by
  cases expiry with
  | int n => simp [IsLater, unexpired, Comparable]
  | float repr =>
      simp only [IsLater, unexpired, Comparable, pythonChecks, Bool.not_eq_true']
      constructor
      · intro hlater
        have hnan : repr ≠ "nan" := by
          rintro rfl
          simp [Json.numLt, Json.isNan] at hlater
        exact ⟨(floatLe_eq_false hnan).mpr hlater, hnan⟩
      · rintro ⟨hle, hnan⟩
        exact (floatLe_eq_false hnan).mp hle
  | _ => simp [IsLater, unexpired, Comparable]

/-! ## The two checks -/

/-- `None` or a dictionary. -/
def DictOrNull (j : Json) : Prop := j = .null ∨ ∃ members, j = .obj members

def Hashable (j : Json) : Prop := ∃ key, j.key = .ok key

/-- `block.get(key)`. -/
def field (members : List (String × Json)) (key : String) : Json :=
  (members.lookup key).getD .null

theorem verifyRequesterCommitment_returns (crypto : Crypto)
    (commitment expectedRequestDigest expectedExchangeId : Json) :
    (∃ result, verifyRequesterCommitment crypto commitment expectedRequestDigest
      expectedExchangeId = .ok result) ↔ DictOrNull commitment := by
  cases commitment with
  | null => exact iff_of_true ⟨_, rfl⟩ (.inl rfl)
  | obj members =>
      obtain ⟨result, hresult, -⟩ := verifyRequesterCommitment_obj crypto members
        expectedRequestDigest expectedExchangeId
      exact iff_of_true ⟨result, hresult⟩ (.inr ⟨members, rfl⟩)
  | _ =>
      constructor
      · rintro ⟨result, hresult⟩
        cases hresult
      · rintro (h | ⟨members, h⟩) <;> cases h

/-- What a valid commitment is, for a value of any type. -/
def CommitmentGood (crypto : Crypto) (commitment requestDigest exchangeId : Json) : Prop :=
  ∃ members, commitment = .obj members ∧ CommitmentAccepted crypto members requestDigest exchangeId

/-- The binding that the check lets pass. -/
def BindingAccepted (checks : Checks) (binding : Json) (commitmentKey : String) (now : Int)
    (revokedCertIds : List String) : Prop :=
  ∃ members, binding = .obj members ∧ BindingCurrent checks members commitmentKey now ∧
    listed (certIdOf members) revokedCertIds = false

/-- `BindingAccepted`, on an expiry that is later than the clock. -/
def BindingGood (checks : Checks) (binding : Json) (commitmentKey : String) (now : Int)
    (revokedCertIds : List String) : Prop :=
  ∃ members, binding = .obj members ∧ BindingCurrent checks members commitmentKey now ∧
    listed (certIdOf members) revokedCertIds = false ∧
    IsLater now (field members "expires_at_unix_ms")

/-- A binding of which the check says what it has to: a dictionary, where the id of one that is
in order is hashable, and its expiry neither a boolean nor a NaN unless it is revoked. -/
def BindingReadable (checks : Checks) (binding : Json) (commitmentKey : String) (now : Int)
    (revokedCertIds : List String) : Prop :=
  binding = .null ∨ ∃ members, binding = .obj members ∧
    (BindingCurrent checks members commitmentKey now → Hashable (certIdOf members) ∧
      (listed (certIdOf members) revokedCertIds = false →
        Comparable (field members "expires_at_unix_ms")))

section

variable (checks : Checks) (binding : Json) (commitmentKey : String) (now : Int)
  (revokedCertIds : List String)

theorem verifyRequesterIdentityBinding_valid {verdict : IdentityBindingVerdict}
    (h : verifyRequesterIdentityBinding checks binding (.str commitmentKey) now revokedCertIds =
      .ok verdict) :
    verdict.valid = true ↔ BindingAccepted checks binding commitmentKey now revokedCertIds := by
  cases binding with
  | null =>
      obtain rfl := Except.ok.inj h
      apply iff_of_false Bool.false_ne_true
      rintro ⟨members, hnull, -⟩
      cases hnull
  | obj members =>
      have houtcome := verifyRequesterIdentityBinding_obj checks members now revokedCertIds
        commitmentKey
      rw [h] at houtcome
      by_cases hcurrent : BindingCurrent checks members commitmentKey now
      · cases hkey : (certIdOf members).key with
        | error e => cases houtcome.unhashable hcurrent e hkey
        | ok key =>
          obtain ⟨_, heq, hvalid⟩ := houtcome.hashable hcurrent key hkey
          obtain rfl := Except.ok.inj heq
          rw [hvalid]
          constructor
          · intro hlisted
            exact ⟨members, rfl, hcurrent, hlisted⟩
          · rintro ⟨_, hmembers, -, hlisted⟩
            obtain rfl := Json.obj.inj hmembers
            exact hlisted
      · obtain ⟨_, heq, hvalid⟩ := houtcome.otherwise hcurrent
        obtain rfl := Except.ok.inj heq
        apply iff_of_false (by simp [hvalid])
        rintro ⟨_, hmembers, haccepted, -⟩
        obtain rfl := Json.obj.inj hmembers
        exact hcurrent haccepted
  | _ => cases h

theorem verifyRequesterIdentityBinding_returns :
    (∃ verdict, verifyRequesterIdentityBinding checks binding (.str commitmentKey) now
      revokedCertIds = .ok verdict) ↔
      binding = .null ∨ ∃ members, binding = .obj members ∧
        (BindingCurrent checks members commitmentKey now → Hashable (certIdOf members)) := by
  cases binding with
  | null => exact iff_of_true ⟨_, rfl⟩ (.inl rfl)
  | obj members =>
      have houtcome := verifyRequesterIdentityBinding_obj checks members now revokedCertIds
        commitmentKey
      constructor
      · rintro ⟨verdict, hverdict⟩
        refine .inr ⟨members, rfl, fun hcurrent => ?_⟩
        cases hkey : (certIdOf members).key with
        | error e =>
          rw [houtcome.unhashable hcurrent e hkey] at hverdict
          cases hverdict
        | ok key => exact ⟨key, hkey⟩
      · rintro (hnull | ⟨_, hmembers, hhashable⟩)
        · cases hnull
        · obtain rfl := Json.obj.inj hmembers
          by_cases hcurrent : BindingCurrent checks members commitmentKey now
          · obtain ⟨key, hkey⟩ := hhashable hcurrent
            obtain ⟨verdict, hverdict, -⟩ := houtcome.hashable hcurrent key hkey
            exact ⟨verdict, hverdict⟩
          · obtain ⟨verdict, hverdict, -⟩ := houtcome.otherwise hcurrent
            exact ⟨verdict, hverdict⟩
  | _ =>
      constructor
      · rintro ⟨verdict, hverdict⟩
        cases hverdict
      · rintro (h | ⟨members, h, -⟩) <;> cases h

/-- A binding is reported valid on an expiry that is later than the clock. -/
def VerdictSound (verdict : IdentityBindingVerdict) : Prop :=
  verdict.valid = true →
    ∃ members, binding = .obj members ∧ IsLater now (field members "expires_at_unix_ms")

end

section

variable (crypto : Crypto) (floatRepr : String → String) (binding : Json) (commitmentKey : String)
  (now : Int) (revokedCertIds : List String)

/-- A binding that is let pass is good where its expiry can be compared. -/
theorem bindingReadable_iff :
    BindingReadable (pythonChecks crypto floatRepr) binding commitmentKey now revokedCertIds ↔
      (∃ verdict, verifyRequesterIdentityBinding (pythonChecks crypto floatRepr) binding
        (.str commitmentKey) now revokedCertIds = .ok verdict) ∧
      (BindingAccepted (pythonChecks crypto floatRepr) binding commitmentKey now revokedCertIds →
        BindingGood (pythonChecks crypto floatRepr) binding commitmentKey now revokedCertIds) := by
  rw [verifyRequesterIdentityBinding_returns]
  constructor
  · rintro (rfl | ⟨members, rfl, hreadable⟩)
    · refine ⟨.inl rfl, ?_⟩
      rintro ⟨members, hnull, -⟩
      cases hnull
    · refine ⟨.inr ⟨members, rfl, fun hcurrent => (hreadable hcurrent).1⟩, ?_⟩
      rintro ⟨_, hmembers, hcurrent, hlisted⟩
      obtain rfl := Json.obj.inj hmembers
      have hcomparable := (hreadable hcurrent).2 hlisted
      exact ⟨members, rfl, hcurrent, hlisted,
        (isLater_iff crypto floatRepr now _).mpr ⟨hcurrent.unexpired, hcomparable⟩⟩
  · rintro ⟨rfl | ⟨members, rfl, hhashable⟩, hgood⟩
    · exact .inl rfl
    · refine .inr ⟨members, rfl, fun hcurrent => ⟨hhashable hcurrent, fun hlisted => ?_⟩⟩
      obtain ⟨_, hmembers, -, -, hlater⟩ := hgood ⟨members, rfl, hcurrent, hlisted⟩
      obtain rfl := Json.obj.inj hmembers
      exact ((isLater_iff crypto floatRepr now _).mp hlater).2

theorem verifyRequesterIdentityBinding_sound :
    (∃ verdict, verifyRequesterIdentityBinding (pythonChecks crypto floatRepr) binding
        (.str commitmentKey) now revokedCertIds = .ok verdict ∧ VerdictSound binding now verdict) ↔
      BindingReadable (pythonChecks crypto floatRepr) binding commitmentKey now revokedCertIds := by
  rw [bindingReadable_iff]
  constructor
  · rintro ⟨verdict, hverdict, hsound⟩
    refine ⟨⟨verdict, hverdict⟩, fun haccepted => ?_⟩
    have hvalid := (verifyRequesterIdentityBinding_valid _ _ _ _ _ hverdict).mpr haccepted
    obtain ⟨members, rfl, hcurrent, hlisted⟩ := haccepted
    obtain ⟨_, hmembers, hlater⟩ := hsound hvalid
    obtain rfl := Json.obj.inj hmembers
    exact ⟨members, rfl, hcurrent, hlisted, hlater⟩
  · rintro ⟨⟨verdict, hverdict⟩, hgood⟩
    refine ⟨verdict, hverdict, fun hvalid => ?_⟩
    obtain ⟨members, hmembers, -, -, hlater⟩ :=
      hgood ((verifyRequesterIdentityBinding_valid _ _ _ _ _ hverdict).mp hvalid)
    exact ⟨members, hmembers, hlater⟩

end

/-! ## The rung -/

/-- The rung says which evidence is good, and bad evidence lowers it. -/
structure RungFollows (committed bound : Prop) (rung : Rung) : Prop where
  fullBilateral : rung = .fullBilateral ↔ committed ∧ bound
  acknowledgedReceipt : rung = .acknowledgedReceipt ↔ committed ∧ ¬bound
  unilateralFallback : rung = .unilateralFallback ↔ ¬committed

/-- The key of the commitment has a good binding. -/
def KeyBound (checks : Checks) (commitment binding : Json) (now : Int)
    (revokedCertIds : List String) : Prop :=
  ∃ members key, commitment = .obj members ∧ members.lookup "public_key" = some (.str key) ∧
    BindingGood checks binding key now revokedCertIds

/-- Evidence that the derivation of the rung copes with. -/
structure EvidenceReadable (checks : Checks) (commitment requestDigest exchangeId binding : Json)
    (now : Int) (revokedCertIds : List String) : Prop where
  dictOrNull : DictOrNull commitment
  readable : ∀ members key, commitment = .obj members →
    CommitmentAccepted checks.crypto members requestDigest exchangeId →
    members.lookup "public_key" = some (.str key) →
    BindingReadable checks binding key now revokedCertIds

section

variable (crypto : Crypto) (floatRepr : String → String)
  (commitment requestDigest exchangeId binding : Json) (now : Int) (revokedCertIds : List String)

/-- Without a valid commitment the binding is not looked at. -/
theorem deriveCrossPartyRung_unilateral (checks : Checks) {result : Bool × String}
    (hresult : verifyRequesterCommitment checks.crypto commitment requestDigest exchangeId =
      .ok result) (hinvalid : result.1 = false) :
    ∃ derived, deriveCrossPartyRung checks commitment requestDigest exchangeId binding now
      revokedCertIds = .ok derived ∧ derived.rung = .unilateralFallback := by
  obtain ⟨valid, reason⟩ := result
  obtain rfl : valid = false := hinvalid
  rw [deriveCrossPartyRung, hresult]
  exact ⟨_, rfl, rfl⟩

/-- With one, the rung is what the check of the binding says. -/
theorem deriveCrossPartyRung_committed (checks : Checks) {members : List (String × Json)}
    {key : String} (haccepted : CommitmentAccepted checks.crypto members requestDigest exchangeId)
    (hkey : members.lookup "public_key" = some (.str key)) (post : Rung → Prop) :
    (∃ derived, deriveCrossPartyRung checks (.obj members) requestDigest exchangeId binding now
        revokedCertIds = .ok derived ∧ post derived.rung) ↔
      ∃ verdict, verifyRequesterIdentityBinding checks binding (.str key) now revokedCertIds =
        .ok verdict ∧ post (if verdict.valid then .fullBilateral else .acknowledgedReceipt) := by
  obtain ⟨⟨valid, reason⟩, hresult, hiff⟩ :=
    verifyRequesterCommitment_obj checks.crypto members requestDigest exchangeId
  obtain rfl : valid = true := hiff.mpr haccepted
  rw [deriveCrossPartyRung, hresult]
  simp only [Py.ok_bind, Bool.not_true, Bool.false_eq_true, if_false, Json.obj_or_empty,
    Json.getD_obj, hkey, Option.getD_some]
  constructor
  · rintro ⟨derived, hderived, hpost⟩
    obtain ⟨verdict, hverdict, hderived⟩ := Py.bind_eq_ok.mp hderived
    obtain rfl := Except.ok.inj hderived
    exact ⟨verdict, hverdict, hpost⟩
  · rintro ⟨verdict, hverdict, hpost⟩
    rw [hverdict]
    exact ⟨_, rfl, hpost⟩

theorem rungFollows_unilateral {committed bound : Prop} (h : ¬committed) :
    RungFollows committed bound .unilateralFallback where
  fullBilateral := by simp [h]
  acknowledgedReceipt := by simp [h]
  unilateralFallback := by simp [h]

/-- Under a good commitment the rung follows the evidence when it follows the binding. -/
theorem rungFollows_committed {committed bound : Prop} (h : committed) {valid : Bool} :
    RungFollows committed bound (if valid then .fullBilateral else .acknowledgedReceipt) ↔
      (valid = true ↔ bound) := by
  constructor
  · intro hfollows
    cases valid with
    | true => exact iff_of_true rfl (hfollows.fullBilateral.mp rfl).2
    | false => exact iff_of_false Bool.false_ne_true (hfollows.acknowledgedReceipt.mp rfl).2
  · intro hiff
    cases valid with
    | true =>
        have hbound := hiff.mp rfl
        exact ⟨by simp [h, hbound], by simp [hbound], by simp [h]⟩
    | false =>
        have hbound := mt hiff.mpr Bool.false_ne_true
        exact ⟨by simp [hbound], by simp [h, hbound], by simp [h]⟩

theorem keyBound_iff {checks : Checks} {members : List (String × Json)} {key : String}
    (hkey : members.lookup "public_key" = some (.str key)) :
    KeyBound checks (.obj members) binding now revokedCertIds ↔
      BindingGood checks binding key now revokedCertIds := by
  constructor
  · rintro ⟨_, _, hmembers, hkey', hgood⟩
    obtain rfl := Json.obj.inj hmembers
    obtain rfl := Json.str.inj (Option.some.inj (hkey.symm.trans hkey'))
    exact hgood
  · intro hgood
    exact ⟨members, key, rfl, hkey, hgood⟩

theorem accepted_of_good {checks : Checks} {key : String}
    (h : BindingGood checks binding key now revokedCertIds) :
    BindingAccepted checks binding key now revokedCertIds := by
  obtain ⟨members, hmembers, hcurrent, hlisted, -⟩ := h
  exact ⟨members, hmembers, hcurrent, hlisted⟩

/-- The rung is derived, and follows the evidence, exactly where the evidence is readable. -/
theorem deriveCrossPartyRung_follows :
    (∃ derived, deriveCrossPartyRung (pythonChecks crypto floatRepr) commitment requestDigest
        exchangeId binding now revokedCertIds = .ok derived ∧
      RungFollows (CommitmentGood crypto commitment requestDigest exchangeId)
        (KeyBound (pythonChecks crypto floatRepr) commitment binding now revokedCertIds)
        derived.rung) ↔
      EvidenceReadable (pythonChecks crypto floatRepr) commitment requestDigest exchangeId binding
        now revokedCertIds := by
  by_cases hdict : DictOrNull commitment
  · obtain ⟨result, hresult⟩ := (verifyRequesterCommitment_returns crypto commitment requestDigest
      exchangeId).mpr hdict
    by_cases hgood : CommitmentGood crypto commitment requestDigest exchangeId
    · obtain ⟨members, rfl, haccepted⟩ := hgood
      have hgood : CommitmentGood crypto (.obj members) requestDigest exchangeId :=
        ⟨members, rfl, haccepted⟩
      obtain ⟨key, -, -, -, hkey, -⟩ := haccepted.signed
      rw [deriveCrossPartyRung_committed requestDigest exchangeId binding now revokedCertIds
        (pythonChecks crypto floatRepr) haccepted hkey]
      simp only [rungFollows_committed hgood, keyBound_iff binding now revokedCertIds hkey]
      constructor
      · rintro ⟨verdict, hverdict, hiff⟩
        refine ⟨hdict, fun _ key' hmembers _ hkey' => ?_⟩
        obtain rfl := Json.obj.inj hmembers
        obtain rfl := Json.str.inj (Option.some.inj (hkey.symm.trans hkey'))
        rw [bindingReadable_iff]
        refine ⟨⟨verdict, hverdict⟩, fun haccepted => ?_⟩
        exact hiff.mp ((verifyRequesterIdentityBinding_valid _ _ _ _ _ hverdict).mpr haccepted)
      · rintro ⟨-, hreadable⟩
        obtain ⟨⟨verdict, hverdict⟩, hsound⟩ := (bindingReadable_iff _ _ _ _ _ _).mp
          (hreadable members key rfl haccepted hkey)
        refine ⟨verdict, hverdict, ?_⟩
        rw [verifyRequesterIdentityBinding_valid _ _ _ _ _ hverdict]
        exact ⟨hsound, accepted_of_good binding now revokedCertIds⟩
    · have hinvalid : result.1 = false := by
        rw [← Bool.not_eq_true]
        intro hvalid
        obtain rfl | ⟨members, rfl⟩ := hdict
        · obtain rfl := Except.ok.inj hresult
          cases hvalid
        · obtain ⟨_, heq, hiff⟩ :=
            verifyRequesterCommitment_obj crypto members requestDigest exchangeId
          obtain rfl := Except.ok.inj (hresult.symm.trans heq)
          exact hgood ⟨members, rfl, hiff.mp hvalid⟩
      obtain ⟨derived, hderived, hrung⟩ := deriveCrossPartyRung_unilateral commitment requestDigest
        exchangeId binding now revokedCertIds (pythonChecks crypto floatRepr) hresult hinvalid
      apply iff_of_true
      · refine ⟨derived, hderived, ?_⟩
        rw [hrung]
        exact rungFollows_unilateral hgood
      · refine ⟨hdict, fun members key hmembers haccepted _ => ?_⟩
        exact absurd ⟨members, hmembers, haccepted⟩ hgood
  · apply iff_of_false
    · rintro ⟨derived, hderived, -⟩
      obtain ⟨result, hresult, -⟩ := Py.bind_eq_ok.mp hderived
      exact hdict ((verifyRequesterCommitment_returns _ _ _ _).mp ⟨result, hresult⟩)
    · intro hreadable
      exact hdict hreadable.dictOrNull

end

/-! ## The checks of the reader, in order -/

/-- The exceptions that `verify_record_bytes` documents for a JSON object. -/
def RecordError.Documented : RecordError → Prop
  | .python _ => False
  | _ => True

section

variable {α : Type} {post : α → Prop}

theorem ensures_ofPy {x : Py α} :
    Ensures post RecordError.Documented (Reading.ofPy x) ↔ ∃ a, x = .ok a ∧ post a := by
  rw [Reading.ofPy, Ensures.mapError_iff]
  exact Ensures.returns_iff

variable (options : VerifyOptions) {value : Json} {post : Prop}

theorem ensures_isKnown {known : List String} {post : Bool → Prop} :
    Ensures post RecordError.Documented (isKnown value known) ↔
      Hashable value ∧ post (listed value known) := by
  simp only [isKnown, Ensures.bind_iff, ensures_ofPy, Ensures.pure_iff, Hashable]
  constructor
  · rintro ⟨key, hkey, hpost⟩
    exact ⟨⟨key, hkey⟩, hpost⟩
  · rintro ⟨⟨key, hkey⟩, hpost⟩
    exact ⟨key, hkey, hpost⟩

def StateKnown (options : VerifyOptions) (value : Json) : Prop :=
  options.requireKnownTerminalState = true → listed value TERMINAL_STATES = true

def PointKnown (options : VerifyOptions) (value : Json) : Prop :=
  options.requireKnownObservationPoint = true →
    value = .null ∨ listed value OBSERVATION_POINTS = true

theorem isNull_eq_true {j : Json} : j.isNull = true ↔ j = .null := by
  cases j <;> simp [Json.isNull]

theorem listed_null (ids : List String) : listed .null ids = false := by
  simp [listed, Json.pyEq, Json.numEq, Json.asInt]

/-- A text out of `known`, or a documented error. -/
theorem ensures_known {known : List String} {e : RecordError} (he : e.Documented)
    {post : Json → Prop} :
    Ensures post RecordError.Documented
        (do if ← isKnown value known then return value else throw e : Reading Json) ↔
      Hashable value ∧ (listed value known = true → post value) := by
  rw [Ensures.bind_iff, ensures_isKnown]
  cases listed value known with
  | true => simp
  | false => exact and_congr_right fun _ => iff_of_true he (by simp)

theorem ensures_terminalState :
    Ensures (fun _ => post) RecordError.Documented (options.terminalState value) ↔
      (options.requireKnownTerminalState = true → Hashable value) ∧
        (StateKnown options value → post) := by
  unfold VerifyOptions.terminalState StateKnown
  cases options.requireKnownTerminalState with
  | false => simp
  | true =>
      simp only [if_true, forall_const]
      unfold checkTerminalState
      by_cases hnull : value.isNull = true
      · obtain rfl := isNull_eq_true.mp hnull
        apply iff_of_true trivial
        exact ⟨⟨.null, rfl⟩, by simp [listed_null]⟩
      · rw [if_neg hnull]
        exact ensures_known (e := .unknownTerminalState value) trivial

theorem ensures_observationPoint {post : Json → Prop} :
    Ensures post RecordError.Documented (options.observationPoint value) ↔
      (options.requireKnownObservationPoint = true → Hashable value) ∧
        (PointKnown options value → post value) := by
  unfold VerifyOptions.observationPoint PointKnown
  cases options.requireKnownObservationPoint with
  | false => simp
  | true =>
      simp only [if_true, forall_const]
      unfold checkObservationPoint
      by_cases hnull : value.isNull = true
      · obtain rfl := isNull_eq_true.mp hnull
        simp [Json.isNull, Hashable, Json.key, Json.asInt]
      · have hne : value ≠ .null := mt isNull_eq_true.mpr hnull
        rw [if_neg hnull]
        simp only [hne, false_or]
        exact ensures_known (e := .unknownObservationPoint value) trivial

theorem ensures_checkExchangeId {post : Json → Prop} :
    Ensures post RecordError.Documented (checkExchangeId value) ↔
      (value.truthy = true → post value) := by
  unfold checkExchangeId
  split_ifs with htruthy
  · simp [htruthy]
  · simp [htruthy, RecordError.Documented]

/-- What the check of the provenance reads: a hashable point, and at the gateway a text. -/
def ProvenanceReadable (options : VerifyOptions) (point peer : Json) : Prop :=
  options.checkProvenance = true → point.truthy = true → Hashable point ∧
    (point.pyEq (.str "gateway_ingress") = true → ∃ text, peer = .str text)

theorem checkVantagePointProvenance_returns {point peer : Json} :
    (∃ findings, checkVantagePointProvenance point peer = .ok findings) ↔ Hashable point ∧
      (point.pyEq (.str "gateway_ingress") = true → ∃ text, peer = .str text) := by
  unfold checkVantagePointProvenance Hashable
  cases point.key with
  | error e =>
      constructor
      · rintro ⟨findings, h⟩
        obtain ⟨_, hkey, -⟩ := Py.bind_eq_ok.mp h
        cases hkey
      · rintro ⟨⟨_, hkey⟩, -⟩
        cases hkey
  | ok key =>
      simp only [Py.ok_bind, Except.ok.injEq, exists_eq', true_and]
      cases point.pyEq (.str "gateway_ingress") with
      | false => exact iff_of_true ⟨[], rfl⟩ fun h => absurd h Bool.false_ne_true
      | true =>
        simp only [if_true, forall_const]
        cases peer with
        | str text =>
          refine iff_of_true ?_ ⟨text, rfl⟩
          dsimp only
          split_ifs <;> exact ⟨_, rfl⟩
        | _ => simp

theorem ensures_findings {point peer : Json} :
    Ensures (fun _ => post) RecordError.Documented (options.findings point peer) ↔
      ProvenanceReadable options point peer ∧ post := by
  unfold VerifyOptions.findings ProvenanceReadable
  by_cases hchecked : (options.checkProvenance && point.truthy) = true
  · rw [if_pos hchecked, ensures_ofPy, ← checkVantagePointProvenance_returns]
    obtain ⟨hcheck, htruthy⟩ := Bool.and_eq_true_iff.mp hchecked
    simp only [hcheck, htruthy, forall_const, exists_and_right]
  · rw [if_neg hchecked, Ensures.ok_iff]
    have hnot : options.checkProvenance = true → ¬point.truthy = true :=
      fun hcheck htruthy => hchecked (Bool.and_eq_true_iff.mpr ⟨hcheck, htruthy⟩)
    constructor
    · intro hpost
      exact ⟨fun hcheck htruthy => absurd htruthy (hnot hcheck), hpost⟩
    · rintro ⟨-, hpost⟩
      exact hpost

/-! ## The counts -/

theorem getD_eq_ok {j : Json} {key : String} {default v : Json} :
    j.getD key default = .ok v ↔
      ∃ members, j = .obj members ∧ (members.lookup key).getD default = v := by
  cases j <;> simp [Json.getD]

theorem get_eq_ok {j : Json} {key : String} {v : Json} :
    j.get key = .ok v ↔ ∃ members, j = .obj members ∧ field members key = v := getD_eq_ok

theorem get_field (members : List (String × Json)) (key : String) :
    (Json.obj members).get key = .ok (field members key) := rfl

/-- What `verify_record_bytes` reads as numbers, and whether the transcript says it is complete. -/
structure CountsRead (block : List (String × Json)) (eventCount : Int) (expectedCount : Option Int)
    (complete : Bool) : Prop where
  attempt : ∃ attempt, ((block.lookup "attempt").getD (.int 0)).toInt = .ok attempt
  transcript : ∃ members, (field block "transcript").or (.obj []) = .obj members ∧
    ((members.lookup "event_count").getD (.int 0)).toInt = .ok eventCount ∧
    countOrNone (field members "expected_count") = .ok expectedCount ∧
    ((members.lookup "complete").getD (.bool false)).truthy = complete

/-- A transcript that is labelled complete and has fewer events than expected. -/
def Short (eventCount : Int) (expectedCount : Option Int) (complete : Bool) : Prop :=
  complete = true ∧ ∃ expected, expectedCount = some expected ∧ eventCount < expected

theorem countOrNone_eq_ok {count : Json} {expectedCount : Option Int}
    (h : countOrNone count = .ok expectedCount) :
    (count.isNull = true ∧ expectedCount = none) ∨
      (count.isNull = false ∧ ∃ n, count.toInt = .ok n ∧ expectedCount = some n) := by
  unfold countOrNone at h
  split_ifs at h with hnull
  · obtain rfl := Except.ok.inj h
    exact .inl ⟨hnull, rfl⟩
  · obtain ⟨n, hn, h⟩ := Py.bind_eq_ok.mp h
    obtain rfl := Except.ok.inj h
    exact .inr ⟨Bool.not_eq_true _ ▸ hnull, n, hn, rfl⟩

/-- Where the counts can be read, the guard of the transcript raises its own error or returns. -/
theorem ensures_verifyTranscript {block : List (String × Json)} {eventCount : Int}
    {expectedCount : Option Int} {complete : Bool}
    (hcounts : CountsRead block eventCount expectedCount complete) :
    Ensures (fun _ => post) RecordError.Documented (verifyTranscript (.obj block)) ↔
      (¬Short eventCount expectedCount complete → post) := by
  obtain ⟨-, members, hmembers, hevents, hexpected, hcomplete⟩ := hcounts
  rw [verifyTranscript, get_field]
  simp only [Reading.ofPy_ok, Reading.ok_bind, hmembers, Json.getD_obj, get_field, hevents,
    hcomplete]
  cases complete with
  | false => simp [Short]
  | true =>
      obtain ⟨hnull, rfl⟩ | ⟨hnull, n, hn, rfl⟩ := countOrNone_eq_ok hexpected
      · simp [hnull, Short]
      · simp only [hnull, hn, Bool.not_false, Bool.and_self, if_true, Reading.ofPy_ok,
          Reading.ok_bind, Short, true_and, Option.some.injEq, exists_eq_left']
        split_ifs with hlt
        · exact iff_of_true trivial fun hnot => absurd hlt hnot
        · simp [hlt]

theorem CountsRead.unique {block : List (String × Json)} {eventCount eventCount' : Int}
    {expectedCount expectedCount' : Option Int} {complete complete' : Bool}
    (h : CountsRead block eventCount expectedCount complete)
    (h' : CountsRead block eventCount' expectedCount' complete') :
    eventCount = eventCount' ∧ expectedCount = expectedCount' ∧ complete = complete' := by
  obtain ⟨-, members, hmembers, hevents, hexpected, hcomplete⟩ := h
  obtain ⟨-, members', hmembers', hevents', hexpected', hcomplete'⟩ := h'
  obtain rfl := Json.obj.inj (hmembers.symm.trans hmembers')
  exact ⟨Except.ok.inj (hevents.symm.trans hevents'),
    Except.ok.inj (hexpected.symm.trans hexpected'), hcomplete.symm.trans hcomplete'⟩

/-- The counts as the reader takes them, one after the other, and the guard behind them. -/
theorem exists_countsRead_iff {block : List (String × Json)} :
    (∃ attempt, ((block.lookup "attempt").getD (.int 0)).toInt = .ok attempt ∧
      ∃ events, ((field block "transcript").or (.obj [])).getD "event_count" (.int 0) =
        .ok events ∧ ∃ eventCount, events.toInt = .ok eventCount ∧
      ∃ expected, ((field block "transcript").or (.obj [])).get "expected_count" = .ok expected ∧
        ∃ expectedCount, countOrNone expected = .ok expectedCount ∧
      Ensures (fun _ => post) RecordError.Documented (verifyTranscript (.obj block))) ↔
    ∃ eventCount expectedCount complete, CountsRead block eventCount expectedCount complete ∧
      (¬Short eventCount expectedCount complete → post) := by
  constructor
  · rintro ⟨attempt, hattempt, events, hevents, eventCount, hcount, expected, hexpected,
      expectedCount, hexpectedCount, hguard⟩
    obtain ⟨members, hmembers, rfl⟩ := getD_eq_ok.mp hevents
    obtain ⟨_, hmembers', rfl⟩ := get_eq_ok.mp hexpected
    obtain rfl := Json.obj.inj (hmembers.symm.trans hmembers')
    have hcounts : CountsRead block eventCount expectedCount _ :=
      ⟨⟨attempt, hattempt⟩, members, hmembers, hcount, hexpectedCount, rfl⟩
    exact ⟨eventCount, expectedCount, _, hcounts, (ensures_verifyTranscript hcounts).mp hguard⟩
  · rintro ⟨eventCount, expectedCount, complete, hcounts, hpost⟩
    have hguard := (ensures_verifyTranscript hcounts).mpr hpost
    obtain ⟨⟨attempt, hattempt⟩, members, hmembers, hevents, hexpected, -⟩ := hcounts
    exact ⟨attempt, hattempt, _, getD_eq_ok.mpr ⟨members, hmembers, rfl⟩, eventCount, hevents, _,
      get_eq_ok.mpr ⟨members, hmembers, rfl⟩, expectedCount, hexpected, hguard⟩

end

/-! ## The record -/

section

variable (checks : Checks) (options : VerifyOptions) (requestDigest : Json)
  (block : List (String × Json))

/-- No documented error stops the reader before the counts. -/
structure Proceeds : Prop where
  terminalState : StateKnown options (field block "terminal_state")
  observationPoint : PointKnown options (field block "observation_point")
  exchangeId : (field block "exchange_id").truthy = true

/-- The values of a block, each as far as the reader gets to it: states and points are hashable,
counts are numbers, and the evidence and the provenance are readable. -/
structure BlockReadable : Prop where
  terminalState : options.requireKnownTerminalState = true → Hashable (field block "terminal_state")
  observationPoint : StateKnown options (field block "terminal_state") →
    options.requireKnownObservationPoint = true → Hashable (field block "observation_point")
  counts : Proceeds options block →
    ∃ eventCount expectedCount complete, CountsRead block eventCount expectedCount complete
  evidence : Proceeds options block → ∀ eventCount expectedCount complete,
    CountsRead block eventCount expectedCount complete →
    ¬Short eventCount expectedCount complete →
    ProvenanceReadable options (field block "observation_point")
        ((block.lookup "local_peer_id").getD (.str "")) ∧
      EvidenceReadable checks (field block "requester_commitment") requestDigest
        (field block "exchange_id") (field block "requester_identity_binding") options.now
        options.revokedIdentityCertIds

/-- A record whose attestation is a dictionary, with no lifecycle block or a readable one. -/
def RecordReadable (record : List (String × Json)) : Prop :=
  ∃ attestation compute, (field record "model_attestation").or (.obj []) = .obj attestation ∧
    (field attestation "compute_attestation").or (.obj []) = .obj compute ∧
    (field compute "x-mesh-lifecycle-v1" = .null ∨
      ∃ block, field compute "x-mesh-lifecycle-v1" = .obj block ∧
        BlockReadable checks options ((compute.lookup "agent_input_digest").getD (.str "")) block)

/-- The rung of a verdict follows the evidence that the record carries. -/
def VerdictFollows (record : List (String × Json)) (verdict : LifecycleVerdict) : Prop :=
  ∀ compute block, computeAttestationOf (.obj record) = .ok (.obj compute) →
    field compute "x-mesh-lifecycle-v1" = .obj block →
    RungFollows
      (CommitmentGood checks.crypto (field block "requester_commitment")
        ((compute.lookup "agent_input_digest").getD (.str "")) (field block "exchange_id"))
      (KeyBound checks (field block "requester_commitment")
        (field block "requester_identity_binding") options.now options.revokedIdentityCertIds)
      verdict.crossPartyRung

theorem computeAttestationOf_obj {record : List (String × Json)} {j : Json} :
    computeAttestationOf (.obj record) = .ok j ↔ ∃ attestation,
      (field record "model_attestation").or (.obj []) = .obj attestation ∧
        (field attestation "compute_attestation").or (.obj []) = j := by
  simp only [computeAttestationOf, Py.bind_eq_ok, get_eq_ok, Json.obj.injEq]
  constructor
  · rintro ⟨ma, ⟨_, rfl, rfl⟩, ca, ⟨attestation, hattestation, rfl⟩, hj⟩
    exact ⟨attestation, hattestation, Except.ok.inj hj⟩
  · rintro ⟨attestation, hattestation, rfl⟩
    exact ⟨_, ⟨record, rfl, rfl⟩, _, ⟨attestation, hattestation, rfl⟩, rfl⟩

theorem verdictFollows_iff {record compute block : List (String × Json)}
    (hcompute : computeAttestationOf (.obj record) = .ok (.obj compute))
    (hblock : field compute "x-mesh-lifecycle-v1" = .obj block) {verdict : LifecycleVerdict} :
    VerdictFollows checks options record verdict ↔
      RungFollows
        (CommitmentGood checks.crypto (field block "requester_commitment")
          ((compute.lookup "agent_input_digest").getD (.str "")) (field block "exchange_id"))
        (KeyBound checks (field block "requester_commitment")
          (field block "requester_identity_binding") options.now options.revokedIdentityCertIds)
        verdict.rungResult.rung := by
  constructor
  · intro h
    exact h compute block hcompute hblock
  · rintro h compute' block' hcompute' hblock'
    obtain rfl := Json.obj.inj (Except.ok.inj (hcompute.symm.trans hcompute'))
    obtain rfl := Json.obj.inj (hblock.symm.trans hblock')
    exact h

theorem ensures_extractLifecycleBlock {record : List (String × Json)} {post : Json → Prop} :
    Ensures post RecordError.Documented (extractLifecycleBlock (.obj record)) ↔
      ∃ attestation compute, (field record "model_attestation").or (.obj []) = .obj attestation ∧
        (field attestation "compute_attestation").or (.obj []) = .obj compute ∧
        (field compute "x-mesh-lifecycle-v1" = .null ∨
          (field compute "x-mesh-lifecycle-v1" ≠ .null ∧
            post (field compute "x-mesh-lifecycle-v1"))) := by
  simp only [extractLifecycleBlock, Ensures.bind_iff, ensures_ofPy, computeAttestationOf_obj,
    get_eq_ok]
  constructor
  · rintro ⟨ca, ⟨attestation, hattestation, rfl⟩, block, ⟨compute, hcompute, rfl⟩, hpost⟩
    refine ⟨attestation, compute, hattestation, hcompute, ?_⟩
    split_ifs at hpost with hnull
    · exact .inl (isNull_eq_true.mp hnull)
    · exact .inr ⟨mt isNull_eq_true.mpr hnull, hpost⟩
  · rintro ⟨attestation, compute, hattestation, hcompute, hpost⟩
    refine ⟨_, ⟨attestation, hattestation, rfl⟩, _, ⟨compute, hcompute, rfl⟩, ?_⟩
    obtain hnull | ⟨hne, hpost⟩ := hpost
    · rw [if_pos (isNull_eq_true.mpr hnull)]
      trivial
    · rw [if_neg (mt isNull_eq_true.mp hne)]
      exact hpost

end

section

variable (crypto : Crypto) (floatRepr : String → String) (options : VerifyOptions)

/-- The checks in order come to the conditions on the values that they read. -/
theorem blockReadable_iff {checks : Checks} {requestDigest : Json} {block : List (String × Json)} :
    ((options.requireKnownTerminalState = true → Hashable (field block "terminal_state")) ∧
      (StateKnown options (field block "terminal_state") →
        (options.requireKnownObservationPoint = true → Hashable (field block "observation_point")) ∧
        (PointKnown options (field block "observation_point") →
          (field block "exchange_id").truthy = true →
          ∃ eventCount expectedCount complete,
            CountsRead block eventCount expectedCount complete ∧
            (¬Short eventCount expectedCount complete →
              ProvenanceReadable options (field block "observation_point")
                  ((block.lookup "local_peer_id").getD (.str "")) ∧
                EvidenceReadable checks (field block "requester_commitment") requestDigest
                  (field block "exchange_id") (field block "requester_identity_binding")
                  options.now options.revokedIdentityCertIds)))) ↔
      BlockReadable checks options requestDigest block := by
  constructor
  · rintro ⟨hstate, hrest⟩
    refine ⟨hstate, fun hknown => (hrest hknown).1, fun hproceeds => ?_, fun hproceeds => ?_⟩
    · obtain ⟨eventCount, expectedCount, complete, hcounts, -⟩ :=
        (hrest hproceeds.terminalState).2 hproceeds.observationPoint hproceeds.exchangeId
      exact ⟨eventCount, expectedCount, complete, hcounts⟩
    · intro eventCount expectedCount complete hcounts hshort
      obtain ⟨_, _, _, hcounts', hreadable⟩ :=
        (hrest hproceeds.terminalState).2 hproceeds.observationPoint hproceeds.exchangeId
      obtain ⟨rfl, rfl, rfl⟩ := hcounts.unique hcounts'
      exact hreadable hshort
  · rintro ⟨hstate, hpoint, hcounts, hevidence⟩
    refine ⟨hstate, fun hknown => ⟨hpoint hknown, fun hpointKnown htruthy => ?_⟩⟩
    have hproceeds : Proceeds options block := ⟨hknown, hpointKnown, htruthy⟩
    obtain ⟨eventCount, expectedCount, complete, hread⟩ := hcounts hproceeds
    exact ⟨eventCount, expectedCount, complete, hread, hevidence hproceeds _ _ _ hread⟩

theorem verifyRecord_ensures (record : List (String × Json)) :
    Ensures (VerdictFollows (pythonChecks crypto floatRepr) options record)
        RecordError.Documented (verifyRecord (pythonChecks crypto floatRepr) options (.obj record)) ↔
      RecordReadable (pythonChecks crypto floatRepr) options record := by
  unfold verifyRecord RecordReadable
  rw [Ensures.bind_iff, ensures_extractLifecycleBlock]
  refine exists_congr fun attestation => exists_congr fun compute =>
    and_congr_right fun hattestation => and_congr_right fun hcompute => or_congr_right ?_
  have hof : computeAttestationOf (.obj record) = .ok (.obj compute) :=
    computeAttestationOf_obj.mpr ⟨attestation, hattestation, hcompute⟩
  cases hblock : field compute "x-mesh-lifecycle-v1" with
  | null => simp
  | obj block =>
      have hcrypto : (pythonChecks crypto floatRepr).crypto = crypto := rfl
      simp only [hof, Ensures.bind_iff, ensures_ofPy, get_field, Json.getD_obj, Except.ok.injEq,
        exists_eq_left', ensures_terminalState, ensures_observationPoint, ensures_checkExchangeId,
        ensures_findings, Ensures.pure_iff, verdictFollows_iff _ _ hof hblock,
        exists_countsRead_iff, and_left_comm, exists_and_left, hcrypto,
        deriveCrossPartyRung_follows]
      constructor
      · rintro ⟨-, hread⟩
        exact ⟨block, rfl, (blockReadable_iff options).mp hread⟩
      · rintro ⟨_, heq, hreadable⟩
        obtain rfl := Json.obj.inj heq
        refine ⟨?_, (blockReadable_iff options).mpr hreadable⟩
        simp
  | _ =>
      apply iff_of_false
      · rintro ⟨-, hread⟩
        rw [hof] at hread
        exact hread
      · rintro ⟨block, hnot, -⟩
        cases hnot

/-- Bytes that `json.loads` reads as an object. -/
def ReadsAs (recordBytes : Bytes) (record : List (String × Json)) : Prop :=
  ∃ text, decodeUtf8 recordBytes = .ok text ∧ loads floatRepr text = .ok (.obj record)

theorem verifyRecordBytes_readsAs {recordBytes : Bytes} {record : List (String × Json)}
    (h : ReadsAs floatRepr recordBytes record) :
    verifyRecordBytes (pythonChecks crypto floatRepr) options recordBytes =
      verifyRecord (pythonChecks crypto floatRepr) options (.obj record) := by
  obtain ⟨text, hdecode, hloads⟩ := h
  have hloads' : loads (pythonChecks crypto floatRepr).floatRepr text = .ok (.obj record) := hloads
  rw [verifyRecordBytes, hdecode, Reading.ofPy_ok, Reading.ok_bind, hloads', Reading.ofPy_ok,
    Reading.ok_bind]

/-- The check of a commitment returns on `None` and on dictionaries; the check of a binding says
what it has to on readable bindings; and the reader of a record raises only what it documents,
with a rung that follows the evidence, on readable records. -/
theorem any_evidence_iff (commitment requestDigest exchangeId binding : Json)
    (commitmentKey : String) (now : Int) (revokedCertIds : List String) {recordBytes : Bytes}
    {record : List (String × Json)} (hreads : ReadsAs floatRepr recordBytes record) :
    ((∃ result, verifyRequesterCommitment crypto commitment requestDigest exchangeId =
        .ok result) ↔ DictOrNull commitment) ∧
    ((∃ verdict, verifyRequesterIdentityBinding (pythonChecks crypto floatRepr) binding
          (.str commitmentKey) now revokedCertIds = .ok verdict ∧
        VerdictSound binding now verdict) ↔
      BindingReadable (pythonChecks crypto floatRepr) binding commitmentKey now revokedCertIds) ∧
    (Ensures (VerdictFollows (pythonChecks crypto floatRepr) options record)
        RecordError.Documented
        (verifyRecordBytes (pythonChecks crypto floatRepr) options recordBytes) ↔
      RecordReadable (pythonChecks crypto floatRepr) options record) := by
  refine ⟨verifyRequesterCommitment_returns _ _ _ _,
    verifyRequesterIdentityBinding_sound _ _ _ _ _ _, ?_⟩
  rw [verifyRecordBytes_readsAs crypto floatRepr options hreads]
  exact verifyRecord_ensures crypto floatRepr options record

end

/-- A record of two parties, with a commitment and a binding of its key that are both in order. -/
theorem bilateral_record_documented :
    ∃ record, sampleCapsule (.str "cert") = .obj record ∧
      (∃ result, verifyRequesterCommitment plainCrypto (.obj sampleCommitment) (.str "digest")
        (.str "exchange") = .ok result) ∧
      Ensures (VerdictFollows (pythonChecks plainCrypto id) sampleOptions record)
        RecordError.Documented
        (verifyRecordBytes (pythonChecks plainCrypto id) sampleOptions
          (utf8 (Json.obj record).dumps)) := by
  refine ⟨_, rfl, ?_⟩
  have hreads : ReadsAs id (utf8 (sampleCapsule (.str "cert")).dumps) _ :=
    ⟨_, decodeUtf8_utf8 _, loads_dumps (sampleCapsule_proper (.str "cert"))⟩
  have hiff := any_evidence_iff plainCrypto id sampleOptions (.obj sampleCommitment) (.str "digest")
    (.str "exchange") (.obj (sampleBinding (.str "cert"))) (plainKeyHex 7) 1000 [] hreads
  refine ⟨hiff.1.mpr (.inr ⟨_, rfl⟩), hiff.2.2.mpr ⟨_, _, rfl, rfl, .inr ⟨_, rfl, ?_⟩⟩⟩
  exact
    { terminalState := fun _ => ⟨_, rfl⟩
      observationPoint := fun _ _ => ⟨_, rfl⟩
      counts := fun _ => ⟨8, some 8, true, ⟨_, rfl⟩, _, rfl, rfl, rfl, rfl⟩
      evidence := by
        intro _ eventCount expectedCount complete _ _
        refine ⟨fun _ _ => ⟨⟨_, rfl⟩, fun _ => ⟨"gateway-1", rfl⟩⟩, .inr ⟨_, rfl⟩, ?_⟩
        intro members key _ _ _
        exact .inr ⟨sampleBinding (.str "cert"), rfl, fun _ => ⟨⟨_, rfl⟩, fun _ => trivial⟩⟩ }

/-- A binding of the sample commitment's key whose expiry is a NaN. -/
def nanBinding : List (String × Json) :=
  signedDocument 9
    [("type", .str IDENTITY_BINDING_TYPE),
     ("version", .int IDENTITY_BINDING_VERSION),
     ("cert_id", .str "cert"),
     ("owner_sign_public_key", .str (plainKeyHex 9)),
     ("commitment_public_key", .str (plainKeyHex 7)),
     ("expires_at_unix_ms", .float "nan")]

/-- A record with a text where its commitment belongs. -/
def textRecord : List (String × Json) :=
  [("model_attestation", .obj [("compute_attestation", .obj [("x-mesh-lifecycle-v1", .obj
    [("terminal_state", .str "completed"),
     ("exchange_id", .str "exchange"),
     ("requester_commitment", .str "none")])])])]

theorem nanBinding_current :
    BindingCurrent (pythonChecks plainCrypto id) nanBinding (plainKeyHex 7) 1000 := by
  refine ⟨rfl, rfl, rfl, ?_, rfl⟩
  exact signedBy_signedDocument rfl (by simp)

/-- A text as the commitment raises, alone and in a record, and a NaN never expires. -/
theorem malformed_evidence_raises :
    verifyRequesterCommitment plainCrypto (.str "none") (.str "digest") (.str "exchange") =
      .error .attributeError ∧
    verifyRecord (pythonChecks plainCrypto id) sampleOptions (.obj textRecord) =
      .error (.python .attributeError) ∧
    ∃ verdict, verifyRequesterIdentityBinding (pythonChecks plainCrypto id) (.obj nanBinding)
        (.str (plainKeyHex 7)) 1000 [] = .ok verdict ∧ verdict.valid = true ∧
      ¬IsLater 1000 (field nanBinding "expires_at_unix_ms") := by
  refine ⟨rfl, rfl, ?_⟩
  have hcurrent := nanBinding_current
  obtain ⟨verdict, hverdict⟩ := (verifyRequesterIdentityBinding_returns
    (pythonChecks plainCrypto id) (.obj nanBinding) (plainKeyHex 7) 1000 []).mpr
    (.inr ⟨nanBinding, rfl, fun _ => ⟨.str "cert", rfl⟩⟩)
  refine ⟨verdict, hverdict, ?_, ?_⟩
  · rw [verifyRequesterIdentityBinding_valid _ _ _ _ _ hverdict]
    exact ⟨nanBinding, rfl, hcurrent, rfl⟩
  · rw [isLater_iff plainCrypto id]
    rintro ⟨-, hcomparable⟩
    exact hcomparable rfl

end CapsuleMesh.Lifecycle
