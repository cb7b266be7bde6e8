import CapsuleMesh.Delegation.RoundTrip
import Mathlib.Data.List.Infix

/-!
# Untrusted documents

The verifier on a delegation, an ownership document and a revocation list that are objects of any
content.  The fifth step compares and searches whatever values it finds there.
-/

namespace CapsuleMesh.Delegation

open Python

/-! ## Comparison and membership in Python -/

/-- Whether a float lies below an integer, from its `repr`. -/
def floatBelow (repr : String) (n : Int) : Bool :=
  match (Json.float repr).asInt with
  | some k => k < n
  | none =>
      match intOfFloat repr with
      | .ok k => if repr.toList.head? = some '-' then k ≤ n else k < n
      | .error _ => repr = "-inf"

/-- `expires is not None and now_ms > expires`. -/
def past (expires : Json) (nowMs : Int) : Py Bool :=
  match expires with
  | .null => .ok false
  | .bool b => .ok ((if b then 1 else 0) < nowMs)
  | .int n => .ok (n < nowMs)
  | .float repr => .ok (floatBelow repr nowMs)
  | _ => .error .typeError

/-- `x in container`. -/
def isIn (x container : Json) : Py Bool :=
  match container with
  | .arr elems => .ok (elems.any fun e => e.pyEq x)
  | .str s =>
      match x with
      | .str t => .ok (t.toList <:+: s.toList)
      | _ => .error .typeError
  | .obj members => do
      let key ← x.key
      return members.any fun m => key = .str m.1
  | _ => .error .typeError

/-- A missing time, or a number. -/
def Comparable (expires : Json) : Prop :=
  match expires with
  | .null | .bool _ | .int _ | .float _ => True
  | _ => False

/-- A list may be searched for anything, a text for a text, and a dictionary for what can be a key
of one. -/
def Searchable (x container : Json) : Prop :=
  match container, x with
  | .arr _, _ => True
  | .str _, .str _ => True
  | .obj _, .arr _ | .obj _, .obj _ => False
  | .obj _, _ => True
  | _, _ => False

theorem past_returns_iff (expires : Json) (nowMs : Int) :
    (∃ b, past expires nowMs = .ok b) ↔ Comparable expires := by
  cases expires with
  | str _ => exact iff_of_false (fun ⟨_, h⟩ => nomatch h) id
  | arr _ => exact iff_of_false (fun ⟨_, h⟩ => nomatch h) id
  | obj _ => exact iff_of_false (fun ⟨_, h⟩ => nomatch h) id
  | _ => exact iff_of_true ⟨_, rfl⟩ trivial

theorem isIn_returns_iff (x container : Json) :
    (∃ b, isIn x container = .ok b) ↔ Searchable x container := by
  cases container with
  | arr elems => exact iff_of_true ⟨_, rfl⟩ trivial
  | str s =>
      cases x with
      | str t => exact iff_of_true ⟨_, rfl⟩ trivial
      | _ => exact iff_of_false (fun ⟨_, h⟩ => nomatch h) id
  | obj members =>
      cases x with
      | arr _ => exact iff_of_false (fun ⟨_, h⟩ => nomatch h) id
      | obj _ => exact iff_of_false (fun ⟨_, h⟩ => nomatch h) id
      | null => exact iff_of_true ⟨_, rfl⟩ trivial
      | bool b => exact iff_of_true ⟨_, rfl⟩ trivial
      | int n => exact iff_of_true ⟨_, rfl⟩ trivial
      | str t => exact iff_of_true ⟨_, rfl⟩ trivial
      | float repr =>
        refine iff_of_true ?_ trivial
        cases hint : (Json.float repr).asInt with
        | none =>
          simp only [isIn, Json.key, hint]
          exact ⟨_, rfl⟩
        | some n =>
          simp only [isIn, Json.key, hint]
          exact ⟨_, rfl⟩
  | _ => exact iff_of_false (fun ⟨_, h⟩ => nomatch h) id

/-! ## The chain -/

/-- What `verify_chain` is called with, where each document is an object. -/
structure UntrustedInput where
  capsule : Bytes
  delegation : List (String × Json)
  nodeOwnership : List (String × Json)
  revocationList : List (String × Json)
  expectedScope : String
  expectedPluginId : String
  expectedNodeId : String
  releaseAttestation : Option (List (String × Json))
  nowMs : Int

/-- `document.get(key)`. -/
def field (document : List (String × Json)) (key : String) : Json :=
  (document.lookup key).getD .null

/-- `revocation_list.get(key, [])`. -/
def revoked (revocationList : List (String × Json)) (key : String) : Json :=
  (revocationList.lookup key).getD (.arr [])

/-- `_verify_expiry_and_revocation`. -/
def UntrustedInput.verifyExpiryAndRevocation (input : UntrustedInput) : Py VerifyResult := do
  let step := some VerifyStep.expiryRevocation
  let expires := field input.delegation "expires_at_unix_ms"
  let delegationId := field input.delegation "delegation_id"
  let node := field input.delegation "node_endpoint_id"
  let owner := field input.delegation "owner_id"
  let nodeExpires := field input.nodeOwnership "expires_at_unix_ms"
  if ← past expires input.nowMs then
    return reject .expired step ("delegation expired at " ++ expires.pyStr ++ "ms, now=" ++
      toString input.nowMs ++ "ms")
  else if ← isIn delegationId (revoked input.revocationList "revoked_delegations") then
    return reject .revoked step ("delegation_id " ++ delegationId.pyRepr ++
      " is in revocation list")
  else if ← isIn node (revoked input.revocationList "revoked_nodes") then
    return reject .revoked step ("node_endpoint_id " ++ node.pyRepr ++ " is in revocation list")
  else if ← isIn owner (revoked input.revocationList "revoked_owners") then
    return reject .revoked step ("owner_id " ++ owner.pyRepr ++ " is in revocation list")
  else if ← past nodeExpires input.nowMs then
    return reject .expired step ("node_ownership expired at " ++ nodeExpires.pyStr ++
      "ms, now=" ++ toString input.nowMs ++ "ms")
  else return pass step

/-- The checks in their order. -/
def UntrustedInput.steps (crypto : Crypto) (input : UntrustedInput) : List (Py VerifyResult) :=
  [verifyScope (.obj input.delegation) input.expectedScope,
   verifyPluginId (.obj input.delegation) input.expectedPluginId,
   verifyNodeId (.obj input.delegation) input.expectedNodeId,
   verifyCapsuleOf crypto input.capsule (.obj input.delegation),
   .ok (verifyDelegationSignature crypto (.obj input.delegation)),
   verifyOwnerIdDerivation crypto (.obj input.delegation),
   verifyNodeOwnership crypto (.obj input.nodeOwnership) (.obj input.delegation),
   input.verifyExpiryAndRevocation,
   verifyReleaseAttestation (input.releaseAttestation.map .obj) (.obj input.delegation)]

def UntrustedInput.verifyChain (crypto : Crypto) (input : UntrustedInput) :
    Py (List VerifyResult) :=
  runSteps (input.steps crypto)

/-! ## The identity mode -/

inductive EvidenceState where
  | missing
  | presentUnverified
  | verified
  | expired
  | revoked
  | invalid
deriving DecidableEq

inductive IdentityMode where
  | selfAttested
  | ownerDelegated
  | unknown
deriving DecidableEq

/-- The notes of `IDENTITY_MODE_RUNG_MAP`; no mode determines a rung. -/
def rungNote : IdentityMode → String
  | .selfAttested => "self_attested is about key delegation, not counterparty binding. " ++
      "A self_attested plugin can still produce unilateral_fallback records. " ++
      "The mode does not determine the rung — the exchange evidence does."
  | .ownerDelegated => "owner_delegated binds the plugin key to the node owner, improving " ++
      "attributability. It does NOT grant a higher cross-party rung: " ++
      "unilateral_fallback (one-party signature) is the floor; " ++
      "acknowledged_receipt and full_bilateral require counterparty co-signing, " ++
      "which is independent of how the plugin key is delegated. " ++
      "The mode addresses identity axis B (B2: owner-delegated software key); " ++
      "the cross-party rung addresses mutuality axis D. They are orthogonal."
  | .unknown => "Mode is unknown/unverified — no rung can be determined from evidence."

structure IdentityModeResult where
  mode : IdentityMode
  evidenceState : EvidenceState
  rung : Option String
  rungNote : String
deriving DecidableEq

def identityModeResult (mode : IdentityMode) (state : EvidenceState) : IdentityModeResult :=
  ⟨mode, state, none, rungNote mode⟩

def assessIdentityMode (chainResults : List VerifyResult) (delegation : Option Json) :
    IdentityModeResult :=
  match delegation with
  | none => identityModeResult .selfAttested .missing
  | some _ =>
      let verdict := chainVerdict chainResults
      if verdict.ok then identityModeResult .ownerDelegated .verified
      else
        match verdict.rejection with
        | some .expired => identityModeResult .unknown .expired
        | some .revoked => identityModeResult .unknown .revoked
        | some .badSignature | some .delegationSignatureInvalid
        | some .nodeOwnershipSignatureInvalid | some .ownerIdMismatch | some .malformed =>
          identityModeResult .unknown .invalid
        | _ => identityModeResult .unknown .presentUnverified

/-- A presented delegation is never taken for a self-attested key, and is owner-delegated by the
verdict alone. -/
theorem assessIdentityMode_some (results : List VerifyResult) (delegation : Json) :
    ((assessIdentityMode results (some delegation)).mode = .ownerDelegated ↔
      (chainVerdict results).ok = true) ∧
    (assessIdentityMode results (some delegation)).mode ≠ .selfAttested := by
  simp only [assessIdentityMode]
  split_ifs with hok
  · exact ⟨iff_of_true rfl hok, IdentityMode.noConfusion⟩
  · split
    all_goals exact ⟨iff_of_false IdentityMode.noConfusion hok, IdentityMode.noConfusion⟩

/-! ## Which documents are answered -/

/-- The fifth step gets past the values it reads, up to the one that decides it. -/
structure StepFiveReadable (input : UntrustedInput) : Prop where
  expires : Comparable (field input.delegation "expires_at_unix_ms")
  delegations : past (field input.delegation "expires_at_unix_ms") input.nowMs = .ok false →
    Searchable (field input.delegation "delegation_id")
      (revoked input.revocationList "revoked_delegations")
  nodes : past (field input.delegation "expires_at_unix_ms") input.nowMs = .ok false →
    isIn (field input.delegation "delegation_id")
      (revoked input.revocationList "revoked_delegations") = .ok false →
    Searchable (field input.delegation "node_endpoint_id")
      (revoked input.revocationList "revoked_nodes")
  owners : past (field input.delegation "expires_at_unix_ms") input.nowMs = .ok false →
    isIn (field input.delegation "delegation_id")
      (revoked input.revocationList "revoked_delegations") = .ok false →
    isIn (field input.delegation "node_endpoint_id")
      (revoked input.revocationList "revoked_nodes") = .ok false →
    Searchable (field input.delegation "owner_id") (revoked input.revocationList "revoked_owners")
  nodeExpires : past (field input.delegation "expires_at_unix_ms") input.nowMs = .ok false →
    isIn (field input.delegation "delegation_id")
      (revoked input.revocationList "revoked_delegations") = .ok false →
    isIn (field input.delegation "node_endpoint_id")
      (revoked input.revocationList "revoked_nodes") = .ok false →
    isIn (field input.delegation "owner_id") (revoked input.revocationList "revoked_owners") =
      .ok false →
    Comparable (field input.nodeOwnership "expires_at_unix_ms")

/-- A guard of the step: it is answered, and so is what follows where it does not hold. -/
theorem guard_returns_iff {guard : Py Bool} {found : VerifyResult} {rest : Py VerifyResult} :
    (∃ result, (do if ← guard then return found else rest) = .ok result) ↔
      (∃ b, guard = .ok b) ∧ (guard = .ok false → ∃ result, rest = .ok result) := by
  cases guard with
  | error e =>
      apply iff_of_false
      · rintro ⟨result, hresult⟩
        cases hresult
      · rintro ⟨⟨b, hb⟩, -⟩
        cases hb
  | ok b =>
      cases b with
      | true => exact iff_of_true ⟨found, rfl⟩ ⟨⟨true, rfl⟩, fun h => nomatch h⟩
      | false =>
        constructor
        · rintro ⟨result, hresult⟩
          exact ⟨⟨false, rfl⟩, fun _ => ⟨result, hresult⟩⟩
        · rintro ⟨-, hrest⟩
          exact hrest rfl

theorem stepFive_returns_iff (input : UntrustedInput) :
    (∃ result, input.verifyExpiryAndRevocation = .ok result) ↔ StepFiveReadable input := by
  rw [UntrustedInput.verifyExpiryAndRevocation]
  simp only [guard_returns_iff, past_returns_iff, isIn_returns_iff]
  constructor
  · rintro ⟨hexpires, hrest⟩
    refine ⟨hexpires, ?_, ?_, ?_, ?_⟩
    · intro h₁
      exact (hrest h₁).1
    · intro h₁ h₂
      exact ((hrest h₁).2 h₂).1
    · intro h₁ h₂ h₃
      exact (((hrest h₁).2 h₂).2 h₃).1
    · intro h₁ h₂ h₃ h₄
      exact ((((hrest h₁).2 h₂).2 h₃).2 h₄).1
  · rintro ⟨hexpires, hdelegations, hnodes, howners, hnode⟩
    refine ⟨hexpires, fun h₁ => ⟨hdelegations h₁, fun h₂ => ⟨hnodes h₁ h₂, fun h₃ =>
      ⟨howners h₁ h₂ h₃, fun h₄ => ⟨hnode h₁ h₂ h₃ h₄, fun _ => ⟨_, rfl⟩⟩⟩⟩⟩⟩

theorem runSteps_cons_returns_iff (step : Py VerifyResult) (steps : List (Py VerifyResult)) :
    (∃ results, runSteps (step :: steps) = .ok results) ↔
      (∃ result, step = .ok result) ∧ (Passes step → ∃ results, runSteps steps = .ok results) := by
  rw [runSteps]
  cases step with
  | error e =>
      apply iff_of_false
      · rintro ⟨results, hresults⟩
        cases hresults
      · rintro ⟨⟨result, hresult⟩, -⟩
        cases hresult
  | ok result =>
      rw [Py.ok_bind]
      by_cases hok : result.ok = true
      · rw [if_pos hok]
        constructor
        · rintro ⟨results, hresults⟩
          obtain ⟨rest, hrest, -⟩ := Py.bind_eq_ok.mp hresults
          exact ⟨⟨result, rfl⟩, fun _ => ⟨rest, hrest⟩⟩
        · rintro ⟨-, h⟩
          obtain ⟨rest, hrest⟩ := h ⟨result, rfl, hok⟩
          exact ⟨result :: rest, by rw [hrest]; rfl⟩
      · rw [if_neg hok]
        refine iff_of_true ⟨_, rfl⟩ ⟨⟨result, rfl⟩, ?_⟩
        rintro ⟨result', hresult, hok'⟩
        cases hresult
        exact absurd hok' hok

theorem verifyMember_returns (key : String) (code : RejectionCode) (detail : Json → String)
    (members : List (String × Json)) (expected : String) :
    ∃ result, verifyMember key code detail (.obj members) expected = .ok result := by
  rw [verifyMember, Json.get_obj, Py.ok_bind]
  split_ifs
  · exact ⟨_, rfl⟩
  · exact ⟨_, rfl⟩

theorem verifyCapsuleOf_returns_iff (crypto : Crypto) (capsule : Bytes)
    (members : List (String × Json)) :
    (∃ result, verifyCapsuleOf crypto capsule (.obj members) = .ok result) ↔
      (members.lookup "delegated_signing_public_key").isSome = true := by
  rw [verifyCapsuleOf, Json.item]
  cases members.lookup "delegated_signing_public_key" with
  | none =>
      apply iff_of_false
      · rintro ⟨result, hresult⟩
        cases hresult
      · exact Bool.false_ne_true
  | some key => exact iff_of_true ⟨_, rfl⟩ rfl

/-- The signature check loaded the key from which the third step derives the owner id. -/
theorem verifyOwnerIdDerivation_returns {crypto : Crypto} {members : List (String × Json)}
    (h : Passes (.ok (verifyDelegationSignature crypto (.obj members)))) :
    ∃ result, verifyOwnerIdDerivation crypto (.obj members) = .ok result := by
  obtain ⟨result, hresult, hok⟩ := h
  cases hresult
  rw [verifyDelegationSignature] at hok
  have hsigned : ∃ b, checkSigned crypto (.obj members) (.obj members)
      (DELEGATION_DOMAIN_TAG ++ jcs (without ["_sig"] (.obj members))) = .ok (some b) := by
    generalize checkSigned crypto (.obj members) (.obj members)
      (DELEGATION_DOMAIN_TAG ++ jcs (without ["_sig"] (.obj members))) = checked at hok
    cases checked with
    | error e => cases hok
    | ok answer =>
        cases answer with
        | none => cases hok
        | some b => exact ⟨b, rfl⟩
  obtain ⟨b, hb⟩ := hsigned
  simp only [checkSigned, Json.get_obj, Py.ok_bind] at hb
  split_ifs at hb with hsig
  · obtain ⟨value, hvalue, hb⟩ := Py.bind_eq_ok.mp hb
    obtain ⟨keyHex, hkeyHex, hb⟩ := Py.bind_eq_ok.mp hb
    obtain ⟨key, hkey, -⟩ := Py.bind_eq_ok.mp hb
    obtain ⟨raw, hraw, -⟩ := Py.bind_eq_ok.mp hkey
    simp only [verifyOwnerIdDerivation, deriveOwnerId, hvalue, hkeyHex, hraw, Py.ok_bind,
      Py.pure_eq_ok, Json.get_obj]
    split_ifs
    · exact ⟨_, rfl⟩
    · exact ⟨_, rfl⟩
  · cases hb

theorem verifyNodeOwnership_returns (crypto : Crypto) (ownership members : List (String × Json)) :
    ∃ result, verifyNodeOwnership crypto (.obj ownership) (.obj members) = .ok result := by
  rw [verifyNodeOwnership]
  generalize checkSigned crypto (.obj ownership) (.obj members)
    (ownershipBytes (.obj ownership)) = checked
  cases checked with
  | error e => exact ⟨_, rfl⟩
  | ok answer =>
      cases answer with
      | none => exact ⟨_, rfl⟩
      | some b =>
        cases b with
        | false => exact ⟨_, rfl⟩
        | true =>
          simp only [verifyOwnershipBinding, Json.get_obj, Py.ok_bind, Py.pure_eq_ok]
          split_ifs
          all_goals exact ⟨_, rfl⟩

theorem verifyReleaseAttestation_returns (release : Option (List (String × Json)))
    (members : List (String × Json)) :
    ∃ result, verifyReleaseAttestation (release.map .obj) (.obj members) = .ok result := by
  cases release with
  | none => exact ⟨_, rfl⟩
  | some attestation =>
      simp only [verifyReleaseAttestation, Option.map_some, Json.get_obj, Py.ok_bind]
      split_ifs
      · exact ⟨_, rfl⟩
      · exact ⟨_, rfl⟩

/-- The chain returns on these documents, and they count as owner-delegated when every check
succeeds and only then; they never count as self-attested. -/
def FailsClosed (crypto : Crypto) (input : UntrustedInput) : Prop :=
  ∃ results, input.verifyChain crypto = .ok results ∧
    ((assessIdentityMode results (some (.obj input.delegation))).mode = .ownerDelegated ↔
      ∀ step ∈ input.steps crypto, Passes step) ∧
    (assessIdentityMode results (some (.obj input.delegation))).mode ≠ .selfAttested

/-- The two steps that may raise: the capsule's, for the key it takes from the delegation, and the
fifth. -/
theorem verifyChain_returns_iff (crypto : Crypto) (input : UntrustedInput) :
    (∃ results, input.verifyChain crypto = .ok results) ↔
      ((∀ step ∈ (input.steps crypto).take 3, Passes step) →
        (input.delegation.lookup "delegated_signing_public_key").isSome = true) ∧
      ((∀ step ∈ (input.steps crypto).take 7, Passes step) → StepFiveReadable input) := by
  have hscope : ∃ result, verifyScope (.obj input.delegation) input.expectedScope = .ok result :=
    verifyMember_returns _ _ _ _ _
  have hplugin : ∃ result, verifyPluginId (.obj input.delegation) input.expectedPluginId =
      .ok result := verifyMember_returns _ _ _ _ _
  have hnode : ∃ result, verifyNodeId (.obj input.delegation) input.expectedNodeId = .ok result :=
    verifyMember_returns _ _ _ _ _
  have hcapsule := verifyCapsuleOf_returns_iff crypto input.capsule input.delegation
  have howner : Passes (.ok (verifyDelegationSignature crypto (.obj input.delegation))) →
      ∃ result, verifyOwnerIdDerivation crypto (.obj input.delegation) = .ok result :=
    verifyOwnerIdDerivation_returns
  have hownership := verifyNodeOwnership_returns crypto input.nodeOwnership input.delegation
  have hfive := stepFive_returns_iff input
  have hrelease := verifyReleaseAttestation_returns input.releaseAttestation input.delegation
  rw [← hcapsule, ← hfive, UntrustedInput.verifyChain, UntrustedInput.steps]
  generalize verifyScope (.obj input.delegation) input.expectedScope = scope at *
  generalize verifyPluginId (.obj input.delegation) input.expectedPluginId = plugin at *
  generalize verifyNodeId (.obj input.delegation) input.expectedNodeId = node at *
  generalize verifyCapsuleOf crypto input.capsule (.obj input.delegation) = capsule at *
  generalize verifyDelegationSignature crypto (.obj input.delegation) = signature at *
  generalize verifyOwnerIdDerivation crypto (.obj input.delegation) = owner at *
  generalize verifyNodeOwnership crypto (.obj input.nodeOwnership) (.obj input.delegation) =
    ownership at *
  generalize verifyReleaseAttestation (input.releaseAttestation.map .obj)
    (.obj input.delegation) = release at *
  generalize input.verifyExpiryAndRevocation = five at *
  have hdone : ∃ results, runSteps [] = .ok results := ⟨[], rfl⟩
  have hsignature : ∃ result, (.ok signature : Py VerifyResult) = .ok result := ⟨signature, rfl⟩
  simp only [runSteps_cons_returns_iff, List.take, List.forall_mem_cons]
  constructor
  · rintro ⟨-, h⟩
    constructor
    · rintro ⟨p₀, p₁, p₂, -⟩
      exact (((h p₀).2 p₁).2 p₂).1
    · rintro ⟨p₀, p₁, p₂, p₃, p₄, p₅, p₆, -⟩
      exact (((((((h p₀).2 p₁).2 p₂).2 p₃).2 p₄).2 p₅).2 p₆).1
  · rintro ⟨hkey, hread⟩
    have hempty : ∀ step ∈ ([] : List (Py VerifyResult)), Passes step := fun _ h => nomatch h
    refine ⟨hscope, fun p₀ => ⟨hplugin, fun p₁ => ⟨hnode, fun p₂ => ⟨hkey ⟨p₀, p₁, p₂, hempty⟩,
      fun p₃ => ⟨hsignature, fun p₄ => ⟨howner p₄, fun p₅ => ⟨hownership, fun p₆ =>
        ⟨hread ⟨p₀, p₁, p₂, p₃, p₄, p₅, p₆, hempty⟩, fun _ => ⟨hrelease, fun _ => hdone⟩⟩⟩⟩⟩⟩⟩⟩⟩

/-- The verifier fails closed exactly where it returns: a delegation for the expected scope, plugin
and node names the plugin key, and where the documents are signed and bound the fifth step can read
the times and search the lists. -/
theorem failsClosed_iff (crypto : Crypto) (input : UntrustedInput) :
    FailsClosed crypto input ↔
      ((∀ step ∈ (input.steps crypto).take 3, Passes step) →
        (input.delegation.lookup "delegated_signing_public_key").isSome = true) ∧
      ((∀ step ∈ (input.steps crypto).take 7, Passes step) → StepFiveReadable input) := by
  rw [← verifyChain_returns_iff]
  constructor
  · rintro ⟨results, hresults, -⟩
    exact ⟨results, hresults⟩
  · rintro ⟨results, hresults⟩
    obtain ⟨hmode, hattested⟩ := assessIdentityMode_some results (.obj input.delegation)
    refine ⟨results, hresults, hmode.trans ?_, hattested⟩
    rw [← @verdict_of_steps_iff (input.steps crypto) (List.cons_ne_nil _ _)]
    constructor
    · exact fun hok => ⟨results, hresults, hok⟩
    · rintro ⟨results', hresults', hok⟩
      cases hresults.symm.trans hresults'
      exact hok

/-- A delegation for the expected scope, plugin and node, without a plugin key. -/
def keylessInput : UntrustedInput where
  capsule := []
  delegation := [("scope", .str CAPSULE_EMIT_SCOPE), ("plugin_id", .str "plugin"),
    ("node_endpoint_id", .str "node")]
  nodeOwnership := []
  revocationList := []
  expectedScope := CAPSULE_EMIT_SCOPE
  expectedPluginId := "plugin"
  expectedNodeId := "node"
  releaseAttestation := none
  nowMs := 0

theorem keyless_raises : keylessInput.verifyChain plainCrypto = .error .keyError := by
  decide +kernel

end CapsuleMesh.Delegation
