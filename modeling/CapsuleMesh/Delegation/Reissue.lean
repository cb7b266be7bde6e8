import CapsuleMesh.Delegation.RoundTrip

/-!
# Re-issuing for a changed plugin key

`reissue_on_plugin_key_change` revokes the old delegation before it issues the new one.  Whatever
stops the issuing after that leaves the old delegation revoked.
-/

namespace CapsuleMesh.Delegation

open Python

variable {crypto : Crypto}

namespace Issuer

/-- The same revocations, in whichever order they are listed. -/
structure SameRevocations (s s' : Issuer crypto) : Prop where
  delegations : ∀ id, id ∈ s'.revokedDelegations ↔ id ∈ s.revokedDelegations
  nodes : ∀ id, id ∈ s'.revokedNodes ↔ id ∈ s.revokedNodes
  owners : ∀ id, id ∈ s'.revokedOwners ↔ id ∈ s.revokedOwners

/-- All that issuing a delegation checks. -/
structure CanIssue (s : Issuer crypto) (scope keyHex : String) : Prop where
  owner : ∃ key, s.ownerSigningKey = some key ∧
    ∃ ownerId, deriveOwnerId crypto (pubHex crypto key) = .ok ownerId
  scope : scope ∈ s.registeredScopes
  key : ∃ pluginPub, validatePluginPubkey crypto keyHex = .ok pluginPub

/-- A call that raises leaves the revocations as they were before. -/
def ReissueAtomic (clock : ℕ → Int) (s : Issuer crypto) (old : Json)
    (newKeyHex freshId : String) : Prop :=
  ∀ e, (s.reissueOnPluginKeyChange clock old newKeyHex freshId).1 = .error e →
    SameRevocations s (s.reissueOnPluginKeyChange clock old newKeyHex freshId).2

theorem issueDelegation_returns_iff (clock : ℕ → Int) (s : Issuer crypto)
    (keyHex scope freshId : String) (validityMs : Option Int) (delegationId : Option String) :
    (∃ document, (s.issueDelegation clock keyHex scope validityMs delegationId freshId).1 =
        .ok document) ↔ s.CanIssue scope keyHex := by
  constructor
  · rintro ⟨document, h⟩
    obtain ⟨key, ownerId, grant, hissues, rfl, hplugin⟩ := issueDelegation_eq_ok h
    exact ⟨⟨key, hissues.owner, ownerId, hissues.ownerId_eq⟩, hissues.scope_mem, _, hplugin⟩
  · rintro ⟨⟨key, hkey, ownerId, hownerId⟩, hscope, pluginPub, hplugin⟩
    rw [issueDelegation, hkey]
    dsimp only
    rw [if_neg (not_not.mpr hscope), hplugin]
    dsimp only
    rw [hownerId]
    exact ⟨_, rfl⟩

theorem SameRevocations.of_revocationList {s s' : Issuer crypto}
    (h : s'.revocationList = s.revocationList) : SameRevocations s s' := by
  obtain ⟨hdelegations, hnodes, howners⟩ := RevocationList.mk.inj h
  exact ⟨fun id => by rw [hdelegations], fun id => by rw [hnodes], fun id => by rw [howners]⟩

/-- To revoke what is revoked already changes nothing. -/
theorem sameRevocations_revokeDelegation_iff {s s' : Issuer crypto} {id : String}
    (h : s'.revocationList = (s.revokeDelegation id).revocationList) :
    SameRevocations s s' ↔ id ∈ s.revokedDelegations := by
  obtain ⟨hdelegations, hnodes, howners⟩ := RevocationList.mk.inj h
  constructor
  · intro hsame
    apply (hsame.delegations id).mp
    rw [hdelegations]
    exact List.mem_cons_self
  · intro hid
    refine ⟨fun other => ?_, fun other => by rw [hnodes]; rfl, fun other => by rw [howners]; rfl⟩
    rw [hdelegations, revokeDelegation, List.mem_cons]
    constructor
    · rintro (rfl | hother)
      · exact hid
      · exact hother
    · exact .inr

/-- A failed call keeps the revocations exactly when the old delegation was revoked already, or
has no id; all other calls have to go through. -/
theorem reissueAtomic_iff (clock : ℕ → Int) (s : Issuer crypto) (old : Json)
    (newKeyHex freshId : String) :
    ReissueAtomic clock s old newKeyHex freshId ↔
      ∀ id, stringItem old "delegation_id" = .ok id → id ∈ s.revokedDelegations ∨
        ∃ scope, stringItem old "scope" = .ok scope ∧ s.CanIssue scope newKeyHex := by
  rw [ReissueAtomic, reissueOnPluginKeyChange]
  cases hid : stringItem old "delegation_id" with
  | error e =>
      apply iff_of_true
      · intro e' _
        exact .of_revocationList rfl
      · intro id h
        cases h
  | ok id =>
      dsimp only
      cases hscope : stringItem old "scope" with
      | error e =>
        dsimp only
        have hsame : SameRevocations s (s.revokeDelegation id) ↔ id ∈ s.revokedDelegations :=
          sameRevocations_revokeDelegation_iff rfl
        constructor
        · intro h id' hid'
          obtain rfl := Except.ok.inj hid'
          exact .inl (hsame.mp (h e rfl))
        · intro h e' _
          rcases h id rfl with hrevoked | ⟨scope, hscope', -⟩
          · exact hsame.mpr hrevoked
          · cases hscope'
      | ok scope =>
        dsimp only
        have hsame := sameRevocations_revokeDelegation_iff
          (issueDelegation_revocationList clock (s.revokeDelegation id) newKeyHex scope freshId
            none none)
        have hreturns := issueDelegation_returns_iff clock (s.revokeDelegation id) newKeyHex scope
          freshId none none
        constructor
        · intro h id' hid'
          obtain rfl := Except.ok.inj hid'
          cases hissue : ((s.revokeDelegation id).issueDelegation clock newKeyHex scope none none
            freshId).1 with
          | error e => exact .inl (hsame.mp (h e hissue))
          | ok document =>
            obtain ⟨howner, hmem, hkey⟩ := hreturns.mp ⟨document, hissue⟩
            exact .inr ⟨scope, rfl, howner, hmem, hkey⟩
        · intro h e hraises
          rcases h id rfl with hrevoked | ⟨scope', hscope', hcan⟩
          · exact hsame.mpr hrevoked
          · obtain rfl := Except.ok.inj hscope'
            obtain ⟨document, hissue⟩ := hreturns.mpr ⟨hcan.owner, hcan.scope, hcan.key⟩
            rw [hraises] at hissue
            cases hissue

end Issuer

/-! ## A key that is not one -/

/-- The new key is not hex, and the old delegation is revoked all the same. -/
theorem failed_reissue_revokes :
    let clock : ℕ → Int := fun _ => 7
    let old := (hostChain 7 7 7).delegation
    let result := host.reissueOnPluginKeyChange clock old "zz" "deleg-01"
    (step clock host hostIssues).1 = .delegation old ∧
      (∃ text, result.1 = .error (.invalidPublicKey text)) ∧
      "deleg-00" ∈ result.2.revokedDelegations ∧ "deleg-00" ∉ host.revokedDelegations ∧
        ¬Issuer.ReissueAtomic clock host old "zz" "deleg-01" := by
  intro clock old result
  have hraises : ∃ text, result.1 = .error (.invalidPublicKey text) := ⟨_, rfl⟩
  have hrevoked : "deleg-00" ∈ result.2.revokedDelegations := List.mem_cons_self
  refine ⟨(step_hostIssues clock).1, hraises, hrevoked, List.not_mem_nil, fun hatomic => ?_⟩
  obtain ⟨text, htext⟩ := hraises
  exact List.not_mem_nil ((hatomic _ htext).delegations "deleg-00" |>.mp hrevoked)

end CapsuleMesh.Delegation
