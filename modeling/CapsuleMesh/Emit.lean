import CapsuleMesh.Python.Json

/-!
# The capsule builder

`emit` is `capsule_emit.builder.build_capsule`, a package outside this
repository: it is a parameter, and `EmitContract` states what its callers rely
on.  A capsule is a JSON object; `capsuleIdOf` and `parentOf` read the two fields
that make a ledger a chain.
-/

namespace CapsuleMesh

open Python

/-- The keyword arguments of `emit`. -/
structure EmitArgs where
  actionId : String
  actionType : String
  operator : String
  developer : String
  modelId : Option String
  provider : String
  computeAttestation : Json
  effect : Json
  disposition : Json
  priorCapsuleId : Option String
  chainRelation : Option String
  domain : String
  provenance : String

abbrev Emit := EmitArgs → Py Json

/-- `capsule["capsule_id"]`. -/
def capsuleIdOf (capsule : Json) : Option String :=
  match capsule with
  | .obj members => (members.lookup "capsule_id").bind Json.str?
  | _ => none

/-- `capsule["chain"]["parent_capsule_id"]`, `none` when it is absent or null. -/
def parentOf (capsule : Json) : Option String :=
  match capsule with
  | .obj members =>
      match members.lookup "chain" with
      | some (.obj chain) => (chain.lookup "parent_capsule_id").bind Json.str?
      | _ => none
  | _ => none

/-- What the callers of `emit` rely on: the compute attestation and the effect are
carried verbatim, the prior id becomes the chain parent, and the capsule id is a
non-empty digest over the whole body, so that capsules of different actions never
share it. -/
structure EmitContract (emit : Emit) : Prop where
  compute : ∀ {args capsule}, emit args = .ok capsule →
    ∃ members, capsule = .obj members ∧
      ∃ attestation, members.lookup "model_attestation" = some (.obj attestation) ∧
        attestation.lookup "compute_attestation" = some args.computeAttestation
  effect : ∀ {args capsule}, emit args = .ok capsule → capsule.get "effect" = .ok args.effect
  parent : ∀ {args capsule}, emit args = .ok capsule → parentOf capsule = args.priorCapsuleId
  capsuleId : ∀ {args capsule}, emit args = .ok capsule →
    ∃ id, capsuleIdOf capsule = some id ∧ id ≠ ""
  actionId : ∀ {args args' capsule capsule'}, emit args = .ok capsule →
    emit args' = .ok capsule' → capsuleIdOf capsule = capsuleIdOf capsule' →
    args.actionId = args'.actionId

/-- A builder with the shape of the real one, for concrete runs. -/
def plainEmit : Emit := fun args =>
  .ok (.obj
    [("capsule_id", .str ("id:" ++ args.actionId)),
     ("action_type", .str args.actionType),
     ("operator", .str args.operator),
     ("developer", .str args.developer),
     ("model_attestation", .obj
       [("model_id", .ofStr? args.modelId),
        ("provider", .str args.provider),
        ("compute_attestation", args.computeAttestation)]),
     ("effect", args.effect),
     ("disposition", args.disposition),
     ("chain", .obj
       [("parent_capsule_id", .ofStr? args.priorCapsuleId),
        ("relation", .ofStr? args.chainRelation)]),
     ("domain", .str args.domain),
     ("provenance", .str args.provenance)])

theorem plainEmit_contract : EmitContract plainEmit where
  compute {args capsule} h := by
    obtain rfl := Except.ok.inj h
    exact ⟨_, rfl, _, rfl, rfl⟩
  effect {args capsule} h := by
    obtain rfl := Except.ok.inj h
    rfl
  parent {args capsule} h := by
    obtain rfl := Except.ok.inj h
    have hparent : ∀ o : Option String, (Json.ofStr? o).str? = o := by
      intro o
      cases o <;> rfl
    exact hparent args.priorCapsuleId
  capsuleId {args capsule} h := by
    obtain rfl := Except.ok.inj h
    refine ⟨"id:" ++ args.actionId, rfl, ?_⟩
    intro hempty
    have hlength := congrArg String.length hempty
    rw [String.length_append] at hlength
    exact absurd (Nat.eq_zero_of_add_eq_zero_right hlength) (by decide)
  actionId {args args' capsule capsule'} h h' hid := by
    obtain rfl := Except.ok.inj h
    obtain rfl := Except.ok.inj h'
    have hid : "id:" ++ args.actionId = "id:" ++ args'.actionId := Option.some.inj hid
    simpa using hid

end CapsuleMesh
