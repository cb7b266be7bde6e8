import CapsuleMesh.Delegation.Verifier
import CapsuleMesh.Stranger.Bundle

/-!
# The labels of a record

`label_role`, `label_counterparty` and `label_advertised_vs_served` of `capsule_mesh_view.py`.
They are shown and never stored, and a record of another shape makes them raise.
-/

namespace CapsuleMesh.Viewer

open Python Stranger

def SOURCE_PLUGIN : String := "plugin"

def SOURCE_SIDECAR : String := "sidecar"

def SERVED_OBSERVATION_POINTS : List String :=
  ["gateway_ingress", "serving_host_ingress", "backend_dispatch", "client_egress"]

def DEFAULT_ROLE_BY_SOURCE : List (String × String) :=
  [(SOURCE_PLUGIN, "served"), (SOURCE_SIDECAR, "served")]

def EXPLICIT_POC_ROLES : List String := ["requested", "served", "conflict", "unknown"]

def lifecycleBlock (record : Json) : Py Json := do
  let ma ← record.getD "model_attestation" (.obj [])
  let ca ← ma.getD "compute_attestation" (.obj [])
  return (← ca.getD "x-mesh-lifecycle-v1" (.obj [])).or (.obj [])

/-- `value in known`, for a set of texts. -/
def isOneOf (value : Json) (known : List String) : Py Bool := do
  let _ ← value.key
  return Delegation.listed value known

def labelRole (record : Json) (sourceLog : String) : Py Json := do
  let pocRole ← (← pocBlock record).get "role"
  if ← isOneOf pocRole EXPLICIT_POC_ROLES then return pocRole
  else
    let observationPoint ← (← lifecycleBlock record).get "observation_point"
    if ← isOneOf observationPoint SERVED_OBSERVATION_POINTS then return .str "served"
    else return .str ((DEFAULT_ROLE_BY_SOURCE.lookup sourceLog).getD "unknown")

/-- `f"{x[:n]}"`. -/
def clip (value : Json) (n : ℕ) : Py String :=
  match value with
  | .str s => .ok (String.ofList (s.toList.take n))
  | .arr elems => .ok (Json.arr (elems.take n)).pyStr
  | _ => .error .typeError

/-- A truthy value other than `"unknown"`. -/
def isNamed (value : Json) : Bool := value.truthy && !value.pyEq (.str "unknown")

/-- The second tier: the node that ran the model, where it is a peer. -/
def servedByLabel (poc sp : Json) (ownNodeId : Option String) : Py (Option String) := do
  let servedBy ← sp.get "served_by_node_id"
  if !isNamed servedBy then return none
  else
    let role ← poc.get "role"
    let elsewhere := ownNodeId.any fun own => decide (own ≠ "") && !servedBy.pyEq (.str own)
    if role.pyEq (.str "requested") || elsewhere then
      return some ("node:" ++ (← clip servedBy 16))
    else return none

/-- The first tier: the digest of a bilateral attestation. -/
def bilateralLabel (poc : Json) : Py (Option String) := do
  let crossParty ← poc.get "cross_party"
  if !crossParty.truthy then return none
  else
    let initiatorRef ← crossParty.get "initiator_ref"
    if initiatorRef.truthy then return some ("initiator:" ++ (← clip initiatorRef 12))
    else
      let counterpartyRef ← crossParty.get "counterparty_ref"
      if counterpartyRef.truthy then return some ("counterparty:" ++ (← clip counterpartyRef 12))
      else return none

def labelCounterparty (record : Json) (ownNodeId : Option String) : Py String := do
  let poc ← pocBlock record
  match ← bilateralLabel poc with
  | some label => return label
  | none =>
      let sp := (← poc.get "serving_provenance").or (.obj [])
      match ← servedByLabel poc sp ownNodeId with
      | some label => return label
      | none =>
        let requestingParty ← sp.get "requesting_party"
        if isNamed requestingParty then return "node:" ++ (← clip requestingParty 16)
        else return "unknown"

def reconcileRecord (T : Tools) (record : Json) : Py Reconciliation := do
  let poc ← pocBlock record
  let advertisement ← poc.get "advertisement"
  let ad ← if advertisement.truthy then do pure (some (← Advertisement.fromValue advertisement))
    else pure none
  reconcileAdvertisedVsServed T ad (← poc.get "serving_provenance")

def labelAdvertisedVsServed (T : Tools) (record : Json) : Py String := do
  let result ← reconcileRecord T record
  if result.overall = "mismatch" then
    return "mismatch(" ++ ",".intercalate result.mismatches ++ ")"
  else return result.overall

/-- What the viewer shows of a record beside its id and its time. -/
structure Labels where
  role : Json
  counterparty : String
  advertisedVsServed : String

def labels (T : Tools) (record : Json) (sourceLog : String) : Py Labels := do
  return {
    role := ← labelRole record sourceLog
    counterparty := ← labelCounterparty record none
    advertisedVsServed := ← labelAdvertisedVsServed T record }

end CapsuleMesh.Viewer
