import CapsuleMesh.Lifecycle.Record
import CapsuleMesh.Python.Order

/-!
# The coordinator's receipt

`mesh_coordinator_receipt_emitter.py`, with the composing half of
`mesh_coordinator_bundle_flow.py`.  A receipt states the hops of a run in their order and, for each
hop, the digest of the record that the stage disclosed.
-/

namespace CapsuleMesh.Coordinator

open Python Lifecycle

def DIGEST_ALG : String := "SHA-256"

def isHexDigit (c : Char) : Bool := c ∈ "0123456789abcdef".toList

def isHexDigest (digest : String) : Bool :=
  digest.toList.length = 64 && digest.toList.all isHexDigit

/-- `hashlib.sha256(data).hexdigest()`. -/
structure Sha256 where
  hexdigest : Bytes → String
  isHexDigest_hexdigest : ∀ data, isHexDigest (hexdigest data) = true

/-- `type(x).__name__`. -/
def typeName : Json → String
  | .null => "NoneType"
  | .bool _ => "bool"
  | .int _ => "int"
  | .float _ => "float"
  | .str _ => "str"
  | .arr _ => "list"
  | .obj _ => "dict"

/-- `repr` of a list of texts. -/
def reprTexts (texts : List String) : String := (Json.arr (texts.map .str)).pyRepr

def validateBundleRef (bundleRef : Json) : Py Unit :=
  match bundleRef with
  | .obj members => do
      let missing := ["digest", "digest_alg", "type"].filter fun k => (members.lookup k).isNone
      if missing ≠ [] then
        throw (.valueError ("bundle_ref missing required key(s): " ++ reprTexts missing))
      let type ← bundleRef.item "type"
      if type.str?.all fun t => t.toList.all isSpace then
        throw (.valueError "bundle_ref.type must be a non-empty string")
      let digestAlg ← bundleRef.item "digest_alg"
      if !digestAlg.pyEq (.str DIGEST_ALG) then
        throw (.valueError ("bundle_ref.digest_alg must be " ++ pyRepr DIGEST_ALG ++ " — got " ++
          digestAlg.pyRepr))
      let digest ← bundleRef.item "digest"
      if !digest.str?.any isHexDigest then
        throw (.valueError "bundle_ref.digest must be 64-char lowercase hex (SHA-256)")
  | _ => throw (.valueError ("bundle_ref must be a dict — got " ++ typeName bundleRef))

/-- One hop, as the coordinator says it routed. -/
structure TopologyEntry where
  seq : Int
  hopId : String
  role : String
  observationPoint : Option String := none
  hopId_ne : hopId ≠ ""
  role_ne : role ≠ ""
  observationPoint_mem : ∀ point ∈ observationPoint, point ∈ OBSERVATION_POINTS

inductive BundleState where
  | present
  | absent
  | notRequested
deriving DecidableEq

def BundleState.name : BundleState → String
  | .present => "present"
  | .absent => "absent"
  | .notRequested => "not_requested"

/-- A stage cites a digest exactly when its bundle is present. -/
structure StageEntry where
  hopId : String
  bundle : BundleState
  bundleRef : Option Json
  hopId_ne : hopId ≠ ""
  bundleRef_of_present : bundle = .present →
    ∃ ref, bundleRef = some ref ∧ validateBundleRef ref = .ok ()
  bundleRef_of_ne : bundle ≠ .present → bundleRef = none

def TopologyEntry.toJson (t : TopologyEntry) : Json :=
  .obj
    [("seq", .int t.seq),
     ("hop_id", .str t.hopId),
     ("role", .str t.role),
     ("observation_point", .ofStr? t.observationPoint)]

def StageEntry.toJson (s : StageEntry) : Json :=
  .obj ([("hop_id", .str s.hopId), ("bundle", .str s.bundle.name)] ++
    match s.bundleRef with
    | some bundleRef => [("bundle_ref", bundleRef)]
    | none => [])

/-- The block, before `extra` is laid over it. -/
def meshBlock (runId : String) (topology : List TopologyEntry) (stages : List StageEntry) :
    List (String × Json) :=
  [("v", .int 1),
   ("kind", .str "mesh-coordinator-receipt"),
   ("run_id", .str runId),
   ("topology", .arr (topology.map TopologyEntry.toJson)),
   ("stages", .arr (stages.map StageEntry.toJson))]

/-- What a stage-node chose to disclose; it may come from an untrusted file. -/
structure StageBundle where
  hopId : Json
  stageCapsule : Json
  inclusionProof : Json := .null

def bundleDigest (sha256 : Sha256) (bundle : StageBundle) : String :=
  sha256.hexdigest (capsuleToBytes bundle.stageCapsule)

end CapsuleMesh.Coordinator
