import CapsuleMesh.Coordinator.Command
import CapsuleMesh.Python.Paths
import CapsuleMesh.Python.TextLines

/-!
# What a request can make a stage node disclose

`directory_stage_node` and `do_GET` of `capsule_disclosure_endpoint.py`.  The last segment of a
request is decoded after the path was split, so it may hold slashes, and the path of the bundle file
is joined from it.
-/

namespace CapsuleMesh.Coordinator

open Python

/-! ## The endpoint -/

/-- What `is_file` and `read_bytes` find under a path, as the system resolves it. -/
structure FileSystem where
  isFile : PurePath → Py Bool
  readBytes : PurePath → Py Bytes

/-- `json.loads`, with the error of a text that runs into a limit of the interpreter. -/
structure Decoder where
  floatRepr : String → String
  beyondLimit : String → Option PyError

def Decoder.loads (D : Decoder) (text : String) : Py Json :=
  match D.beyondLimit text with
  | some e => .error e
  | none => Python.loads D.floatRepr text

/-- The bundle in a file of these octets. -/
def parseBundle (D : Decoder) (data : Bytes) : Py StageBundle := do
  let text ← decodeUtf8 data
  stageBundleFromDict (← D.loads (String.ofList (universalNewlines text.toList)))

/-- `directory_stage_node(bundles_dir, run_id=run_id)`. -/
def directoryStageNode (D : Decoder) (files : FileSystem) (bundlesDir : PurePath) (runId : String)
    (askedRunId hopId : String) : Py (Option StageBundle) := do
  if askedRunId ≠ runId then
    return none
  let path := bundlesDir.join (hopId ++ ".json")
  if !(← files.isFile path) then
    return none
  let bundle ← parseBundle D (← files.readBytes path)
  if !bundle.hopId.pyEq (.str hopId) then
    return none
  return some bundle

def stageBundleToDict (bundle : StageBundle) : Json :=
  .obj [("hop_id", bundle.hopId), ("stage_capsule", bundle.stageCapsule),
    ("inclusion_proof", bundle.inclusionProof)]

structure HttpReply where
  status : ℕ
  contentType : String
  body : Bytes
deriving DecidableEq

def writeJson (status : ℕ) (payload : Json) : HttpReply :=
  ⟨status, "application/json", utf8 payload.dumps⟩

def statusLine (runId : String) (hopIds : List String) : HttpReply :=
  ⟨200, "text/plain",
    utf8 ("capsule-disclosure-endpoint: run_id=" ++ runId ++ " hops=" ++ reprTexts hopIds ++ "\n")⟩

def declined (askedRunId hopId : String) : HttpReply :=
  writeJson 404
    (.obj [("error", .str "declined_or_absent"), ("run_id", .str askedRunId),
      ("hop_id", .str hopId)])

def bundleReply (askedRunId hopId : String) : Option StageBundle → HttpReply
  | none => declined askedRunId hopId
  | some bundle => writeJson 200 (stageBundleToDict bundle)

def notFound (path : String) : HttpReply :=
  writeJson 404 (.obj [("error", .str "not_found"), ("path", .str path)])

/-- `path.strip("/")`. -/
def stripBoth (path : List Char) : List Char :=
  ((path.dropWhile (· = '/')).reverse.dropWhile (· = '/')).reverse

/-- `[unquote(p) for p in self.path.strip("/").split("/") if p]`. -/
def requestParts (path : String) : List String :=
  (((stripBoth path.toList).splitOn '/').filter (· ≠ [])).map fun p => unquote (String.ofList p)

def doGet (node : String → String → Py (Option StageBundle)) (runId : String)
    (hopIds : List String) (path : String) : Py HttpReply :=
  match requestParts path with
  | [] => .ok (statusLine runId hopIds)
  | ["bundle", askedRunId, hopId] => do
      return bundleReply askedRunId hopId (← node askedRunId hopId)
  | _ => .ok (notFound path)

/-- The reply of an endpoint in front of a directory. -/
def serve (D : Decoder) (files : FileSystem) (bundlesDir : PurePath) (runId : String)
    (hopIds : List String) (path : String) : Py HttpReply :=
  doGet (directoryStageNode D files bundlesDir runId) runId hopIds path

/-! ## What it is for -/

/-- What a node discloses from the bundles under file names, none of which has a slash. -/
def disclosure (bundles : String → Option StageBundle) (hopId : String) : Option StageBundle :=
  if '/' ∈ hopId.toList then none
  else (bundles (hopId ++ ".json")).filter fun bundle => bundle.hopId.pyEq (.str hopId)

section

variable {D : Decoder} {files : FileSystem} {bundlesDir : PurePath} {runId hopId : String}

end

/-! ## Asking for any hop -/

end CapsuleMesh.Coordinator
