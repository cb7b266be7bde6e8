import CapsuleMesh.Viewer.Labels

/-!
# One exchange of a history

`serving_provenance` and `friendly_model_name` of `capsule_mesh_viewer.py`, and the row that
`build_exchange` of `trust_summary.py` makes of a record.
-/

namespace CapsuleMesh.Viewer

open Python Stranger

/-! ## What a record says of its model -/

/-- The fields of the flat shape that a history reads. -/
structure ServingProvenance where
  model : Json
  quantization : Json
  architecture : Json
  parameterSize : Json
  modelCanonicalRef : Json
  servedByNodeId : Json
  promptTokens : Json
  completionTokens : Json

/-- `a or b`, where `b` is not read after a true `a`. -/
def orRead (a : Json) (b : Py Json) : Py Json := if a.truthy then .ok a else b

/-- `n in src and src[n] is not None`, with the value.  A text or a list that has the name cannot be
indexed with it. -/
def pickIn (src : Json) (n : String) : Py (Option Json) :=
  match src with
  | .obj members => .ok ((members.lookup n).filter fun value => !value.isNull)
  | .arr elems => if elems.any fun e => e.pyEq (.str n) then .error .typeError else .ok none
  | .str s => if isIn n s then .error .typeError else .ok none
  | _ => .error .typeError

def pick (n : String) : List Json → Py Json
  | [] => .ok .null
  | src :: srcs => do
      match ← pickIn src n with
      | some value => return value
      | none => pick n srcs

def servingProvenance (record : Json) : Py ServingProvenance := do
  let poc ← pocBlock record
  let sp := (← poc.get "serving_provenance").or (.obj [])
  let model := (← sp.get "model").or (.obj [])
  let hw := (← sp.get "hardware").or (.obj [])
  let usage := (← sp.get "usage").or (.obj [])
  let spRef ← sp.get "model_canonical_ref"
  let ref ← orRead spRef do
    orRead (← model.get "canonical_ref") do
      (← record.getD "model_attestation" (.obj [])).get "model_id"
  let architecture ← pick "architecture" [sp, model, hw]
  let parameterSize ← pick "parameter_size" [sp, model, hw]
  let _ ← pick "context_length" [sp, model, hw]
  let _ ← pick "layer_count" [sp, model, hw]
  let _ ← model.get "identity_hash"
  let canonicalRef ← orRead spRef (model.get "canonical_ref")
  let _ ← hw.get "gpu"
  return {
    model := ref
    quantization := ← sp.get "quantization"
    architecture := architecture
    parameterSize := parameterSize
    modelCanonicalRef := canonicalRef
    servedByNodeId := ← sp.get "served_by_node_id"
    promptTokens := ← usage.get "prompt_tokens"
    completionTokens := ← usage.get "completion_tokens" }

def ARCH_FAMILY : List (String × String) :=
  [("llama", "Llama"), ("mistral", "Mistral"), ("qwen", "Qwen"), ("gemma", "Gemma"), ("phi", "Phi")]

/-- `x.lower()`, as far as the names of `ARCH_FAMILY` can tell. -/
def lower : Json → Py String
  | .str s => .ok (String.ofList (s.toList.map Char.toLower))
  | _ => .error .attributeError

/-- `s.split("/")[-1]`. -/
def lastPart (s : String) : String :=
  String.ofList (s.toList.reverse.takeWhile (· ≠ '/')).reverse

/-- `str(quant) if quant and quant != "unknown" else None`. -/
def knownQuantization (sp : ServingProvenance) : Option String :=
  if isNamed sp.quantization then some sp.quantization.pyStr else none

def friendlyModelName (sp : ServingProvenance) : Py String := do
  let ref := (sp.modelCanonicalRef.or sp.model).or (.str "")
  let withQuant (name : String) :=
    match knownQuantization sp with
    | some quant => name ++ " · " ++ quant
    | none => name
  if ref.truthy && !startsWith ref.pyStr "local-gguf/" && isIn "/" ref.pyStr then
    return withQuant (lastPart ref.pyStr)
  else
    match ARCH_FAMILY.lookup (← lower (sp.architecture.or (.str ""))) with
    | some family =>
        if sp.parameterSize.truthy then return withQuant (family ++ "-" ++ sp.parameterSize.pyStr)
        else return withQuant family
    | none => return withQuant "local model"

/-- `f"{word} {gp[name]}"` for a parameter that is there. -/
def settingBit (gp : Json) (name word : String) : Py (List String) := do
  let value ← gp.get name
  if value.isNull then return [] else return [word ++ " " ++ value.pyStr]

def settingsLine (sp : ServingProvenance) (record : Json) : Py String := do
  let gp := (← (← pocBlock record).get "generation_parameters").or (.obj [])
  let temperature ← settingBit gp "temperature" "temp"
  let seed ← settingBit gp "seed" "seed"
  let topP ← settingBit gp "top_p" "top_p"
  let bits := temperature ++ seed ++ topP ++ (knownQuantization sp).toList
  if bits.isEmpty then return "settings not in record" else return " · ".intercalate bits

/-! ## The chip -/

inductive ChipKind where
  | witnessed
  | verified
  | failed
  | selfAttested
deriving DecidableEq

structure Chip where
  kind : ChipKind
  mark : String
  label : String

def exchangeChip (verifyOk : Option Bool) (hasWitnessCheckpoint : Bool) : Chip :=
  if hasWitnessCheckpoint && verifyOk = some true then
    ⟨.witnessed, "◷", "witnessed (anchored)"⟩
  else if verifyOk = some true then ⟨.verified, "✓", "verified in browser"⟩
  else if verifyOk = some false then ⟨.failed, "✗", "verify FAILED"⟩
  else ⟨.selfAttested, "⚠", "self-attested"⟩

/-! ## The row -/

structure Exchange where
  capsuleId : Json
  timestamp : Json
  direction : Json
  counterparty : String
  friendlyModel : String
  settings : String
  tokensIn : Json
  tokensOut : Json
  nodeId : Json
  chip : Chip
  evidenceCapsuleId : Json

def buildExchange (record : Json) (sourceLog : String) (verifyOk : Option Bool)
    (hasWitnessCheckpoint : Bool) : Py Exchange := do
  let sp ← servingProvenance record
  let role ← labelRole record sourceLog
  let capsuleId ← record.getD "capsule_id" (.str "")
  return {
    capsuleId := capsuleId
    timestamp := ← record.get "timestamp"
    direction :=
      if role.pyEq (.str "served") then .str "served"
      else if role.pyEq (.str "requested") then .str "sent"
      else role
    counterparty := ← labelCounterparty record none
    friendlyModel := ← friendlyModelName sp
    settings := ← settingsLine sp record
    tokensIn := sp.promptTokens
    tokensOut := sp.completionTokens
    nodeId := sp.servedByNodeId
    chip := exchangeChip verifyOk hasWitnessCheckpoint
    evidenceCapsuleId := capsuleId }

theorem chip_of_buildExchange {record : Json} {sourceLog : String} {verifyOk : Option Bool}
    {hasWitnessCheckpoint : Bool} {exchange : Exchange}
    (h : buildExchange record sourceLog verifyOk hasWitnessCheckpoint = .ok exchange) :
    exchange.chip = exchangeChip verifyOk hasWitnessCheckpoint := by
  simp only [buildExchange, Py.bind_eq_ok, Py.pure_eq_ok, Except.ok.injEq] at h
  obtain ⟨_, -, _, -, _, -, _, -, _, -, _, -, _, -, rfl⟩ := h
  rfl

end CapsuleMesh.Viewer
