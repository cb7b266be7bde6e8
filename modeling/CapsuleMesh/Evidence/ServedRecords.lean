import CapsuleMesh.Evidence.Reply

/-!
# The records of an answer

`served_records` and `verified_records` of `ask_history.py`.  Each form of answer has its own check
that the records are the ones that were asked for; every record comes with an inclusion proof under
the anchor checkpoint.
-/

namespace CapsuleMesh.AskHistory

open Python Evidence

def KIND_CHECKPOINT : String := "cll-checkpoint"

def KIND_INCLUSION : String := "cll-inclusion-proof"

def KIND_CONSISTENCY : String := "cll-consistency-proof"

/-! ## The digest of a body -/

/-- `scan_once` with `_no_duplicate_members` for the dictionaries. -/
def scanStrict (floatRepr : String → String) : ℕ → Scanner Json
  | 0, _ => none
  | _ + 1, [] => none
  | fuel + 1, c :: cs =>
      if c = doubleQuote then do
        let (text, cs) ← scanString cs.length cs
        return (.str (String.ofList text), cs)
      else if c = '[' then do
        let (elems, cs) ← scanGroup (scanStrict floatRepr fuel) ']' cs
        return (.arr elems, cs)
      else if c = '\x7b' then do
        let (pairs, cs) ← scanGroup (scanMember (scanStrict floatRepr fuel)) '\x7d' cs
        if (pairs.map Prod.fst).Nodup then return (.obj pairs, cs) else none
      else (scanLiteral (c :: cs)).orElse fun _ => scanNumber floatRepr (c :: cs)

def strictLoads (floatRepr : String → String) (text : String) : Option Json :=
  match scanStrict floatRepr text.length (skipBlanks text.toList) with
  | some (j, rest) => if skipBlanks rest = [] then some j else none
  | none => none

section

variable (T : EvidenceTools)

def recordDigest (body : Bytes) : Option String :=
  match (decodeUtf8 body).toOption.bind (strictLoads T.floatRepr) with
  | some (.obj members) => do
      let preimage := members.filter fun m => m.1 ≠ "capsule_id" ∧ m.1 ∉ T.localOnlyFields
      let stated ← (members.lookup "capsule_id").bind Json.str?
      let bytes ← T.jcs (.obj preimage)
      if T.sha256Hex bytes = stated then some stated else none
  | _ => none

/-- `_parsed_record`, and the empty dictionary where there is none. -/
def parsedRecord (body : Bytes) : List (String × Json) :=
  match T.jsonLoads body with
  | .ok (.obj members) => members
  | _ => []

/-- The digest names the body: it is the hash of its octets, or of the record in it. -/
def names (body : Bytes) (digest : String) : Bool :=
  decide (T.sha256Hex body = digest) || decide (recordDigest T body = some digest)

/-! ## A set of records -/

structure ServedRecord where
  leafIndex : ℕ
  capsuleId : String
  receipt : List (String × Json)

/-- Records, or the problem with them. -/
abbrev Found := Except String

structure Served where
  records : List ServedRecord
  anchor : Option CarriedCheckpoint
  problems : List String

/-- What a record of the artifact states: its body, its digest and its leaf. -/
def statedRecord (record : Json) : Py (Bytes × Json × Json) := do
  let raw ← bytesFromHex (← (← record.item "body").toStr)
  return (raw, ← record.item "digest", ← record.item "leaf_index")

/-- A leaf under the anchor. -/
def leafUnder (anchor : CarriedCheckpoint) (leaf : Json) : Option ℕ :=
  match leaf with
  | .int n => if 0 ≤ n ∧ n < anchor.covered then some n.toNat else none
  | _ => none

/-- One turn of the loop of `_served_set`, behind a record at the leaf `last`. -/
def takeRecord (anchor : CarriedCheckpoint) (last : Option ℕ) (i : ℕ) (record : Json)
    (proof : Bytes) : Py (Found ServedRecord) :=
  match statedRecord record with
  | .error _ => .ok (.error ("record " ++ toString i ++ " is malformed"))
  | .ok (raw, digest, leaf) =>
      match digest.str?.filter fun d => T.isDigest digest && names T raw d with
      | none =>
        .ok (.error ("record " ++ toString i ++ "'s body is not the record its digest names"))
      | some digest =>
        match leafUnder anchor leaf with
        | none => .ok (.error ("record " ++ toString i ++ " is not under the anchor"))
        | some leaf =>
          if last.any fun l => decide (leaf ≤ l) then
            .ok (.error "the records are not in log order")
          else do
            if ← proves T.proof proof leaf digest anchor.served then
              return .ok ⟨leaf, digest, parsedRecord T raw⟩
            else
              return .error ("record " ++ toString i ++ "'s inclusion proof does not hold")

/-- The loop of `_served_set`. -/
def takeRecords (anchor : CarriedCheckpoint) (last : Option ℕ) (i : ℕ) :
    List (Json × Bytes) → Py (Found (List ServedRecord))
  | [] => .ok (.ok [])
  | (record, proof) :: rest => do
      match ← takeRecord T anchor last i record proof with
      | .error problem => return .error problem
      | .ok served =>
        match ← takeRecords anchor (some served.leafIndex) (i + 1) rest with
        | .error problem => return .error problem
        | .ok out => return .ok (served :: out)

/-- The first leaf, the last and the count. -/
def ends (records : List ServedRecord) : ℕ × ℕ × ℕ :=
  ((records.head?.map ServedRecord.leafIndex).getD 0,
   (records.getLast?.map ServedRecord.leafIndex).getD 0, records.length)

/-- The problem with a set of records as an answer to what was asked. -/
def setProblem (subject : Subject) (anchor : CarriedCheckpoint) (records : List ServedRecord) :
    Option String :=
  let (first, last, count) := ends records
  match subject with
  | .range a b =>
      if first = a ∧ last = b ∧ (count : Int) = b - a + 1 then none
      else some "the records are not the range asked for"
  | .fullHistory =>
      if first = 0 ∧ (last : Int) = anchor.covered - 1 ∧ count = anchor.covered then none
      else some "the records are not the full history under the anchor"
  | _ => none

/-- `_anchor`; the body is that of an artifact which names an anchor. -/
def anchorOf (envelope : Envelope) (statement : Bytes) (body : Option (List (String × Json))) :
    Py (Found CarriedCheckpoint) := do
  match ← stated T statement envelope with
  | none => return .error "the anchor checkpoint is not the responder's, or does not verify"
  | some anchor =>
      let named := body.all fun body =>
        ((body.lookup "anchor").getD .null).pyEq (.str anchor.digest) &&
          ((body.lookup "evidence_stream").getD .null).pyEq (.str anchor.record.logId)
      if named then return .ok anchor
      else return .error "the artifact names another anchor or stream than its checkpoint's"

def bodyMembers (reply : Reply) : List (String × Json) :=
  match reply.body with
  | .obj members => members
  | _ => []

/-- The records that the artifact lists. -/
def listedRecords (body : List (String × Json)) : Option (List Json) :=
  match body.lookup "records" with
  | some (.arr records) =>
      if records.isEmpty ∨ MAX_ITEMS < records.length then none else some records
  | _ => none

def servedSet (reply : Reply) (envelope : Envelope) : Py Served := do
  let body := bodyMembers reply
  match listedRecords body with
  | none => return ⟨[], none, ["the artifact carries no records, or too many"]⟩
  | some records =>
      if !((body.lookup "subject").getD .null).pyEq envelope.subject.toWire ||
          (body.lookup "derivation").isSome then
        return ⟨[], none, ["the artifact is for another subject"]⟩
      else
        match envelope.verification with
        | (kind, statement) :: proofs =>
          if kind ≠ KIND_CHECKPOINT ∨
              proofs.map Prod.fst ≠ List.replicate records.length KIND_INCLUSION then
            return ⟨[], none,
              ["the material is not the anchor checkpoint and one inclusion proof per record"]⟩
          else
            match ← anchorOf T envelope statement (some body) with
            | .error problem => return ⟨[], none, [problem]⟩
            | .ok anchor =>
              match ← takeRecords T anchor none 0 (records.zip (proofs.map Prod.snd)) with
              | .error problem => return ⟨[], some anchor, [problem]⟩
              | .ok out =>
                match setProblem envelope.subject anchor out with
                | some problem => return ⟨[], some anchor, [problem]⟩
                | none => return ⟨out, some anchor, []⟩
        | [] => return ⟨[], none,
            ["the material is not the anchor checkpoint and one inclusion proof per record"]⟩

/-! ## One record -/

/-- `order.index(kind) if kind in order else len(order)`. -/
def kindRank (kind : String) : ℕ :=
  [KIND_CHECKPOINT, KIND_INCLUSION, KIND_CONSISTENCY].idxOf kind

def leafOfNodeIndex (index : Int) : Option ℕ :=
  if 0 ≤ index ∧ index < 2 ^ 53 then
    (List.range' (index.toNat / 2) 28).find? fun n =>
      decide ((2 * n : Int) - Library.MountainRange.popcount n = index)
  else none

/-- The problem with the proof that the anchor extends its predecessor, where there is one. -/
def consistencyProblem (anchor : CarriedCheckpoint) (proof : Option Bytes) : Option String :=
  match proof with
  | none => none
  | some proof =>
      if T.consistencySizes proof ≠ some (anchor.record.prevSize, anchor.record.mmrSize) then
        some "the anchor's consistency proof is not from its predecessor to it"
      else
        match T.verifyConsistency anchor.prevPeaks anchor.peaks proof with
        | .ok _ => none
        | .error exc => some ("the anchor's consistency proof does not hold: " ++ exc)

/-- The anchor's statement, the record's proof and, where it is there, the anchor's own. -/
def recordMaterial (material : List (String × Bytes)) : Option (Bytes × Bytes × Option Bytes) :=
  match material with
  | [(a, statement), (b, inclusion)] =>
      if a = KIND_CHECKPOINT ∧ b = KIND_INCLUSION then some (statement, inclusion, none) else none
  | [(a, statement), (b, inclusion), (c, consistency)] =>
      if a = KIND_CHECKPOINT ∧ b = KIND_INCLUSION ∧ c = KIND_CONSISTENCY then
        some (statement, inclusion, some consistency)
      else none
  | _ => none

/-- `_served_record`, behind the checks of the artifact. -/
def provenRecord (envelope : Envelope) (digest : String) (material : List (String × Bytes)) :
    Py Served := do
  match recordMaterial material with
  | none => return ⟨[], none, ["the material is not the anchor checkpoint and the record's proofs"]⟩
  | some (statement, inclusion, consistency) =>
      match ← anchorOf T envelope statement none with
      | .error problem => return ⟨[], none, [problem]⟩
      | .ok anchor =>
        let leaf := (T.proof.loads inclusion).bind fun read => leafOfNodeIndex read.1
        match leaf with
        | none => return ⟨[], some anchor, ["the record's inclusion proof does not hold"]⟩
        | some leaf =>
          if !(← proves T.proof inclusion leaf digest anchor.served) then
            return ⟨[], some anchor, ["the record's inclusion proof does not hold"]⟩
          else
            match consistencyProblem T anchor consistency with
            | some problem => return ⟨[], some anchor, [problem]⟩
            | none =>
              return ⟨[⟨leaf, digest, parsedRecord T envelope.artifact⟩], some anchor, []⟩

def servedRecord (reply : Reply) (envelope : Envelope) (digest : String) : Py Served :=
  let ownOctets := decide (envelope.artifactDigest = digest)
  if !ownOctets && decide (recordDigest T envelope.artifact ≠ some digest) then
    .ok ⟨[], none, ["the artifact is not the record the subject names"]⟩
  else if ownOctets && !reply.cll.any fun cll => cll.status = "PASS" then
    .ok ⟨[], none, ["anchor_inclusion: " ++ (reply.cll.map CllCheck.detail).getD "no material"]⟩
  else
    provenRecord T envelope digest
      (if ownOctets then
        envelope.verification.insertionSort fun a b => kindRank a.1 ≤ kindRank b.1
      else envelope.verification)

/-! ## All forms -/

/-- The records of an answer, by its form. -/
def servedForm (reply : Reply) (envelope : Envelope) : Py Served :=
  match envelope.subject with
  | .record digest => servedRecord T reply envelope digest
  | .checkpoints => .ok ⟨[], none, ["not a record answer"]⟩
  | _ => servedSet T reply envelope

def servedRecords (reply : Reply) : Py Served := do
  match reply.envelope.filter fun envelope => envelope.derivation.isNone with
  | none => return ⟨[], none, ["not a plain record answer"]⟩
  | some envelope =>
      let found ← servedForm T reply envelope
      match found.anchor, found.problems with
      | some anchor, [] =>
        let coverage := checkCoverage T reply.request envelope anchor
          (found.records.map ServedRecord.leafIndex)
        let problems := if coverage.isEmpty then checkReceipts T reply [anchor] else coverage
        return ⟨if problems.isEmpty then found.records else [], some (anchor.attach reply), problems⟩
      | anchor, problems => return ⟨[], anchor, problems⟩

def verifiedRecords (reply : Reply) : Py (List ServedRecord) := do
  if !reply.ok || reply.envelope.isNone then return []
  else
    let served ← servedRecords T reply
    return if served.problems.isEmpty then served.records else []

end

end CapsuleMesh.AskHistory
