import CapsuleMesh.Library.LastWrite
import CapsuleMesh.Python.Equality
import CapsuleMesh.Python.TextLines

/-!
# The capsule of the host for an exchange

`provenance_fold_join.py`: the ledger of the plugin is scanned for the capsule of an exchange, by the
digest of its request, and the capsule of the sidecar is joined with it.  The capsule package is a
parameter.
-/

namespace CapsuleMesh.ProvenanceFold

open Python Library Raising

/-! ## The blocks of a capsule -/

def computeAttestation (capsule : Json) : Py Json := do
  let attestation := (← capsule.get "model_attestation").or (.obj [])
  return (← attestation.get "compute_attestation").or (.obj [])

def poc (capsule : Json) : Py Json := do
  return (← (← computeAttestation capsule).get "x-mesh-poc-v1").or (.obj [])

def servingProvenance (capsule : Json) : Py Json := do
  return (← (← poc capsule).get "serving_provenance").or (.obj [])

def role (capsule : Json) : Py Json := do
  (← poc capsule).get "role"

def agentInputDigest (capsule : Json) : Py Json := do
  (← computeAttestation capsule).get "agent_input_digest"

/-! ## The scan -/

/-- The lines, newest first. -/
def scanLines (floatRepr : String → String) (digest : String) : List (List Char) → Py (Option Json)
  | [] => .ok none
  | line :: older =>
      if strip (String.ofList line) = "" then scanLines floatRepr digest older
      else do
        let capsule ← loads floatRepr (String.ofList line)
        if (← agentInputDigest capsule).pyEq (.str digest) then return some capsule
        else scanLines floatRepr digest older

/-- `contents` are those of `capsules.jsonl`, where it is a file. -/
def findHostProvenanceCapsule (floatRepr : String → String) (contents : Option Bytes)
    (digest : String) : Py (Option Json) :=
  match contents with
  | none => .ok none
  | some data => do
      let text ← decodeUtf8 data
      scanLines floatRepr digest (splitLines (universalNewlines text.toList)).reverse

/-! ## The join -/

inductive JoinError where
  | python (error : PyError)
  | unverifiableHalf (label : String)
  | roleNotServed (label : String) (role : Json)
  | ioDigestMismatch (sidecarDigest pluginDigest : Json)
  | joinerNotServingNode (servedBy : Json)
  | joinUnverifiable

def ofPy {α : Type} (x : Py α) : Except JoinError α := x.mapError .python

structure JoinEmitArgs where
  actionType : String
  operator : String
  developer : String
  computeAttestation : Json
  disposition : Json
  priorCapsuleId : Json
  chainRelation : String
  domain : String
  provenance : String
  toolName : String

/-- The capsule package. -/
structure JoinTools where
  verify : Json → Bool
  emit : JoinEmitArgs → Py (List (String × Json))
  computeCapsuleId : Json → Py String

def CITATION_PURPOSE_CITES_HOST_PROVENANCE : String := "cites_host_provenance"

def JOIN_CHAIN_RELATION : String := "confirms"

def JOIN_SCHEMA : String := "capsule-emit-mesh/provenance-fold-join/v1"

def HARDWARE_PROVENANCE_VANTAGE_CAVEAT : String :=
  "vantage-honesty: the hardware facts in the CITED capsule were observed and sealed " ++
  "by the party that mints THAT capsule (the admission-policy plugin, in-host, off the " ++
  "mesh openai.exchange.v1 terminal event) -- never by the joiner. This join capsule " ++
  "does not re-assert the cited hardware as its own observation; it only cites the " ++
  "other producer's already-sealed, independently-verifiable record by digest. " ++
  "Presenting host-observed-and-relayed hardware as if the joiner observed it directly " ++
  "is exactly the gate_executed-vs-runtime_claimed overclaim this label exists to " ++
  "prevent (the host-observed-hardware rule). Correlated by " ++
  "agent_input_digest, NOT exchange_id -- see module docstring for why."

def buildReference (capsuleId : Json) (citationPurpose : String) : Json :=
  .obj [("type", .str "capsule"), ("digest_alg", .str "SHA-256"), ("digest", capsuleId),
    ("citation_purpose", .str citationPurpose)]

def verifyHalf (tools : JoinTools) (label : String) (half : Json) : Except JoinError Unit :=
  if tools.verify half then .ok () else .error (.unverifiableHalf label)

def requireServed (label : String) (half : Json) : Except JoinError Unit := do
  let found ← ofPy (role half)
  if found.pyEq (.str "served") then return () else .error (.roleNotServed label found)

/-- The join capsule of two halves that fit. -/
def mintJoin (tools : JoinTools) (sidecar plugin : Json) (digest : Json)
    (joinerNodeId operator developer : String) : Except JoinError Json := do
  let sealed ← ofPy do
    tools.emit {
      actionType := "fyi"
      operator := operator
      developer := developer
      computeAttestation := .obj [("hardware_provenance_fold", .obj
        [("schema", .str JOIN_SCHEMA),
         ("agent_input_digest", digest),
         ("asserted_by_node_id", .str joinerNodeId),
         ("vantage_caveat", .str HARDWARE_PROVENANCE_VANTAGE_CAVEAT)])]
      disposition := .obj
        [("decision", .str "accept"), ("approver", .str "policy"), ("human_disposed", .bool false),
         ("verdict_class", .str "executed")]
      priorCapsuleId := ← sidecar.item "capsule_id"
      chainRelation := JOIN_CHAIN_RELATION
      domain := "action"
      provenance := "collector"
      toolName := "provenance_fold_join" }
  let pluginId ← ofPy (plugin.item "capsule_id")
  let reference := buildReference pluginId CITATION_PURPOSE_CITES_HOST_PROVENANCE
  let joined := Json.setMember "references" (.arr [reference]) sealed
  let capsuleId ← ofPy (tools.computeCapsuleId (.obj joined))
  let joined := Json.obj (Json.setMember "capsule_id" (.str capsuleId) joined)
  if tools.verify joined then return joined else .error .joinUnverifiable

def joinHardwareProvenance (tools : JoinTools) (sidecar plugin : Json)
    (joinerNodeId operator developer : String) : Except JoinError Json := do
  verifyHalf tools "sidecar" sidecar
  verifyHalf tools "plugin" plugin
  requireServed "sidecar" sidecar
  requireServed "plugin" plugin
  let sidecarDigest ← ofPy (agentInputDigest sidecar)
  let pluginDigest ← ofPy (agentInputDigest plugin)
  if !sidecarDigest.truthy || !sidecarDigest.pyEq pluginDigest then
    .error (.ioDigestMismatch sidecarDigest pluginDigest)
  else
    let servedBy ← ofPy do (← servingProvenance sidecar).get "served_by_node_id"
    if servedBy.pyEq (.str joinerNodeId) then
      mintJoin tools sidecar plugin sidecarDigest joinerNodeId operator developer
    else .error (.joinerNotServingNode servedBy)

/-! ## A ledger of one record a line -/

structure LedgerLine (floatRepr : String → String) where
  text : String
  record : Json
  single : '\n' ∉ text.toList ∧ '\r' ∉ text.toList
  reads : loads floatRepr text = .ok record

section

variable {floatRepr : String → String}

def ledgerText (lines : List (LedgerLine floatRepr)) : List Char :=
  lines.flatMap fun line => line.text.toList ++ ['\n']

/-- The file that holds the lines. -/
def ledgerFile (lines : List (LedgerLine floatRepr)) : Bytes :=
  utf8 (String.ofList (ledgerText lines))

/-- A capsule of the role served, with this digest. -/
def serves (digest : String) (record : Json) : Bool :=
  match agentInputDigest record, role record with
  | .ok found, .ok role => found.pyEq (.str digest) && role.pyEq (.str "served")
  | _, _ => false

/-- The most recently written capsule of the role served with this digest. -/
def newestServed (digest : String) (lines : List (LedgerLine floatRepr)) : Option Json :=
  lastWith (serves digest) (lines.map LedgerLine.record)

def Unbroken (line : LedgerLine floatRepr) : Prop := ∀ c ∈ line.text.toList, ¬Separator c

/-- The digest can be read, and a record with the one that is looked for is of the role served. -/
def Told (digest : String) (record : Json) : Prop :=
  ∃ found, agentInputDigest record = .ok found ∧
    (found = .str digest → role record = .ok (.str "served"))

/-- From the newest line to the newest served capsule, if any, every line is whole and told. -/
def Scannable (digest : String) (newestFirst : List (LedgerLine floatRepr)) : Prop :=
  ∀ newer line older, newestFirst = newer ++ line :: older →
    (∀ other ∈ newer, serves digest other.record = false) → Unbroken line ∧ Told digest line.record

theorem serves_iff {digest : String} {record : Json} : serves digest record = true ↔
    agentInputDigest record = .ok (.str digest) ∧ role record = .ok (.str "served") := by
  unfold serves
  split
  · rename_i found role hfound hrole
    rw [hfound, hrole, Bool.and_eq_true]
    constructor
    · rintro ⟨hdigest, hserved⟩
      rw [Json.eq_str_of_pyEq hdigest, Json.eq_str_of_pyEq hserved]
      exact ⟨rfl, rfl⟩
    · rintro ⟨hdigest, hserved⟩
      rw [Except.ok.inj hdigest, Except.ok.inj hserved]
      simp [Json.pyEq]
  · rename_i hnone
    apply iff_of_false Bool.false_ne_true
    rintro ⟨hdigest, hserved⟩
    exact hnone _ _ hdigest hserved

theorem scannable_cons_iff {digest : String} {line : LedgerLine floatRepr}
    {older : List (LedgerLine floatRepr)} :
    Scannable digest (line :: older) ↔ (Unbroken line ∧ Told digest line.record) ∧
      (serves digest line.record = false → Scannable digest older) := by
  constructor
  · intro h
    refine ⟨h [] line older rfl (List.forall_mem_nil _), ?_⟩
    intro hnot newer other rest hsplit hnewer
    apply h (line :: newer) other rest (by rw [hsplit, List.cons_append])
    exact List.forall_mem_cons.mpr ⟨hnot, hnewer⟩
  · rintro ⟨hline, holder⟩ newer other rest hsplit hnewer
    cases newer with
    | nil =>
        obtain ⟨rfl, -⟩ := List.cons.inj hsplit
        exact hline
    | cons first newer =>
        obtain ⟨rfl, hrest⟩ := List.cons.inj hsplit
        obtain ⟨hfirst, hnewer⟩ := List.forall_mem_cons.mp hnewer
        exact holder hfirst newer other rest hrest hnewer

/-! ## What the scan reads of a line -/

/-- The lines that `splitlines` makes of one. -/
def LedgerLine.pieces (line : LedgerLine floatRepr) : List (List Char) :=
  splitLines (line.text.toList ++ ['\n'])

theorem splitLines_ledgerText (lines : List (LedgerLine floatRepr)) :
    splitLines (ledgerText lines) = lines.flatMap LedgerLine.pieces := by
  induction lines with
  | nil => rfl
  | cons line lines ih =>
      rw [ledgerText, List.flatMap_cons, List.append_assoc, List.singleton_append,
        splitLines_append line.single.2 (by decide) (by decide), List.flatMap_cons]
      exact congrArg _ ih

theorem LedgerLine.pieces_unbroken {line : LedgerLine floatRepr} (h : Unbroken line) :
    line.pieces = [line.text.toList] := by
  have hline : ∀ c ∈ line.text.toList, lineBoundary c = false := by
    intro c hc
    rw [Bool.eq_false_iff]
    intro hboundary
    exact h c hc (separator_of_boundary line.reads line.single.1 line.single.2 hc hboundary)
  rw [LedgerLine.pieces, splitLines_line hline (by decide) (by decide), splitLines]

/-- A line with a separator ends in a piece that is no JSON text. -/
theorem LedgerLine.pieces_broken {line : LedgerLine floatRepr} (h : ¬Unbroken line) :
    ∃ before after, line.pieces = before ++ [after] ∧ strip (String.ofList after) ≠ "" ∧
      ∀ j, loads floatRepr (String.ofList after) ≠ .ok j := by
  rw [Unbroken] at h
  push Not at h
  obtain ⟨s, hs, hseparator⟩ := h
  obtain ⟨c, hlast⟩ : ∃ c, lastWith (fun d => decide (Separator d)) line.text.toList = some c :=
    lastWith_isSome hs (decide_eq_true hseparator)
  obtain ⟨before, after, hsplit, hc, hafter⟩ := lastWith_eq_some_iff.mp hlast
  have hc := of_decide_eq_true hc
  obtain ⟨hn, hr⟩ := line.single
  have hboundaries : ∀ d ∈ after, lineBoundary d = false := by
    intro d hd
    rw [Bool.eq_false_iff]
    intro hboundary
    have hmem : d ∈ line.text.toList := by
      rw [hsplit]
      exact List.mem_append_right _ (List.mem_cons_of_mem _ hd)
    exact of_decide_eq_false (hafter d hd) (separator_of_boundary line.reads hn hr hmem hboundary)
  have hbefore : '\r' ∉ before := by
    intro hmem
    apply hr
    rw [hsplit]
    exact List.mem_append_left _ hmem
  obtain ⟨-, -, -, hreturn⟩ := hc.not_structural
  refine ⟨splitLines (before ++ [c]), after, ?_, after_separator line.reads hsplit hc⟩
  rw [LedgerLine.pieces, hsplit, List.append_assoc, List.cons_append,
    splitLines_append hbefore hc.boundary hreturn, splitLines_line hboundaries (by decide) (by decide),
    splitLines]

/-! ## The scan of the ledger -/

theorem scanLines_unbroken {line : LedgerLine floatRepr} (h : Unbroken line) (digest : String)
    (older : List (List Char)) :
    scanLines floatRepr digest (line.pieces.reverse ++ older) = (do
      if (← agentInputDigest line.record).pyEq (.str digest) then return some line.record
      else scanLines floatRepr digest older) := by
  rw [line.pieces_unbroken h, List.reverse_singleton, List.singleton_append, scanLines,
    String.ofList_toList, if_neg (strip_ne_empty line.reads), line.reads, Py.ok_bind]

theorem scanLines_broken {line : LedgerLine floatRepr} (h : ¬Unbroken line) (digest : String)
    (older : List (List Char)) (found : Option Json) :
    scanLines floatRepr digest (line.pieces.reverse ++ older) ≠ .ok found := by
  obtain ⟨before, after, hpieces, hstrip, hloads⟩ := line.pieces_broken h
  rw [hpieces, List.reverse_append, List.reverse_singleton, List.singleton_append, List.cons_append,
    scanLines, if_neg hstrip]
  intro hok
  obtain ⟨capsule, hcapsule, -⟩ := Py.bind_eq_ok.mp hok
  exact hloads capsule hcapsule

/-- The scan finds the newest served capsule just when it can read its way there. -/
theorem scanLines_iff (digest : String) (newestFirst : List (LedgerLine floatRepr)) :
    scanLines floatRepr digest (newestFirst.flatMap fun line => line.pieces.reverse) =
        .ok ((newestFirst.map LedgerLine.record).find? (serves digest)) ↔
      Scannable digest newestFirst := by
  induction newestFirst with
  | nil =>
      apply iff_of_true rfl
      intro newer line older hsplit
      simp at hsplit
  | cons line older ih =>
      rw [scannable_cons_iff, List.flatMap_cons, List.map_cons]
      by_cases hunbroken : Unbroken line
      · rw [scanLines_unbroken hunbroken]
        cases hfound : agentInputDigest line.record with
        | error e =>
          apply iff_of_false
          · intro hok
            cases hok
          · rintro ⟨⟨-, found, htold, -⟩, -⟩
            rw [hfound] at htold
            cases htold
        | ok found =>
          rw [Py.ok_bind]
          by_cases hdigest : found = .str digest
          · have hequal : found.pyEq (.str digest) = true := by
              rw [hdigest]
              simp [Json.pyEq]
            subst hdigest
            rw [if_pos hequal]
            cases hserves : serves digest line.record with
            | true =>
              rw [List.find?_cons_of_pos hserves]
              apply iff_of_true rfl
              refine ⟨⟨hunbroken, _, hfound, fun _ => (serves_iff.mp hserves).2⟩, ?_⟩
              intro hnot
              cases hnot
            | false =>
              rw [List.find?_cons_of_neg (Bool.eq_false_iff.mp hserves)]
              apply iff_of_false
              · intro hok
                have hlater := List.find?_some (Except.ok.inj hok).symm
                rw [hserves] at hlater
                cases hlater
              · rintro ⟨⟨-, found, hread, hrole⟩, -⟩
                obtain rfl := Except.ok.inj (hfound.symm.trans hread)
                rw [serves_iff.mpr ⟨hfound, hrole rfl⟩] at hserves
                cases hserves
          · have hdiffer : ¬found.pyEq (.str digest) = true := fun h =>
              hdigest (Json.eq_str_of_pyEq h)
            have hnot : serves digest line.record = false := by
              rw [Bool.eq_false_iff]
              intro hserves
              have hread := (serves_iff.mp hserves).1
              rw [hfound] at hread
              exact hdigest (Except.ok.inj hread)
            rw [if_neg hdiffer, List.find?_cons_of_neg (Bool.eq_false_iff.mp hnot), ih]
            constructor
            · intro h
              exact ⟨⟨hunbroken, found, hfound, fun heq => absurd heq hdigest⟩, fun _ => h⟩
            · rintro ⟨-, h⟩
              exact h hnot
      · apply iff_of_false
        · exact scanLines_broken hunbroken digest _ _
        · rintro ⟨⟨h, -⟩, -⟩
          exact hunbroken h

end

/-! ## The file -/

/-- The scan finds the newest served capsule, and joining it is not refused for its role. -/
structure FindsServed {floatRepr : String → String} (lines : List (LedgerLine floatRepr))
    (digest : String) : Prop where
  returned : findHostProvenanceCapsule floatRepr (some (ledgerFile lines)) digest =
    .ok (newestServed digest lines)
  joinable : ∀ capsule,
    findHostProvenanceCapsule floatRepr (some (ledgerFile lines)) digest = .ok (some capsule) →
    ∀ tools sidecar joinerNodeId operator developer role,
      joinHardwareProvenance tools sidecar capsule joinerNodeId operator developer ≠
        .error (.roleNotServed "plugin" role)

section

variable {floatRepr : String → String}

theorem find_eq (lines : List (LedgerLine floatRepr)) (digest : String) :
    findHostProvenanceCapsule floatRepr (some (ledgerFile lines)) digest =
      scanLines floatRepr digest (lines.reverse.flatMap fun line => line.pieces.reverse) := by
  have hreturn : '\r' ∉ ledgerText lines := by
    rw [ledgerText, List.mem_flatMap]
    rintro ⟨line, -, hmem⟩
    rcases List.mem_append.mp hmem with hmem | hmem
    · exact line.single.2 hmem
    · exact absurd (List.mem_singleton.mp hmem) (by decide)
  rw [findHostProvenanceCapsule, ledgerFile, decodeUtf8_utf8, Py.ok_bind, String.toList_ofList,
    universalNewlines_eq_self hreturn, splitLines_ledgerText, List.reverse_flatMap]
  rfl

/-- The error does not refuse the role of the plugin's half. -/
def AdmitsPlugin (e : JoinError) : Prop := ∀ found, e ≠ .roleNotServed "plugin" found

theorem ofPy_admits {α : Type} (x : Py α) : RaisesOnly AdmitsPlugin (ofPy x) := by
  intro e h
  cases x with
  | ok a => cases h
  | error e' =>
      obtain rfl := Except.error.inj h
      intro found habsurd
      cases habsurd

theorem verifyHalf_admits (tools : JoinTools) (label : String) (half : Json) :
    RaisesOnly AdmitsPlugin (verifyHalf tools label half) := by
  rw [verifyHalf]
  split
  · exact .ok ()
  · apply RaisesOnly.error
    intro found habsurd
    cases habsurd

theorem requireServed_sidecar_admits (half : Json) :
    RaisesOnly AdmitsPlugin (requireServed "sidecar" half) := by
  apply RaisesOnly.bind (ofPy_admits _)
  intro found _
  split
  · exact .ok ()
  · apply RaisesOnly.error
    intro other habsurd
    exact absurd (JoinError.roleNotServed.inj habsurd).1 (by decide)

theorem requireServed_of_served {label : String} {half : Json}
    (h : role half = .ok (.str "served")) : requireServed label half = .ok () := by
  rw [requireServed, h]
  rfl

theorem mintJoin_admits (tools : JoinTools) (sidecar plugin digest : Json)
    (joinerNodeId operator developer : String) :
    RaisesOnly AdmitsPlugin (mintJoin tools sidecar plugin digest joinerNodeId operator developer) := by
  apply RaisesOnly.bind (ofPy_admits _)
  intro sealed _
  apply RaisesOnly.bind (ofPy_admits _)
  intro pluginId _
  apply RaisesOnly.bind (ofPy_admits _)
  intro capsuleId _
  dsimp only
  split
  · exact .ok _
  · apply RaisesOnly.error
    intro found habsurd
    cases habsurd

/-- A plugin half of the role served is not refused for its role. -/
theorem join_admits (tools : JoinTools) (sidecar : Json) {capsule : Json}
    (joinerNodeId operator developer : String) (h : role capsule = .ok (.str "served")) :
    RaisesOnly AdmitsPlugin
      (joinHardwareProvenance tools sidecar capsule joinerNodeId operator developer) := by
  apply RaisesOnly.bind (verifyHalf_admits tools "sidecar" sidecar)
  intro _ _
  apply RaisesOnly.bind (verifyHalf_admits tools "plugin" capsule)
  intro _ _
  apply RaisesOnly.bind (requireServed_sidecar_admits sidecar)
  intro _ _
  rw [requireServed_of_served h]
  apply RaisesOnly.bind (ofPy_admits _)
  intro sidecarDigest _
  apply RaisesOnly.bind (ofPy_admits _)
  intro pluginDigest _
  split
  · apply RaisesOnly.error
    intro found habsurd
    cases habsurd
  · apply RaisesOnly.bind (ofPy_admits _)
    intro servedBy _
    split
    · exact mintJoin_admits _ _ _ _ _ _ _
    · apply RaisesOnly.error
      intro found habsurd
      cases habsurd

theorem find_newest_iff (lines : List (LedgerLine floatRepr)) (digest : String) :
    findHostProvenanceCapsule floatRepr (some (ledgerFile lines)) digest =
      .ok (newestServed digest lines) ↔ Scannable digest lines.reverse := by
  rw [find_eq, newestServed, lastWith, ← List.map_reverse]
  exact scanLines_iff digest lines.reverse

/-- The scan does so on exactly the ledgers that it can read its way through. -/
theorem findsServed_iff (lines : List (LedgerLine floatRepr)) (digest : String) :
    FindsServed lines digest ↔ Scannable digest lines.reverse := by
  constructor
  · intro h
    exact (find_newest_iff lines digest).mp h.returned
  · intro h
    have hreturned := (find_newest_iff lines digest).mpr h
    refine ⟨hreturned, ?_⟩
    intro capsule hcapsule tools sidecar joinerNodeId operator developer found hrefused
    have hnewest := Except.ok.inj (hreturned.symm.trans hcapsule)
    exact join_admits tools sidecar joinerNodeId operator developer
      (serves_iff.mp (lastWith_mem hnewest).2).2 _ hrefused found rfl

end

/-! ## A separator in a string, and a newer capsule of another role -/

/-- A record that holds a line separator, unescaped. -/
def separated : LedgerLine id where
  text := "\x7b\"a\":\"\u2028\"\x7d"
  record := .obj [("a", .str "\u2028")]
  single := by decide +kernel
  reads := rfl

def recordOf (role : String) : Json :=
  .obj [("model_attestation", .obj [("compute_attestation", .obj
    [("agent_input_digest", .str "d"), ("x-mesh-poc-v1", .obj [("role", .str role)])])])]

theorem recordOf_proper (role : String) : (recordOf role).Proper id := by
  simp [recordOf]

def lineOf (role : String) : LedgerLine id where
  text := (recordOf role).dumps
  record := recordOf role
  single := by
    have hprintable := printable_dumps (recordOf_proper role)
    constructor
    · intro h
      exact absurd (hprintable _ h) (by decide)
    · intro h
      exact absurd (hprintable _ h) (by decide)
  reads := loads_dumps (recordOf_proper role)

/-- A ledger with the one record raises, and a newer capsule of another role is returned in the place
of the served one. -/
theorem ledger_misread :
    (∀ found, findHostProvenanceCapsule id (some (ledgerFile [separated])) "d" ≠ .ok found) ∧
    newestServed "d" [lineOf "served", lineOf "requested"] = some (recordOf "served") ∧
    findHostProvenanceCapsule id (some (ledgerFile [lineOf "served", lineOf "requested"])) "d" =
      .ok (some (recordOf "requested")) ∧
    ¬FindsServed [separated] "d" ∧ ¬FindsServed [lineOf "served", lineOf "requested"] "d" := by
  have hraises : ∀ found,
      findHostProvenanceCapsule id (some (ledgerFile [separated])) "d" ≠ .ok found := by
    intro found
    rw [find_eq]
    apply scanLines_broken
    intro hunbroken
    exact hunbroken (Char.ofNat 8232) (by decide +kernel) (by decide)
  have hnewest : newestServed "d" [lineOf "served", lineOf "requested"] = some (recordOf "served") :=
    rfl
  have hunbroken : Unbroken (lineOf "requested") := by
    intro c hc hseparator
    obtain ⟨-, hhigh⟩ := printable_dumps (recordOf_proper "requested") c hc
    rw [Separator] at hseparator
    omega
  have hfound : findHostProvenanceCapsule id
      (some (ledgerFile [lineOf "served", lineOf "requested"])) "d" =
        .ok (some (recordOf "requested")) := by
    rw [find_eq]
    exact scanLines_unbroken hunbroken "d" _
  refine ⟨hraises, hnewest, hfound, ?_, ?_⟩
  · intro h
    exact hraises _ h.returned
  · intro h
    have hsame : recordOf "requested" = recordOf "served" :=
      Option.some.inj (Except.ok.inj (hfound.symm.trans h.returned))
    have hrole : role (recordOf "requested") = role (recordOf "served") := by rw [hsame]
    have hname : "requested" = "served" := Json.str.inj (Except.ok.inj hrole)
    exact absurd hname (by decide)

end CapsuleMesh.ProvenanceFold
