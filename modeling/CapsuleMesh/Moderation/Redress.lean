import CapsuleMesh.Python.Canonical
import CapsuleMesh.Python.Equality

/-!
# The redress door

`moderation_evidence_door.py` with `find_adjudication_for_decision` of `moderation_twin.py`.  The
decisions on a message are found by its digest, which the equal messages of different authors share;
the requester is compared with the principal of the first of them.
-/

namespace CapsuleMesh.Moderation

open Python

def MODERATION_SUBJECT_KEY : String := "x-mesh-moderation-decision-v1"
def SUBJECT_KIND_MESSAGE_DIGEST : String := "message_digest"
def NOSTR_PUBKEY_SCHEME : String := "nostr-pubkey:"

structure RedressRequest where
  subjectKind : String
  messageDigest : String
  requesterPrincipalRef : String
  requesterSignature : String

/-- Ideal signatures: what verifies under a key was signed with it. -/
structure Signatures where
  fromHex : String → Option Bytes
  verify : (key signature message : Bytes) → Bool
  Signed : (key message : Bytes) → Prop
  sound : ∀ {key signature message}, verify key signature message = true → Signed key message

inductive RefusalReason where
  | noSuchSubject
  | policyDeclined
  | requestMalformed
deriving DecidableEq

/-- One entry of `bundles`. -/
structure Bundle where
  decision : Json
  policyRef : Json
  adjudication : Option Json
  humanReport : Option Json

inductive RedressAnswer where
  | refusal (signed : Json)
  | bundles (bundles : List Bundle)

/-! ## The blocks of a capsule -/

def computeAttestation (capsule : Json) : Py Json := do
  ((← capsule.get "model_attestation").or (.obj [])).getD "compute_attestation" (.obj [])

def moderationBlock (capsule : Json) : Py Json := do
  (← computeAttestation capsule).getD MODERATION_SUBJECT_KEY (.obj [])

def moderationBlockAdjudication (capsule : Json) : Py Json := do
  (← computeAttestation capsule).getD "adjudication" (.obj [])

def subjectRef (capsule : Json) : Py Json := do
  (← moderationBlock capsule).getD "subject_ref" (.obj [])

def decisionDigest (capsule : Json) : Py Json := do
  (← subjectRef capsule).get "message_digest"

def boundPrincipalRef (capsule : Json) : Py Json := do
  (← subjectRef capsule).get "principal_ref"

/-! ## Searching the ledger -/

def findDecisionsForDigest (digest : String) : List Json → Py (List Json)
  | [] => .ok []
  | capsule :: ledger => do
      let found ← decisionDigest capsule
      let rest ← findDecisionsForDigest digest ledger
      return if found.pyEq (.str digest) then capsule :: rest else rest

def findAdjudicationForDecision (decisionCapsuleId : Json) : List Json → Py (Option Json)
  | [] => .ok none
  | capsule :: ledger => do
      let adjudication ← (← computeAttestation capsule).get "adjudication"
      if adjudication.isNull then findAdjudicationForDecision decisionCapsuleId ledger
      else
        let a ← adjudication.get "decision_a_capsule_id"
        let b ← adjudication.get "decision_b_capsule_id"
        if decisionCapsuleId.pyEq a || decisionCapsuleId.pyEq b then return some capsule
        else findAdjudicationForDecision decisionCapsuleId ledger

def findById (capsuleId : Json) : List Json → Py (Option Json)
  | [] => .ok none
  | capsule :: ledger => do
      if (← capsule.get "capsule_id").pyEq capsuleId then return some capsule
      else findById capsuleId ledger

def findCiting (ledger : List Json) (capsuleId : Json) : Py (Option Json) :=
  if capsuleId.isNull then .ok none else findById capsuleId ledger

/-! ## Answering -/

def redressRequestSigningBody (messageDigest requesterPrincipalRef : String) : Bytes :=
  utf8 (Json.obj
    [("message_digest", .str messageDigest),
     ("requester_principal_ref", .str requesterPrincipalRef)]).canonical

/-- The key that a principal names. -/
def principalKey (signatures : Signatures) (principalRef : String) : Option Bytes :=
  if NOSTR_PUBKEY_SCHEME.toList.isPrefixOf principalRef.toList then
    signatures.fromHex (String.ofList (principalRef.toList.drop NOSTR_PUBKEY_SCHEME.length))
  else none

def requesterControlsClaimedIdentity (signatures : Signatures) (req : RedressRequest) : Bool :=
  match principalKey signatures req.requesterPrincipalRef,
      signatures.fromHex req.requesterSignature with
  | some key, some signature => signatures.verify key signature
      (redressRequestSigningBody req.messageDigest req.requesterPrincipalRef)
  | _, _ => false

def makeBundle (ledger : List Json) (decision : Json) : Py Bundle := do
  let policyRef ← (← moderationBlock decision).get "policy_ref"
  match ← findAdjudicationForDecision (← decision.item "capsule_id") ledger with
  | none => return ⟨decision, policyRef, none, none⟩
  | some adjudication =>
      let refereeId ← (← moderationBlockAdjudication adjudication).get "referee_capsule_id"
      let humanReport ← findCiting ledger refereeId
      return ⟨decision, policyRef, some adjudication, humanReport⟩

/-- `er.sign_refusal` with the node's signer, the request's digest and the time. -/
abbrev SignRefusal := RefusalReason → Py Json

def refuse (signRefusal : SignRefusal) (reason : RefusalReason) : Py RedressAnswer := do
  return .refusal (← signRefusal reason)

def answerRedressRequest (signatures : Signatures) (signRefusal : SignRefusal) (ledger : List Json)
    (req : RedressRequest) : Py RedressAnswer :=
  if req.subjectKind ≠ SUBJECT_KIND_MESSAGE_DIGEST then refuse signRefusal .requestMalformed
  else do
    match ← findDecisionsForDigest req.messageDigest ledger with
    | [] => refuse signRefusal .noSuchSubject
    | first :: others =>
        if requesterControlsClaimedIdentity signatures req then
          let bound ← boundPrincipalRef first
          if bound.isNull || !bound.pyEq (.str req.requesterPrincipalRef) then
            refuse signRefusal .policyDeclined
          else return .bundles (← (first :: others).mapM (makeBundle ledger))
        else refuse signRefusal .policyDeclined

/-! ## What the door finds -/

/-- A decision on a message with this digest. -/
def decides (digest : String) (capsule : Json) : Bool :=
  match decisionDigest capsule with
  | .ok found => found.pyEq (.str digest)
  | .error _ => false

/-- A decision about this principal. -/
def boundTo (principalRef : String) (capsule : Json) : Bool :=
  match boundPrincipalRef capsule with
  | .ok bound => bound.pyEq (.str principalRef)
  | .error _ => false

theorem findDecisionsForDigest_eq_ok {digest : String} {ledger decisions : List Json} :
    findDecisionsForDigest digest ledger = .ok decisions ↔
      (∀ capsule ∈ ledger, ∃ found, decisionDigest capsule = .ok found) ∧
        decisions = ledger.filter (decides digest) := by
  induction ledger generalizing decisions with
  | nil =>
      constructor
      · intro h
        exact ⟨List.forall_mem_nil _, (Except.ok.inj h).symm⟩
      · rintro ⟨-, rfl⟩
        rfl
  | cons capsule ledger ih =>
      rw [findDecisionsForDigest, List.forall_mem_cons]
      cases hfound : decisionDigest capsule with
      | error e =>
        constructor
        · intro h
          cases h
        · rintro ⟨⟨⟨found, hok⟩, -⟩, -⟩
          cases hok
      | ok found =>
        have hdecides : decides digest capsule = found.pyEq (.str digest) := by
          rw [decides, hfound]
        rw [Py.ok_bind, Py.bind_eq_ok, List.filter_cons, hdecides]
        constructor
        · rintro ⟨rest, hrest, h⟩
          obtain ⟨hall, rfl⟩ := ih.mp hrest
          exact ⟨⟨⟨found, rfl⟩, hall⟩, (Except.ok.inj h).symm⟩
        · rintro ⟨⟨-, hall⟩, rfl⟩
          exact ⟨_, ih.mpr ⟨hall, rfl⟩, rfl⟩

/-- The bundles are those of the decisions. -/
theorem mem_bundles {ledger decisions : List Json} {bundles : List Bundle}
    (h : decisions.mapM (makeBundle ledger) = .ok bundles) :
    (∀ bundle ∈ bundles, ∃ decision ∈ decisions, makeBundle ledger decision = .ok bundle) ∧
      ∀ decision ∈ decisions, ∃ bundle ∈ bundles, makeBundle ledger decision = .ok bundle := by
  have hmap := Py.mapM_eq_ok.mp h
  constructor
  · intro bundle hbundle
    have hmem : (.ok bundle : Py Bundle) ∈ bundles.map .ok := List.mem_map_of_mem hbundle
    rw [← hmap] at hmem
    exact List.mem_map.mp hmem
  · intro decision hdecision
    have hmem : makeBundle ledger decision ∈ decisions.map (makeBundle ledger) :=
      List.mem_map_of_mem hdecision
    rw [hmap] at hmem
    obtain ⟨bundle, hbundle, hmake⟩ := List.mem_map.mp hmem
    exact ⟨bundle, hbundle, hmake.symm⟩

theorem makeBundle_decision {ledger : List Json} {decision : Json} {bundle : Bundle}
    (h : makeBundle ledger decision = .ok bundle) : bundle.decision = decision := by
  obtain ⟨block, -, h⟩ := Py.bind_eq_ok.mp h
  obtain ⟨policyRef, -, h⟩ := Py.bind_eq_ok.mp h
  obtain ⟨id, -, h⟩ := Py.bind_eq_ok.mp h
  obtain ⟨found, -, h⟩ := Py.bind_eq_ok.mp h
  cases found with
  | none =>
      obtain rfl := Except.ok.inj h
      rfl
  | some adjudication =>
      obtain ⟨block', -, h⟩ := Py.bind_eq_ok.mp h
      obtain ⟨refereeId, -, h⟩ := Py.bind_eq_ok.mp h
      obtain ⟨report, -, h⟩ := Py.bind_eq_ok.mp h
      obtain rfl := Except.ok.inj h
      rfl

/-! ## When a bundle is made -/

theorem obj_of_getD {j default value : Json} {key : String} (h : j.getD key default = .ok value) :
    ∃ members, j = .obj members := by
  cases j with
  | obj members => exact ⟨members, rfl⟩
  | _ => cases h

/-- A capsule whose blocks could be read down to the digest. -/
theorem blocks_of_decisionDigest {capsule found : Json} (h : decisionDigest capsule = .ok found) :
    (∃ members, capsule = .obj members) ∧
      ∃ members, moderationBlock capsule = .ok (.obj members) := by
  obtain ⟨subject, hsubject, -⟩ := Py.bind_eq_ok.mp h
  obtain ⟨block, hblock, hget⟩ := Py.bind_eq_ok.mp hsubject
  obtain ⟨members, rfl⟩ := obj_of_getD hget
  obtain ⟨attestation, hattestation, -⟩ := Py.bind_eq_ok.mp hblock
  obtain ⟨model, hmodel, -⟩ := Py.bind_eq_ok.mp hattestation
  exact ⟨obj_of_getD hmodel, members, hblock⟩

theorem adjudication_of_found {id : Json} {ledger : List Json} {adjudication : Json}
    (h : findAdjudicationForDecision id ledger = .ok (some adjudication)) :
    ∃ members, moderationBlockAdjudication adjudication = .ok (.obj members) := by
  induction ledger with
  | nil => cases h
  | cons capsule ledger ih =>
      obtain ⟨attestation, hattestation, h⟩ := Py.bind_eq_ok.mp h
      obtain ⟨block, hblock, h⟩ := Py.bind_eq_ok.mp h
      split_ifs at h with hnull
      · exact ih h
      · obtain ⟨a, ha, h⟩ := Py.bind_eq_ok.mp h
        obtain ⟨b, -, h⟩ := Py.bind_eq_ok.mp h
        split_ifs at h
        · obtain rfl := Option.some.inj (Except.ok.inj h)
          obtain ⟨members, rfl⟩ := obj_of_getD ha
          obtain ⟨fields, rfl⟩ := obj_of_getD hblock
          refine ⟨members, ?_⟩
          rw [moderationBlockAdjudication, hattestation, Py.ok_bind, Json.getD_obj]
          rw [Json.get_obj, Except.ok.injEq] at hblock
          cases hlookup : fields.lookup "adjudication" with
          | none =>
            rw [hlookup] at hblock
            cases hblock
          | some value =>
            rw [hlookup] at hblock
            exact congrArg _ hblock
        · exact ih h

theorem findById_returns {ledger : List Json} (h : ∀ capsule ∈ ledger, ∃ members, capsule = .obj members)
    (id : Json) : ∃ found, findById id ledger = .ok found := by
  induction ledger with
  | nil => exact ⟨none, rfl⟩
  | cons capsule ledger ih =>
      obtain ⟨⟨members, rfl⟩, hrest⟩ := List.forall_mem_cons.mp h
      rw [findById, Json.get_obj, Py.ok_bind]
      split_ifs
      · exact ⟨_, rfl⟩
      · exact ih hrest

/-- The blocks of every capsule can be read, and for every decision on the message its id and the
search for its adjudication. -/
structure Legible (ledger : List Json) (digest : String) : Prop where
  blocks : ∀ capsule ∈ ledger, ∃ found, decisionDigest capsule = .ok found
  decisions : ∀ capsule ∈ ledger, decides digest capsule = true →
    ∃ id adjudication, capsule.item "capsule_id" = .ok id ∧
      findAdjudicationForDecision id ledger = .ok adjudication

theorem makeBundle_returns {ledger : List Json} {digest : String} (h : Legible ledger digest)
    {capsule : Json} (hmem : capsule ∈ ledger) (hdecides : decides digest capsule = true) :
    ∃ bundle, makeBundle ledger capsule = .ok bundle := by
  obtain ⟨id, adjudication, hid, hfind⟩ := h.decisions capsule hmem hdecides
  obtain ⟨found, hfound⟩ := h.blocks capsule hmem
  obtain ⟨-, members, hblock⟩ := blocks_of_decisionDigest hfound
  simp only [makeBundle, hblock, Json.get_obj, hid, hfind, Py.ok_bind]
  cases adjudication with
  | none => exact ⟨_, rfl⟩
  | some adjudication =>
      obtain ⟨fields, hfields⟩ := adjudication_of_found hfind
      simp only [hfields, Json.get_obj, Py.ok_bind, findCiting]
      split_ifs
      · exact ⟨_, rfl⟩
      · have hobjects : ∀ capsule ∈ ledger, ∃ members, capsule = .obj members := by
          intro capsule hcapsule
          obtain ⟨found, hfound⟩ := h.blocks capsule hcapsule
          exact (blocks_of_decisionDigest hfound).1
        obtain ⟨report, hreport⟩ := findById_returns hobjects
          ((fields.lookup "referee_capsule_id").getD .null)
        rw [hreport]
        exact ⟨_, rfl⟩

theorem legible_of_makeBundle {ledger : List Json} {capsule : Json} {bundle : Bundle}
    (h : makeBundle ledger capsule = .ok bundle) :
    ∃ id adjudication, capsule.item "capsule_id" = .ok id ∧
      findAdjudicationForDecision id ledger = .ok adjudication := by
  obtain ⟨block, -, h⟩ := Py.bind_eq_ok.mp h
  obtain ⟨policyRef, -, h⟩ := Py.bind_eq_ok.mp h
  obtain ⟨id, hid, h⟩ := Py.bind_eq_ok.mp h
  obtain ⟨found, hfound, -⟩ := Py.bind_eq_ok.mp h
  exact ⟨id, found, hid, hfound⟩

/-! ## Answers -/

section Door

variable {signatures : Signatures} {signRefusal : SignRefusal} {ledger : List Json}
  {req : RedressRequest}

theorem refuse_ne_bundles {reason : RefusalReason} {bundles : List Bundle} :
    refuse signRefusal reason ≠ .ok (.bundles bundles) := by
  intro h
  obtain ⟨signed, -, h⟩ := Py.bind_eq_ok.mp h
  cases h

/-- When the door answers with bundles, and with which. -/
theorem answer_bundles_iff {bundles : List Bundle} :
    answerRedressRequest signatures signRefusal ledger req = .ok (.bundles bundles) ↔
      req.subjectKind = SUBJECT_KIND_MESSAGE_DIGEST ∧
      (∀ capsule ∈ ledger, ∃ found, decisionDigest capsule = .ok found) ∧
      requesterControlsClaimedIdentity signatures req = true ∧
      (∃ first others, ledger.filter (decides req.messageDigest) = first :: others ∧
        boundTo req.requesterPrincipalRef first = true) ∧
      (ledger.filter (decides req.messageDigest)).mapM (makeBundle ledger) = .ok bundles := by
  unfold answerRedressRequest
  by_cases hkind : req.subjectKind = SUBJECT_KIND_MESSAGE_DIGEST
  swap
  · rw [if_pos hkind]
    exact iff_of_false refuse_ne_bundles fun h => hkind h.1
  rw [if_neg (not_not.mpr hkind)]
  cases hfind : findDecisionsForDigest req.messageDigest ledger with
  | error e =>
      refine iff_of_false (by simp [bind, Except.bind]) ?_
      rintro ⟨-, hall, -⟩
      have hok : findDecisionsForDigest req.messageDigest ledger = .ok _ :=
        findDecisionsForDigest_eq_ok.mpr ⟨hall, rfl⟩
      rw [hfind] at hok
      cases hok
  | ok decisions =>
      obtain ⟨hall, rfl⟩ := findDecisionsForDigest_eq_ok.mp hfind
      rw [Py.ok_bind]
      cases hdecisions : ledger.filter (decides req.messageDigest) with
      | nil =>
        refine iff_of_false refuse_ne_bundles ?_
        rintro ⟨-, -, -, ⟨first, others, hcons, -⟩, -⟩
        cases hcons
      | cons first others =>
        simp only
        by_cases hcontrols : requesterControlsClaimedIdentity signatures req = true
        · rw [if_pos hcontrols]
          cases hbound : boundPrincipalRef first with
          | error e =>
            refine iff_of_false (by simp [bind, Except.bind]) ?_
            rintro ⟨-, -, -, ⟨first', others', hcons, hto⟩, -⟩
            obtain ⟨rfl, rfl⟩ := List.cons.inj hcons
            simp [boundTo, hbound] at hto
          | ok bound =>
            have hto : boundTo req.requesterPrincipalRef first =
                bound.pyEq (.str req.requesterPrincipalRef) := by rw [boundTo, hbound]
            rw [Py.ok_bind]
            split_ifs with hother
            · refine iff_of_false refuse_ne_bundles ?_
              rintro ⟨-, -, -, ⟨first', others', hcons, hto'⟩, -⟩
              obtain ⟨rfl, rfl⟩ := List.cons.inj hcons
              rw [hto] at hto'
              obtain rfl := Json.eq_str_of_pyEq hto'
              simp [Json.isNull, hto'] at hother
            · have hpyEq : bound.pyEq (.str req.requesterPrincipalRef) = true := by
                cases hcase : bound.pyEq (.str req.requesterPrincipalRef) with
                | true => rfl
                | false => simp [hcase] at hother
              rw [Py.bind_eq_ok]
              constructor
              · rintro ⟨bs, hbs, h⟩
                obtain rfl := RedressAnswer.bundles.inj (Except.ok.inj h)
                exact ⟨hkind, hall, hcontrols, ⟨first, others, rfl, hto.trans hpyEq⟩, hbs⟩
              · rintro ⟨-, -, -, -, hbs⟩
                exact ⟨bundles, hbs, rfl⟩
        · rw [if_neg hcontrols]
          exact iff_of_false refuse_ne_bundles fun h => hcontrols h.2.2.1

/-- Only its subject gets a decision, and the subject gets all of them. -/
structure AnswersSubject (signatures : Signatures) (signRefusal : SignRefusal) (ledger : List Json)
    (req : RedressRequest) : Prop where
  only : ∀ bundles, answerRedressRequest signatures signRefusal ledger req = .ok (.bundles bundles) →
    (∃ key, principalKey signatures req.requesterPrincipalRef = some key ∧
      signatures.Signed key
        (redressRequestSigningBody req.messageDigest req.requesterPrincipalRef)) ∧
    ∀ bundle ∈ bundles, decides req.messageDigest bundle.decision = true ∧
      boundTo req.requesterPrincipalRef bundle.decision = true
  every : req.subjectKind = SUBJECT_KIND_MESSAGE_DIGEST →
    requesterControlsClaimedIdentity signatures req = true →
    ∀ capsule ∈ ledger, decides req.messageDigest capsule = true →
      boundTo req.requesterPrincipalRef capsule = true →
      ∃ bundles, answerRedressRequest signatures signRefusal ledger req = .ok (.bundles bundles) ∧
        ∃ bundle ∈ bundles, bundle.decision = capsule

theorem signed_of_controls (h : requesterControlsClaimedIdentity signatures req = true) :
    ∃ key, principalKey signatures req.requesterPrincipalRef = some key ∧ signatures.Signed key
      (redressRequestSigningBody req.messageDigest req.requesterPrincipalRef) := by
  unfold requesterControlsClaimedIdentity at h
  split at h
  · rename_i key signature hkey _
    exact ⟨key, hkey, signatures.sound h⟩
  · cases h

end Door

/-- The door does so exactly when it has nothing of the requester to answer with (another kind of
subject, no proof of possession, no decision on the message bound to the requester) or when every
decision on the message is the requester's and can be read. -/
theorem answersSubject_iff (signatures : Signatures) (signRefusal : SignRefusal)
    (ledger : List Json) (req : RedressRequest) :
    AnswersSubject signatures signRefusal ledger req ↔
      req.subjectKind ≠ SUBJECT_KIND_MESSAGE_DIGEST ∨
      requesterControlsClaimedIdentity signatures req = false ∨
      (∀ capsule ∈ ledger, decides req.messageDigest capsule = true →
        boundTo req.requesterPrincipalRef capsule = false) ∨
      ((∀ capsule ∈ ledger, decides req.messageDigest capsule = true →
        boundTo req.requesterPrincipalRef capsule = true) ∧ Legible ledger req.messageDigest) := by
  constructor
  · intro h
    by_contra hnone
    push Not at hnone
    obtain ⟨hkind, hcontrols, ⟨capsule, hmem, hdecides, hbound⟩, hrest⟩ := hnone
    have hcontrols : requesterControlsClaimedIdentity signatures req = true := by simpa using hcontrols
    obtain ⟨bundles, hanswer, -⟩ := h.every hkind hcontrols capsule hmem hdecides (by simpa using hbound)
    obtain ⟨-, hall, -, -, hbundles⟩ := answer_bundles_iff.mp hanswer
    have hmade : ∀ capsule ∈ ledger, decides req.messageDigest capsule = true →
        ∃ bundle ∈ bundles, makeBundle ledger capsule = .ok bundle := by
      exact fun capsule hmem hdecides =>
        (mem_bundles hbundles).2 capsule (List.mem_filter.mpr ⟨hmem, hdecides⟩)
    refine hrest ?_ ⟨hall, ?_⟩
    · intro capsule hmem hdecides
      obtain ⟨bundle, hbundle, hmake⟩ := hmade capsule hmem hdecides
      have hto := ((h.only bundles hanswer).2 bundle hbundle).2
      rwa [makeBundle_decision hmake] at hto
    · intro capsule hmem hdecides
      obtain ⟨bundle, -, hmake⟩ := hmade capsule hmem hdecides
      exact legible_of_makeBundle hmake
  · intro h
    refine ⟨?_, ?_⟩
    · intro bundles hanswer
      obtain ⟨hkind, -, hcontrols, ⟨first, others, hdecisions, hfirst⟩, hbundles⟩ :=
        answer_bundles_iff.mp hanswer
      refine ⟨signed_of_controls hcontrols, ?_⟩
      intro bundle hbundle
      obtain ⟨capsule, hcapsule, hmake⟩ := (mem_bundles hbundles).1 bundle hbundle
      obtain ⟨hmem, hdecides⟩ := List.mem_filter.mp hcapsule
      rw [makeBundle_decision hmake]
      refine ⟨hdecides, ?_⟩
      have hfirstMem : first ∈ ledger ∧ decides req.messageDigest first = true := by
        rw [← List.mem_filter, hdecisions]
        exact List.mem_cons_self
      rcases h with hother | hfalse | hnone | ⟨hall, -⟩
      · exact absurd hkind hother
      · rw [hcontrols] at hfalse
        cases hfalse
      · rw [hnone first hfirstMem.1 hfirstMem.2] at hfirst
        cases hfirst
      · exact hall capsule hmem hdecides
    · intro hkind hcontrols capsule hmem hdecides hbound
      rcases h with hother | hfalse | hnone | ⟨hall, hlegible⟩
      · exact absurd hkind hother
      · rw [hcontrols] at hfalse
        cases hfalse
      · rw [hnone capsule hmem hdecides] at hbound
        cases hbound
      · have hcapsule := List.mem_filter.mpr ⟨hmem, hdecides⟩
        obtain ⟨bundles, hbundles⟩ := Py.mapM_returns.mpr fun decision hdecision =>
          makeBundle_returns hlegible (List.mem_filter.mp hdecision).1
            (List.mem_filter.mp hdecision).2
        refine ⟨bundles, answer_bundles_iff.mpr
          ⟨hkind, hlegible.blocks, hcontrols, ?_, hbundles⟩, ?_⟩
        · cases hdecisions : ledger.filter (decides req.messageDigest) with
          | nil =>
            rw [hdecisions] at hcapsule
            cases hcapsule
          | cons first others =>
            have hfirst : first ∈ ledger.filter (decides req.messageDigest) := by
              rw [hdecisions]
              exact List.mem_cons_self
            obtain ⟨hfirstMem, hfirstDecides⟩ := List.mem_filter.mp hfirst
            exact ⟨first, others, rfl, hall first hfirstMem hfirstDecides⟩
        · obtain ⟨bundle, hbundle, hmake⟩ := (mem_bundles hbundles).2 capsule hcapsule
          exact ⟨bundle, hbundle, makeBundle_decision hmake⟩

/-! ## Two authors of one message -/

/-- A principal's name is its key, and whoever knows the text of a key signs with it. -/
def plainSignatures : Signatures where
  fromHex text := some (utf8 text)
  verify key signature _ := key == signature
  Signed _ _ := True
  sound _ := trivial

def plainRefusal : SignRefusal := fun _ => .ok (.obj [])

def decisionOn (digest principalRef id : String) : Json :=
  .obj
    [("capsule_id", .str id),
     ("model_attestation", .obj
       [("compute_attestation", .obj
         [(MODERATION_SUBJECT_KEY, .obj
           [("subject_ref", .obj
             [("message_digest", .str digest), ("principal_ref", .str principalRef)])])])])]

def requestOf (digest principal : String) : RedressRequest :=
  ⟨SUBJECT_KIND_MESSAGE_DIGEST, digest, NOSTR_PUBKEY_SCHEME ++ principal, principal⟩

def aliceDecision : Json := decisionOn "digest" "nostr-pubkey:alice" "decision-alice"
def bobDecision : Json := decisionOn "digest" "nostr-pubkey:bob" "decision-bob"

theorem filter_decides_alice_bob :
    [aliceDecision, bobDecision].filter (decides "digest") = [aliceDecision, bobDecision] := by
  have halice : decides "digest" aliceDecision = true := by decide +kernel
  have hbob : decides "digest" bobDecision = true := by decide +kernel
  rw [List.filter_cons_of_pos halice, List.filter_cons_of_pos hbob, List.filter_nil]

/-- Alice and Bob sent the same message.  Whoever comes first in the ledger gets the decision on
the other too, and the other gets nothing. -/
theorem shared_digest_misanswers :
    (∃ bundles, answerRedressRequest plainSignatures plainRefusal [aliceDecision, bobDecision]
        (requestOf "digest" "alice") = .ok (.bundles bundles) ∧
      bobDecision ∈ bundles.map Bundle.decision ∧
      boundTo "nostr-pubkey:alice" bobDecision = false) ∧
    requesterControlsClaimedIdentity plainSignatures (requestOf "digest" "bob") = true ∧
    boundTo "nostr-pubkey:bob" bobDecision = true ∧
    ∀ bundles, answerRedressRequest plainSignatures plainRefusal [aliceDecision, bobDecision]
      (requestOf "digest" "bob") ≠ .ok (.bundles bundles) := by
  refine ⟨⟨[⟨aliceDecision, .null, none, none⟩, ⟨bobDecision, .null, none, none⟩], ?_, ?_, ?_⟩,
    ?_, ?_, ?_⟩
  · apply answer_bundles_iff.mpr
    refine ⟨rfl, ?_, ?_, ⟨aliceDecision, [bobDecision], filter_decides_alice_bob, ?_⟩, ?_⟩
    · rw [List.forall_mem_cons, List.forall_mem_singleton]
      exact ⟨⟨_, rfl⟩, _, rfl⟩
    · decide +kernel
    · decide +kernel
    · exact (congrArg (List.mapM (makeBundle _)) filter_decides_alice_bob).trans rfl
  · exact List.mem_cons_of_mem _ List.mem_cons_self
  · decide +kernel
  · decide +kernel
  · decide +kernel
  · intro bundles hanswer
    obtain ⟨-, -, -, ⟨first, others, hfirst, hbound⟩, -⟩ := answer_bundles_iff.mp hanswer
    obtain ⟨rfl, -⟩ := List.cons.inj (filter_decides_alice_bob.symm.trans hfirst)
    revert hbound
    decide +kernel

end CapsuleMesh.Moderation
