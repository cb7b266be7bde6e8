import CapsuleMesh.Adjudication.Delivery
import CapsuleMesh.Python.Loads

/-!
# Many deliveries

A ledger that starts with the capsules of its own node grows by what the door receives.  The
door takes what it received for its own, reads the owner of the first citation alone, and does
not catch what a verified body of the wrong shape raises.
-/

namespace CapsuleMesh.Adjudication

open Python

/-! ## Runs -/

/-- The ledger after a delivery; a call that raises appends nothing. -/
def ledgerAfter (door : Door) (records : List Json) (body : Bytes) (now : String) : List Json :=
  match handleDelivery door records body now with
  | .ok (_, after) => after
  | .error _ => records

theorem ledgerAfter_of_ok {door : Door} {records after : List Json} {body : Bytes} {now : String}
    {answer : DeliveryAnswer} (h : handleDelivery door records body now = .ok (answer, after)) :
    ledgerAfter door records body now = after := by
  rw [ledgerAfter, h]

def deliverAll (door : Door) : List Json → List (Bytes × String) → List Json
  | records, [] => records
  | records, (body, now) :: rest => deliverAll door (ledgerAfter door records body now) rest

/-- Each delivery has the property in the ledger that the earlier ones left. -/
def EachDelivery (door : Door) (P : List Json → Bytes → String → Prop) :
    List Json → List (Bytes × String) → Prop
  | _, [] => True
  | records, (body, now) :: rest =>
      P records body now ∧ EachDelivery door P (ledgerAfter door records body now) rest

theorem EachDelivery.congr {door : Door} {P Q : List Json → Bytes → String → Prop}
    (h : ∀ records body now, P records body now ↔ Q records body now) {records : List Json}
    {deliveries : List (Bytes × String)} :
    EachDelivery door P records deliveries ↔ EachDelivery door Q records deliveries := by
  induction deliveries generalizing records with
  | nil => exact Iff.rfl
  | cons d rest ih => rw [EachDelivery, EachDelivery, h, ih]

/-! ## What a delivery has to be -/

/-- `verdict == f"contradicted:{owner}"`, for an owner that there is. -/
def Contradicts (block : List (String × Json)) (owner : Json) : Prop :=
  owner.truthy = true ∧ ((block.lookup "verdict").getD .null).str? =
    some (VERDICT_CONTRADICTED_PREFIX ++ owner.pyStr)

/-- A capsule of the node that a citation names. -/
def CitedOwn (own : List Json) (block : List (String × Json)) (half : Json) : Prop :=
  half ∈ own ∧ ∃ id ∈ citedIn block, half.item "capsule_id" = .ok (.str id)

/-- A capsule that the node should hold. -/
structure Fair (door : Door) (own : List Json) (capsule : Json) : Prop where
  verified : door.verify capsule = true
  cites : ∃ block half, adjudicationBlock capsule = .ok (.obj block) ∧ CitedOwn own block half
  notAgainst : ∀ block half owner, adjudicationBlock capsule = .ok (.obj block) →
    CitedOwn own block half → ownerId half = .ok owner → ¬Contradicts block owner

structure SoundDelivery (door : Door) (own records : List Json) (body : Bytes) (now : String) :
    Prop where
  returns : ∃ answer after, handleDelivery door records body now = .ok (answer, after)
  refused : ∀ {answer after}, handleDelivery door records body now = .ok (answer, after) →
    answer ≠ .received → after = records
  received : ∀ {after}, handleDelivery door records body now = .ok (.received, after) →
    ∃ capsule, after = records ++ [capsule] ∧ Fair door own capsule

/-- A body gets as far as its citations. -/
structure Verified (door : Door) (body : Bytes) (members : List (String × Json)) : Prop where
  loads : door.loads body = some (.obj members)
  capsuleId : ((members.lookup "capsule_id").getD .null).truthy = true
  verify : door.verify (.obj members) = true

/-- What the first record that is cited leaves to be checked. -/
structure FitsHalf (door : Door) (own records : List Json) (members block : List (String × Json))
    (half : Json) : Prop where
  fits : Takes door records (.obj members)
  citesOwn : ∃ cited, CitedOwn own block cited
  others : ∀ other owner, CitedOwn own block other → other ≠ half → ownerId other = .ok owner →
    ¬Contradicts block owner

/-- A verified body has a block with citations, the records have ids, and the owner of the first
record that is cited can be read.  Unless the verdict is against that owner, the body cites a
capsule of the node, and its verdict is against no other one that it cites. -/
def WellAddressed (door : Door) (own records : List Json) (body : Bytes) : Prop :=
  ∀ members, Verified door body members →
    ∃ block, adjudicationBlock (.obj members) = .ok (.obj block) ∧
      (citedIn block ≠ [] → ∃ entries, ownEntries records = .ok entries ∧
        ∀ half, ownHalf entries (citedIn block) = some half →
          ∃ owner, ownerId half = .ok owner ∧
            (Contradicts block owner ∨ FitsHalf door own records members block half))

/-! ## One delivery -/

section

variable {door : Door} {own records : List Json} {body : Bytes} {now : String}

theorem handleDelivery_malformed (h : ∀ members, ¬Verified door body members) :
    handleDelivery door records body now =
      .ok (refuse door body now .requestMalformed, records) := by
  unfold handleDelivery
  split
  · next members hloads =>
      by_cases hid : ((members.lookup "capsule_id").getD .null).truthy = true
      · by_cases hverify : door.verify (.obj members) = true
        · exact absurd ⟨hloads, hid, hverify⟩ (h members)
        · simp [hid, hverify]
      · simp [hid]
  · rfl

theorem handleDelivery_verified {members : List (String × Json)}
    (h : Verified door body members) :
    handleDelivery door records body now = (do
      let cited ← citedCapsuleIds (.obj members)
      if cited.isEmpty then return (refuse door body now .requestMalformed, records)
      else
        let entries ← ownEntries records
        match ownHalf entries cited with
        | none => return (refuse door body now .requestMalformed, records)
        | some half => receive door records body now (.obj members) half) := by
  have hid : ¬¬((members.lookup "capsule_id").getD .null).truthy = true := not_not.mpr h.capsuleId
  have hverify : ¬¬door.verify (.obj members) = true := not_not.mpr h.verify
  unfold handleDelivery
  rw [h.loads]
  exact (if_neg hid).trans (if_neg hverify)

theorem citedCapsuleIds_eq_ok {capsule : Json} {cited : List String} :
    citedCapsuleIds capsule = .ok cited ↔
      ∃ block, adjudicationBlock capsule = .ok (.obj block) ∧ citedIn block = cited := by
  rw [citedCapsuleIds, Py.bind_eq_ok]
  constructor
  · rintro ⟨block, hblock, hcited⟩
    cases block with
    | obj members => exact ⟨members, hblock, Except.ok.inj hcited⟩
    | _ => cases hcited
  · rintro ⟨block, hblock, rfl⟩
    exact ⟨_, hblock, rfl⟩

theorem receive_eq {members block : List (String × Json)} {half owner : Json}
    (hblock : adjudicationBlock (.obj members) = .ok (.obj block))
    (howner : ownerId half = .ok owner) [Decidable (Contradicts block owner)] :
    receive door records body now (.obj members) half =
      if Contradicts block owner then .ok (refuse door body now .policyDeclined, records)
      else do return (.received, ← appendCapsule door records (.obj members)) := by
  have hiff : (owner.truthy && decide (((block.lookup "verdict").getD .null).str? =
      some (VERDICT_CONTRADICTED_PREFIX ++ owner.pyStr))) = true ↔ Contradicts block owner := by
    rw [Bool.and_eq_true, decide_eq_true_eq, Contradicts]
  simp only [receive, howner, hblock, Py.ok_bind, Json.get_obj, hiff]
  rfl

theorem refuse_ne_received (reason : RefusalReason) : refuse door body now reason ≠ .received := by
  rw [refuse]
  exact DeliveryAnswer.noConfusion

/-- A refusal is sound. -/
theorem SoundDelivery.of_refuse {reason : RefusalReason}
    (h : handleDelivery door records body now = .ok (refuse door body now reason, records)) :
    SoundDelivery door own records body now where
  returns := ⟨_, _, h⟩
  refused h' _ := (Prod.mk.inj (Except.ok.inj (h.symm.trans h'))).2.symm
  received h' := absurd (Prod.mk.inj (Except.ok.inj (h.symm.trans h'))).1 (refuse_ne_received reason)

/-- What a delivery comes to, once its citations and the records could be read. -/
theorem handleDelivery_cited {members block : List (String × Json)} {entries : List (Json × Json)}
    (h : Verified door body members) (hblock : adjudicationBlock (.obj members) = .ok (.obj block))
    (hcited : citedIn block ≠ []) (hentries : ownEntries records = .ok entries) :
    handleDelivery door records body now =
      match ownHalf entries (citedIn block) with
      | none => .ok (refuse door body now .requestMalformed, records)
      | some half => receive door records body now (.obj members) half := by
  have hids : citedCapsuleIds (.obj members) = .ok (citedIn block) :=
    citedCapsuleIds_eq_ok.mpr ⟨block, hblock, rfl⟩
  have hne : (citedIn block).isEmpty = false := by simpa using hcited
  rw [handleDelivery_verified h, hids]
  simp only [Py.ok_bind, hne, Bool.false_eq_true, if_false, hentries]
  cases ownHalf entries (citedIn block) <;> rfl

/-- A delivery that the policy lets through is sound where its half fits. -/
theorem soundDelivery_of_receive {members block : List (String × Json)} {half owner : Json}
    (h : Verified door body members) (hblock : adjudicationBlock (.obj members) = .ok (.obj block))
    (howner : ownerId half = .ok owner)
    (hhandle : handleDelivery door records body now =
      receive door records body now (.obj members) half) :
    SoundDelivery door own records body now ↔
      Contradicts block owner ∨ FitsHalf door own records members block half := by
  classical
  have hreceive : receive door records body now (.obj members) half = _ := receive_eq hblock howner
  rw [← hhandle] at hreceive
  by_cases hagainst : Contradicts block owner
  · rw [if_pos hagainst] at hreceive
    exact iff_of_true (.of_refuse hreceive) (.inl hagainst)
  · rw [if_neg hagainst] at hreceive
    constructor
    · intro hsound
      cases happend : appendCapsule door records (.obj members) with
      | error e =>
        rw [happend] at hreceive
        obtain ⟨answer, after, hreturns⟩ := hsound.returns
        cases hreceive.symm.trans hreturns
      | ok after =>
        obtain ⟨htakes, rfl⟩ := appendCapsule_eq_ok.mp happend
        rw [happend] at hreceive
        obtain ⟨capsule, hafter, hfair⟩ := hsound.received hreceive
        obtain rfl := List.singleton_inj.mp (List.append_cancel_left hafter)
        refine .inr ⟨htakes, ?_, ?_⟩
        · obtain ⟨block', cited, hblock', hcited⟩ := hfair.cites
          obtain rfl := Json.obj.inj (Except.ok.inj (hblock.symm.trans hblock'))
          exact ⟨cited, hcited⟩
        · exact fun other owner' hother _ howner' ↦ hfair.notAgainst block other owner' hblock hother
            howner'
    · rintro (hagainst' | hfits)
      · exact absurd hagainst' hagainst
      · rw [appendCapsule_eq_ok.mpr ⟨hfits.fits, rfl⟩] at hreceive
        have hfair : Fair door own (.obj members) := by
          refine ⟨h.verify, ?_, ?_⟩
          · obtain ⟨cited, hcited⟩ := hfits.citesOwn
            exact ⟨block, cited, hblock, hcited⟩
          · intro block' other owner' hblock' hother howner'
            obtain rfl := Json.obj.inj (Except.ok.inj (hblock.symm.trans hblock'))
            by_cases heq : other = half
            · rw [heq] at howner'
              obtain rfl := Except.ok.inj (howner.symm.trans howner')
              exact hagainst
            · exact hfits.others other owner' hother heq howner'
        refine ⟨⟨_, _, hreceive⟩, fun h' hne => ?_, fun h' => ?_⟩
        · exact absurd (Prod.mk.inj (Except.ok.inj (hreceive.symm.trans h'))).1.symm hne
        · exact ⟨_, (Prod.mk.inj (Except.ok.inj (hreceive.symm.trans h'))).2.symm, hfair⟩

theorem SoundDelivery.not_error {e : PyError}
    (h : handleDelivery door records body now = .error e) :
    ¬SoundDelivery door own records body now := by
  intro hsound
  obtain ⟨answer, after, hreturns⟩ := hsound.returns
  cases h.symm.trans hreturns

/-- The first record that is cited decides. -/
theorem soundDelivery_of_entries {members block : List (String × Json)}
    {entries : List (Json × Json)} (h : Verified door body members)
    (hblock : adjudicationBlock (.obj members) = .ok (.obj block))
    (hcited : citedIn block ≠ []) (hentries : ownEntries records = .ok entries) :
    SoundDelivery door own records body now ↔
      ∀ half, ownHalf entries (citedIn block) = some half → ∃ owner, ownerId half = .ok owner ∧
        (Contradicts block owner ∨ FitsHalf door own records members block half) := by
  have hcase : handleDelivery door records body now = _ :=
    handleDelivery_cited h hblock hcited hentries
  cases hhalf : ownHalf entries (citedIn block) with
  | none =>
      rw [hhalf] at hcase
      refine iff_of_true (.of_refuse hcase) ?_
      rintro half ⟨⟩
  | some half =>
      have hcase : handleDelivery door records body now =
          receive door records body now (.obj members) half := by rw [hcase, hhalf]
      simp only [Option.some.injEq, forall_eq']
      cases howner : ownerId half with
      | error e =>
        have hraises : handleDelivery door records body now = .error e := by
          rw [hcase, receive, howner, Py.error_bind]
        refine iff_of_false (SoundDelivery.not_error hraises) ?_
        rintro ⟨owner, hread, -⟩
        cases hread
      | ok owner =>
        rw [soundDelivery_of_receive h hblock howner hcase]
        constructor
        · exact fun hfits => ⟨owner, rfl, hfits⟩
        · rintro ⟨owner', hread, hfits⟩
          rwa [Except.ok.inj hread]

/-- A verified body whose block can be read. -/
theorem soundDelivery_of_block {members block : List (String × Json)}
    (h : Verified door body members)
    (hblock : adjudicationBlock (.obj members) = .ok (.obj block)) :
    SoundDelivery door own records body now ↔
      (citedIn block ≠ [] → ∃ entries, ownEntries records = .ok entries ∧
        ∀ half, ownHalf entries (citedIn block) = some half → ∃ owner, ownerId half = .ok owner ∧
          (Contradicts block owner ∨ FitsHalf door own records members block half)) := by
  have hhandle : handleDelivery door records body now = _ := handleDelivery_verified h
  rw [citedCapsuleIds_eq_ok.mpr ⟨block, hblock, rfl⟩, Py.ok_bind] at hhandle
  by_cases hcited : citedIn block = []
  · rw [hcited] at hhandle
    exact iff_of_true (.of_refuse hhandle) fun hne => absurd hcited hne
  · cases hentries : ownEntries records with
    | error e =>
        have hne : (citedIn block).isEmpty = false := by simpa using hcited
        rw [hne, if_neg Bool.false_ne_true, hentries, Py.error_bind] at hhandle
        refine iff_of_false (SoundDelivery.not_error hhandle) fun hwell => ?_
        obtain ⟨entries, hfound, -⟩ := hwell hcited
        cases hfound
    | ok entries =>
        rw [soundDelivery_of_entries h hblock hcited hentries]
        constructor
        · exact fun hfits _ => ⟨entries, rfl, hfits⟩
        · intro hwell
          obtain ⟨entries', hfound, hfits⟩ := hwell hcited
          rwa [Except.ok.inj hfound]

theorem soundDelivery_iff :
    SoundDelivery door own records body now ↔ WellAddressed door own records body := by
  by_cases hverified : ∃ members, Verified door body members
  · obtain ⟨members, h⟩ := hverified
    have hall : ∀ {P : List (String × Json) → Prop},
        (∀ members', Verified door body members' → P members') ↔ P members := by
      intro P
      constructor
      · exact fun hp => hp members h
      · intro hp members' h'
        rwa [Json.obj.inj (Option.some.inj (h'.loads.symm.trans h.loads))]
    rw [WellAddressed, hall]
    constructor
    · intro hsound
      cases hids : citedCapsuleIds (.obj members) with
      | error e =>
        have hraises : handleDelivery door records body now = _ := handleDelivery_verified h
        rw [hids, Py.error_bind] at hraises
        exact absurd hsound (SoundDelivery.not_error hraises)
      | ok cited =>
        obtain ⟨block, hblock, -⟩ := citedCapsuleIds_eq_ok.mp hids
        exact ⟨block, hblock, (soundDelivery_of_block h hblock).mp hsound⟩
    · rintro ⟨block, hblock, hwell⟩
      exact (soundDelivery_of_block h hblock).mpr hwell
  · have hnone := not_exists.mp hverified
    exact iff_of_true (.of_refuse (handleDelivery_malformed hnone))
      fun members h => absurd h (hnone members)

/-! ## All deliveries -/

/-- What a delivery leaves, sound or not, is the ledger with at most one capsule behind it. -/
theorem ledgerAfter_of_sound (h : SoundDelivery door own records body now) :
    ∃ added, ledgerAfter door records body now = records ++ added ∧
      ∀ capsule ∈ added, Fair door own capsule := by
  obtain ⟨answer, after, hreturns⟩ := h.returns
  rw [ledgerAfter_of_ok hreturns]
  cases answer with
  | received =>
      obtain ⟨capsule, rfl, hfair⟩ := h.received hreturns
      refine ⟨[capsule], rfl, fun c hc => ?_⟩
      rwa [List.mem_singleton.mp hc]
  | refused requestDigest reason issuedAt status =>
      refine ⟨[], ?_, by simp⟩
      rw [List.append_nil]
      exact h.refused hreturns DeliveryAnswer.noConfusion

theorem deliverAll_of_sound {deliveries : List (Bytes × String)}
    (h : EachDelivery door (SoundDelivery door own) records deliveries) :
    ∃ added, deliverAll door records deliveries = records ++ added ∧
      ∀ capsule ∈ added, Fair door own capsule := by
  induction deliveries generalizing records with
  | nil => exact ⟨[], (List.append_nil records).symm, by simp⟩
  | cons d rest ih =>
      obtain ⟨body, now⟩ := d
      obtain ⟨hsound, hrest⟩ := h
      obtain ⟨added, hadded, hfair⟩ := ledgerAfter_of_sound hsound
      obtain ⟨more, hmore, hfair'⟩ := ih hrest
      refine ⟨added ++ more, ?_, fun capsule hc => ?_⟩
      · rw [deliverAll, hmore, hadded, List.append_assoc]
      · obtain hc | hc := List.mem_append.mp hc
        · exact hfair capsule hc
        · exact hfair' capsule hc

/-- Every delivery of a run is sound exactly when each body is well addressed in the ledger that
it comes to, and then the node's capsules are followed by fair ones alone. -/
theorem deliveries_sound_iff (door : Door) (own : List Json) (deliveries : List (Bytes × String)) :
    (EachDelivery door (SoundDelivery door own) own deliveries ↔
      EachDelivery door (fun records body _ => WellAddressed door own records body) own
        deliveries) ∧
    (EachDelivery door (SoundDelivery door own) own deliveries →
      ∃ added, deliverAll door own deliveries = own ++ added ∧
        ∀ capsule ∈ added, Fair door own capsule) :=
  ⟨EachDelivery.congr fun _ _ _ => soundDelivery_iff, deliverAll_of_sound⟩

end

/-! ## Three bodies -/

/-- A door that parses what it gets. -/
def parsingDoor : Door where
  loads := fun body => (decodeUtf8 body >>= Python.loads id).toOption
  verify := fun _ => true
  sha256Hex := hexText
  isStore := true
  rotates := fun _ _ => false

def ownedHalf (id owner : String) : Json :=
  .obj [("capsule_id", .str id), ("model_attestation", .obj [("compute_attestation", .obj
    [("owner", .obj [("owner_id", .str owner)])])])]

def verdictCapsule (id : String) (adjudication : Json) : List (String × Json) :=
  [("capsule_id", .str id), ("model_attestation", .obj [("compute_attestation", .obj
    [("adjudication", adjudication)])])]

/-- A verdict against the owner of its second half. -/
def secondHalfBlock : List (String × Json) :=
  [("half_a_capsule_id", .str "a"), ("half_b_capsule_id", .str "b"),
   ("verdict", .str "contradicted:y")]

/-- A verdict on the verdict before it. -/
def onVerdictBlock : List (String × Json) :=
  [("half_a_capsule_id", .str "v"), ("verdict", .str "corroborated")]

theorem parsingDoor_verified {members : List (String × Json)}
    (hid : ((members.lookup "capsule_id").getD .null).truthy = true)
    (hproper : (Json.obj members).Proper id) (hsorted : (Json.obj members).sortKeys = .obj members) :
    Verified parsingDoor (jcs (.obj members)) members := by
  refine ⟨?_, hid, rfl⟩
  change (decodeUtf8 (utf8 (Json.canonical _)) >>= Python.loads id).toOption = _
  rw [decodeUtf8_utf8, Py.ok_bind, loads_canonical hproper, hsorted]
  rfl

theorem verdictCapsule_verified {capsuleId : String} {adjudication : Json} (hid : capsuleId ≠ "")
    (hproper : adjudication.Proper id) (hsorted : adjudication.sortKeys = adjudication) :
    Verified parsingDoor (jcs (.obj (verdictCapsule capsuleId adjudication)))
      (verdictCapsule capsuleId adjudication) := by
  apply parsingDoor_verified
  · simp [verdictCapsule, hid]
  · simp [verdictCapsule, hproper]
  · have hle : "capsule_id" ≤ "model_attestation" := by decide
    simp [verdictCapsule, Json.sortKeys, Json.sortMembers, hsorted, Library.sortByKey, hle]

/-- A verdict against the second half that it cites is received; so is a verdict that cites only
a received one, and a block that is a text raises. -/
theorem citations_of_others_received :
    let own := [ownedHalf "a" "x", ownedHalf "b" "y"]
    let first := Json.obj (verdictCapsule "v" (.obj secondHalfBlock))
    let second := Json.obj (verdictCapsule "w" (.obj onVerdictBlock))
    let third := Json.obj (verdictCapsule "z" (.str "text"))
    deliverAll parsingDoor own [(jcs first, "t"), (jcs second, "t")] = own ++ [first] ++ [second] ∧
      ¬Fair parsingDoor own first ∧ ¬Fair parsingDoor own second ∧
      handleDelivery parsingDoor own (jcs third) "t" = .error .attributeError ∧
      ¬EachDelivery parsingDoor (SoundDelivery parsingDoor own) own
        [(jcs first, "t"), (jcs second, "t"), (jcs third, "t")] := by
  intro own first second third
  have hfirst : handleDelivery parsingDoor own (jcs first) "t" = .ok (.received, own ++ [first]) := by
    have hverified : Verified parsingDoor (jcs first) (verdictCapsule "v" (.obj secondHalfBlock)) :=
      verdictCapsule_verified (by decide) (by simp [secondHalfBlock]) rfl
    rw [handleDelivery_verified hverified]
    rfl
  have hsecond : handleDelivery parsingDoor (own ++ [first]) (jcs second) "t" =
      .ok (.received, own ++ [first] ++ [second]) := by
    have hverified : Verified parsingDoor (jcs second) (verdictCapsule "w" (.obj onVerdictBlock)) :=
      verdictCapsule_verified (by decide) (by simp [onVerdictBlock]) rfl
    rw [handleDelivery_verified hverified]
    rfl
  have hthird : handleDelivery parsingDoor own (jcs third) "t" = .error .attributeError := by
    have hverified : Verified parsingDoor (jcs third) (verdictCapsule "z" (.str "text")) :=
      verdictCapsule_verified (by decide) (.str _) rfl
    rw [handleDelivery_verified hverified]
    rfl
  have hunfair : ¬Fair parsingDoor own first := by
    intro hfair
    refine hfair.notAgainst secondHalfBlock (ownedHalf "b" "y") (.str "y") rfl ?_ rfl ⟨rfl, rfl⟩
    exact ⟨by simp [own], "b", by decide, rfl⟩
  have hforeign : ¬Fair parsingDoor own second := by
    intro hfair
    obtain ⟨block, half, hblock, hmem, cited, hcited, hid⟩ := hfair.cites
    obtain rfl : onVerdictBlock = block := Json.obj.inj (Except.ok.inj hblock)
    have hids : citedIn onVerdictBlock = ["v"] := by decide
    rw [hids, List.mem_singleton] at hcited
    rw [hcited] at hid
    obtain rfl | rfl : half = ownedHalf "a" "x" ∨ half = ownedHalf "b" "y" := by
      simpa [own] using hmem
    · simp [ownedHalf, Json.item] at hid
    · simp [ownedHalf, Json.item] at hid
  refine ⟨?_, hunfair, hforeign, hthird, ?_⟩
  · rw [deliverAll, ledgerAfter_of_ok hfirst, deliverAll, ledgerAfter_of_ok hsecond, deliverAll]
  · rintro ⟨hsound, -⟩
    obtain ⟨capsule, hafter, hfair⟩ := hsound.received hfirst
    obtain rfl := List.singleton_inj.mp (List.append_cancel_left hafter)
    exact hunfair hfair

end CapsuleMesh.Adjudication
