import CapsuleMesh.JoinCard.Card

/-!
# Verdicts and the lines after them

`card_consistency` is documented never to raise, but it reads every line with `.get`: one
line of the wrong shape takes the verdicts on all lines before it away.  Where every later
line is well shaped, no verdict changes.
-/

namespace CapsuleMesh.JoinCard

open Python

/-! ## Shapes -/

def isDict : Json → Bool
  | .obj _ => true
  | _ => false

/-- `(j or {}).get` does not raise. -/
def dictOrFalsy (j : Json) : Bool := isDict j || !j.truthy

/-- What a dictionary has under a key; null for anything else. -/
def member (j : Json) (key : String) : Json :=
  match j with
  | .obj members => (members.lookup key).getD .null
  | _ => .null

def WellShapedModels (models : Json) : Prop :=
  models.truthy = false ∨ ∃ ms, models = .arr ms ∧ ∀ m ∈ ms, isDict m = true

def WellShapedCard (subject : Json) : Prop :=
  isDict subject = true ∧ dictOrFalsy (member subject "card") = true ∧
    WellShapedModels (member (member subject "card") "models")

def WellShapedPoc (poc : Json) : Prop :=
  dictOrFalsy poc = true ∧
    ((member poc "serving_provenance").isNull = true ∨
      isDict (member poc "serving_provenance") = true ∧
      dictOrFalsy (member (member poc "serving_provenance") "model") = true ∧
      dictOrFalsy (member (member poc "serving_provenance") "hardware") = true ∧
      dictOrFalsy (member poc "evidence_refs") = true ∧
      dictOrFalsy (member (member poc "evidence_refs") "binary_attestation") = true)

/-- The attestation block of a line, where `_compute_attestation` finds one. -/
def attestationBlock (line : Json) : Json :=
  member (member line "model_attestation") "compute_attestation"

/-- Everything that is read as a dictionary is one, or is absent. -/
def WellShaped (line : Json) : Prop :=
  isDict line = true ∧ dictOrFalsy (member line "model_attestation") = true ∧
    dictOrFalsy (attestationBlock line) = true ∧
    if (member (attestationBlock line) CARD_SUBJECT_KEY).truthy then
      WellShapedCard (member (attestationBlock line) CARD_SUBJECT_KEY)
    else WellShapedPoc (member (attestationBlock line) "x-mesh-poc-v1")

/-- An exchange on a system on a chip. -/
def ClaimsSoc (line : Json) : Prop :=
  cardFromLedgerLine line = .ok none ∧
    ∃ claims, exchangeClaims line = .ok (some claims) ∧ claims.hardwareIsSoc = .bool true

/-- The line is well shaped, and the hardware block of the last card before it too, where
the line is compared with it. -/
def Gradable (T : Tools) (before : List Json) (line : Json) : Prop :=
  WellShaped line ∧
    (ClaimsSoc line → ∀ found, latestCard T before = .ok (some found) →
      found.1.hardwareInventory.isNull = true ∨ isDict found.1.hardwareInventory = true)

/-! ## Reading shapes -/

theorem get_eq_ok {j v : Json} {key : String} :
    j.get key = .ok v ↔ isDict j = true ∧ v = member j key := by
  cases j <;> simp [Json.get, Json.getD, isDict, member, eq_comm]

theorem getD_returns {j default : Json} {key : String} :
    (∃ v, j.getD key default = .ok v) ↔ isDict j = true := by
  cases j <;> simp [Json.getD, isDict]

theorem member_of_falsy {j : Json} (h : j.truthy = false) (key : String) :
    member j key = .null := by
  cases j with
  | obj ms =>
      obtain rfl : ms = [] := by simpa using h
      rfl
  | _ => rfl

@[simp] theorem isDict_or_empty (j : Json) : isDict (j.or (.obj [])) = dictOrFalsy j := by
  cases htruthy : j.truthy with
  | true => simp [Json.or_of_truthy htruthy, dictOrFalsy, htruthy]
  | false => simp [Json.or_of_falsy htruthy, dictOrFalsy, htruthy, isDict]

@[simp] theorem member_or_empty (j : Json) (key : String) :
    member (j.or (.obj [])) key = member j key := by
  cases htruthy : j.truthy with
  | true => rw [Json.or_of_truthy htruthy]
  | false =>
      rw [Json.or_of_falsy htruthy, member_of_falsy htruthy]
      rfl

theorem computeAttestationOf_eq_ok {line v : Json} :
    computeAttestationOf line = .ok v ↔
      isDict line = true ∧ dictOrFalsy (member line "model_attestation") = true ∧
        v = (attestationBlock line).or (.obj []) := by
  simp only [computeAttestationOf, Py.bind_eq_ok, Py.pure_eq_ok, Except.ok.injEq, get_eq_ok]
  constructor
  · rintro ⟨_, ⟨hline, rfl⟩, _, ⟨hatt, rfl⟩, rfl⟩
    rw [isDict_or_empty] at hatt
    rw [member_or_empty]
    exact ⟨hline, hatt, rfl⟩
  · rintro ⟨hline, hatt, rfl⟩
    refine ⟨_, ⟨hline, rfl⟩, _, ⟨by rwa [isDict_or_empty], rfl⟩, ?_⟩
    rw [member_or_empty]
    rfl

theorem ModelRef.fromValue_returns {value : Json} :
    (∃ m, ModelRef.fromValue value = .ok m) ↔ isDict value = true := by
  simp only [ModelRef.fromValue, Py.bind_eq_ok, get_eq_ok]
  constructor
  · rintro ⟨_, _, -, _, ⟨hdict, -⟩, -⟩
    exact hdict
  · intro hdict
    obtain ⟨name, hname⟩ := getD_returns.mpr hdict
    exact ⟨_, name, hname, _, ⟨hdict, rfl⟩, rfl⟩

/-- A loop over `models or []` that reads each as a dictionary. -/
theorem models_returns {models : Json} :
    (∃ found, ((models.or (.arr [])).iter >>= fun ms => ms.mapM ModelRef.fromValue) = .ok found) ↔
      WellShapedModels models := by
  have hloop : ∀ ms, (models.or (.arr [])).iter = .ok ms →
      ((∃ found, ((models.or (.arr [])).iter >>= fun ms => ms.mapM ModelRef.fromValue) =
        .ok found) ↔ ∀ m ∈ ms, isDict m = true) := by
    intro ms hms
    simp only [hms, Py.ok_bind, Py.mapM_returns, ModelRef.fromValue_returns]
  cases htruthy : models.truthy with
  | false =>
      rw [Json.or_of_falsy htruthy] at *
      simp [WellShapedModels, htruthy, hloop [] rfl]
  | true =>
      rw [Json.or_of_truthy htruthy] at *
      cases models with
      | arr ms => simp [WellShapedModels, htruthy, hloop ms rfl]
      | str s =>
        obtain ⟨c, cs, hcs⟩ : ∃ c cs, s.toList = c :: cs := by
          cases hs : s.toList with
          | nil => simp_all
          | cons c cs => exact ⟨c, cs, rfl⟩
        rw [hloop _ rfl, hcs]
        simp [WellShapedModels, htruthy, isDict]
      | obj members =>
        cases members with
        | nil => cases htruthy
        | cons m members =>
          rw [hloop _ rfl]
          simp [WellShapedModels, htruthy, isDict]
      | _ => simp [WellShapedModels, htruthy, Json.iter]

theorem Card.fromValue_returns {value : Json} :
    (∃ card, Card.fromValue value = .ok card) ↔
      isDict value = true ∧ WellShapedModels (member value "models") := by
  rw [← models_returns]
  simp only [Card.fromValue, Py.bind_eq_ok, get_eq_ok]
  constructor
  · rintro ⟨card, nodeId, hnodeId, _, ⟨hdict, -⟩, _, ⟨-, rfl⟩, ms, hms, found, hfound, -⟩
    exact ⟨hdict, found, ms, hms, hfound⟩
  · rintro ⟨hdict, found, ms, hms, hfound⟩
    obtain ⟨nodeId, hnodeId⟩ := getD_returns.mpr hdict
    exact ⟨_, nodeId, hnodeId, _, ⟨hdict, rfl⟩, _, ⟨hdict, rfl⟩, ms, hms, found, hfound, _,
      ⟨hdict, rfl⟩, _, ⟨hdict, rfl⟩, _, ⟨hdict, rfl⟩, _, ⟨hdict, rfl⟩, rfl⟩

theorem get_or_empty {j : Json} (h : dictOrFalsy j = true) (key : String) :
    (j.or (.obj [])).get key = .ok (member j key) := by
  rw [get_eq_ok, isDict_or_empty, member_or_empty]
  exact ⟨h, rfl⟩

theorem cardFromLedgerLine_returns {line : Json} :
    (∃ found, cardFromLedgerLine line = .ok found) ↔
      isDict line = true ∧ dictOrFalsy (member line "model_attestation") = true ∧
        dictOrFalsy (attestationBlock line) = true ∧
        ((member (attestationBlock line) CARD_SUBJECT_KEY).truthy = true →
          WellShapedCard (member (attestationBlock line) CARD_SUBJECT_KEY)) := by
  constructor
  · rintro ⟨found, h⟩
    obtain ⟨block, hblock, h⟩ := Py.bind_eq_ok.mp h
    obtain ⟨hline, hattestation, rfl⟩ := computeAttestationOf_eq_ok.mp hblock
    obtain ⟨subject, hsubject, h⟩ := Py.bind_eq_ok.mp h
    rw [get_eq_ok, isDict_or_empty, member_or_empty] at hsubject
    obtain ⟨hdict, rfl⟩ := hsubject
    refine ⟨hline, hattestation, hdict, fun htruthy => ?_⟩
    rw [if_pos htruthy] at h
    obtain ⟨value, hvalue, h⟩ := Py.bind_eq_ok.mp h
    obtain ⟨hsubject, rfl⟩ := get_eq_ok.mp hvalue
    obtain ⟨card, hcard, -⟩ := Py.bind_eq_ok.mp h
    have hshape := Card.fromValue_returns.mp ⟨card, hcard⟩
    rw [isDict_or_empty, member_or_empty] at hshape
    exact ⟨hsubject, hshape⟩
  · rintro ⟨hline, hattestation, hblock, hcard⟩
    have hcompute := computeAttestationOf_eq_ok.mpr ⟨hline, hattestation, rfl⟩
    simp only [cardFromLedgerLine, hcompute, Py.ok_bind, get_or_empty hblock]
    split_ifs with htruthy
    · obtain ⟨hdict, hshape⟩ := hcard htruthy
      obtain ⟨card, hcard⟩ := Card.fromValue_returns.mpr (by
        rw [isDict_or_empty, member_or_empty]
        exact hshape)
      obtain ⟨capsuleId, hid⟩ := getD_returns.mpr hline
      refine ⟨some (card, capsuleId), ?_⟩
      apply Py.bind_eq_ok.mpr ⟨_, get_eq_ok.mpr ⟨hdict, rfl⟩, ?_⟩
      apply Py.bind_eq_ok.mpr ⟨_, hcard, ?_⟩
      exact Py.bind_eq_ok.mpr ⟨_, hid, rfl⟩
    · exact ⟨none, rfl⟩

theorem exchangeClaims_returns {line : Json} (hline : isDict line = true)
    (hattestation : dictOrFalsy (member line "model_attestation") = true)
    (hblock : dictOrFalsy (attestationBlock line) = true) :
    (∃ claims, exchangeClaims line = .ok claims) ↔
      WellShapedPoc (member (attestationBlock line) "x-mesh-poc-v1") := by
  have hcompute := computeAttestationOf_eq_ok.mpr ⟨hline, hattestation, rfl⟩
  simp only [exchangeClaims, hcompute, Py.ok_bind, get_or_empty hblock]
  generalize member (attestationBlock line) "x-mesh-poc-v1" = poc
  simp only [Py.bind_eq_ok, get_eq_ok, isDict_or_empty, member_or_empty]
  constructor
  · rintro ⟨claims, _, ⟨hpoc, rfl⟩, h⟩
    refine ⟨hpoc, ?_⟩
    cases hnull : (member poc "serving_provenance").isNull with
    | true => exact .inl rfl
    | false =>
        rw [hnull, if_neg Bool.false_ne_true] at h
        simp only [Py.bind_eq_ok, get_eq_ok, isDict_or_empty, member_or_empty] at h
        obtain ⟨_, ⟨hdict, rfl⟩, _, ⟨-, rfl⟩, _, ⟨-, rfl⟩, _, ⟨hrefs, rfl⟩, _, ⟨hmodel, -⟩, _, -, _,
          -, _, ⟨hhardware, -⟩, _, -, _, -, _, -, _, -, _, -, _, ⟨hbinary, -⟩, -⟩ := h
        exact .inr ⟨hdict, hmodel, hhardware, hrefs, hbinary⟩
  · rintro ⟨hpoc, hnull | ⟨hdict, hmodel, hhardware, hrefs, hbinary⟩⟩
    · exact ⟨none, _, ⟨hpoc, rfl⟩, by simp [hnull]⟩
    · cases hnull : (member poc "serving_provenance").isNull with
      | true => exact ⟨none, _, ⟨hpoc, rfl⟩, by simp [hnull]⟩
      | false =>
        rw [exists_comm]
        refine ⟨member poc "serving_provenance", ?_⟩
        simp only [hpoc, hnull, Bool.false_eq_true, if_false, Py.bind_eq_ok, get_eq_ok,
          isDict_or_empty, member_or_empty]
        exact ⟨_, ⟨trivial, trivial⟩, _, ⟨hdict, rfl⟩, _, ⟨hdict, rfl⟩, _, ⟨trivial, rfl⟩, _, ⟨hrefs, rfl⟩,
          _, ⟨hmodel, rfl⟩, _, ⟨hdict, rfl⟩, _, ⟨hmodel, rfl⟩, _, ⟨hhardware, rfl⟩,
          _, ⟨hdict, rfl⟩, _, ⟨hhardware, rfl⟩, _, ⟨hdict, rfl⟩, _, ⟨hhardware, rfl⟩,
          _, ⟨hdict, rfl⟩, _, ⟨hbinary, rfl⟩, _, ⟨hdict, rfl⟩, rfl⟩

theorem cardFromLedgerLine_eq_none {line : Json} (hline : isDict line = true)
    (hattestation : dictOrFalsy (member line "model_attestation") = true)
    (hblock : dictOrFalsy (attestationBlock line) = true) :
    cardFromLedgerLine line = .ok none ↔
      (member (attestationBlock line) CARD_SUBJECT_KEY).truthy = false := by
  have hcompute := computeAttestationOf_eq_ok.mpr ⟨hline, hattestation, rfl⟩
  simp only [cardFromLedgerLine, hcompute, Py.ok_bind, get_or_empty hblock]
  cases (member (attestationBlock line) CARD_SUBJECT_KEY).truthy with
  | false => simp
  | true => simp [Py.bind_eq_ok]

/-- A well-shaped line is one that both readers get past. -/
theorem wellShaped_iff {line : Json} :
    WellShaped line ↔ (∃ found, cardFromLedgerLine line = .ok found) ∧
      (cardFromLedgerLine line = .ok none → ∃ claims, exchangeClaims line = .ok claims) := by
  rw [cardFromLedgerLine_returns, WellShaped]
  constructor
  · rintro ⟨hline, hattestation, hblock, hshape⟩
    rw [cardFromLedgerLine_eq_none hline hattestation hblock,
      exchangeClaims_returns hline hattestation hblock]
    split_ifs at hshape with htruthy
    · exact ⟨⟨hline, hattestation, hblock, fun _ => hshape⟩, fun h => by simp [h] at htruthy⟩
    · exact ⟨⟨hline, hattestation, hblock, fun h => absurd h htruthy⟩, fun _ => hshape⟩
  · rintro ⟨⟨hline, hattestation, hblock, hcard⟩, hpoc⟩
    rw [cardFromLedgerLine_eq_none hline hattestation hblock,
      exchangeClaims_returns hline hattestation hblock] at hpoc
    refine ⟨hline, hattestation, hblock, ?_⟩
    split_ifs with htruthy
    · exact hcard htruthy
    · exact hpoc (by simpa using htruthy)

/-! ## One line -/

theorem compareHardware_returns {T : Tools} {card : Card} {claims : ExchangeClaims} :
    (∃ comparison, compareHardware T card claims = .ok comparison) ↔
      (claims.hardwareIsSoc = .bool true →
        card.hardwareInventory.isNull = true ∨ isDict card.hardwareInventory = true) := by
  unfold compareHardware
  split
  · next hnull hsoc =>
      simp only [Py.bind_eq_ok, get_eq_ok, hsoc, hnull]
      constructor
      · rintro ⟨_, _, ⟨hdict, -⟩, -⟩ -
        exact .inr hdict
      · intro h
        have hdict : isDict card.hardwareInventory = true := by simpa using h
        exact ⟨_, _, ⟨hdict, rfl⟩, _, ⟨hdict, rfl⟩, rfl⟩
  · next hother =>
      refine ⟨fun _ hsoc => .inl ?_, fun _ => ⟨_, rfl⟩⟩
      cases hnull : card.hardwareInventory.isNull with
      | true => rfl
      | false => exact (hother hnull hsoc).elim

theorem exchangeVerdict_returns {T : Tools} {current : Option (Card × String)}
    {claims : ExchangeClaims} {capsuleId : Json} :
    (∃ entry, exchangeVerdict T current claims capsuleId = .ok entry) ↔
      (claims.hardwareIsSoc = .bool true → ∀ card ∈ current.map Prod.fst,
        card.hardwareInventory.isNull = true ∨ isDict card.hardwareInventory = true) := by
  cases current with
  | none => simp [exchangeVerdict]
  | some found =>
      simp only [exchangeVerdict, compareExchange, Option.map_some, Option.mem_def,
        Option.some.injEq, forall_eq']
      rw [← compareHardware_returns]
      constructor
      · rintro ⟨entry, h⟩
        obtain ⟨comparison, h, -⟩ := Py.bind_eq_ok.mp h
        obtain ⟨hardware, h, -⟩ := Py.bind_eq_ok.mp h
        exact ⟨hardware, h⟩
      · rintro ⟨hardware, h⟩
        exact ⟨_, Py.bind_eq_ok.mpr ⟨_, Py.bind_eq_ok.mpr ⟨hardware, h, rfl⟩, rfl⟩⟩

/-- The walk gets past a line exactly when it is gradable after the lines before it. -/
theorem walkLine_returns {T : Tools} {before : List Json} {walk : Walk} {line : Json}
    (hwalk : walkLedger T before = .ok walk) :
    (∃ walk', walkLine T walk line = .ok walk') ↔ Gradable T before line := by
  obtain ⟨found, hfound, hcurrent⟩ := latestCard_of_walk hwalk
  constructor
  · rintro ⟨walk', h⟩
    rcases walkLine_eq_ok.mp h with ⟨card, capsuleId, hcard, -⟩ | ⟨hcard, hclaims, -⟩ |
      ⟨hcard, claims, capsuleId, entry, hclaims, -, hentry, -⟩
    · refine ⟨wellShaped_iff.mpr ⟨⟨_, hcard⟩, fun hnone => ?_⟩, fun hsoc => ?_⟩
      · cases hcard.symm.trans hnone
      · cases hcard.symm.trans hsoc.1
    · refine ⟨wellShaped_iff.mpr ⟨⟨_, hcard⟩, fun _ => ⟨_, hclaims⟩⟩, fun hsoc => ?_⟩
      obtain ⟨-, claims, hclaims', -⟩ := hsoc
      cases hclaims.symm.trans hclaims'
    · refine ⟨wellShaped_iff.mpr ⟨⟨_, hcard⟩, fun _ => ⟨_, hclaims⟩⟩, ?_⟩
      rintro ⟨-, claims', hclaims', hsoc⟩ found' hfound'
      obtain rfl := Option.some.inj (Except.ok.inj (hclaims.symm.trans hclaims'))
      obtain rfl := Except.ok.inj (hfound.symm.trans hfound')
      refine exchangeVerdict_returns.mp ⟨entry, hentry⟩ hsoc found'.1 ?_
      rw [← hcurrent]
      rfl
  · rintro ⟨hshape, hhardware⟩
    obtain ⟨⟨hit, hhit⟩, hpoc⟩ := wellShaped_iff.mp hshape
    cases hit with
    | some hit => exact ⟨_, walkLine_eq_ok.mpr (.inl ⟨_, _, hhit, rfl⟩)⟩
    | none =>
        obtain ⟨claims, hclaims⟩ := hpoc hhit
        cases claims with
        | none => exact ⟨_, walkLine_eq_ok.mpr (.inr (.inl ⟨hhit, hclaims, rfl⟩))⟩
        | some claims =>
          have hreturns : claims.hardwareIsSoc = .bool true →
              ∀ card ∈ walk.current.map Prod.fst, card.hardwareInventory.isNull = true ∨
                isDict card.hardwareInventory = true := by
            intro hsoc card hcard
            rw [← hcurrent, Option.map_map] at hcard
            obtain ⟨found', rfl, rfl⟩ := Option.map_eq_some_iff.mp hcard
            exact hhardware ⟨hhit, claims, hclaims, hsoc⟩ found' hfound
          obtain ⟨entry, hentry⟩ := exchangeVerdict_returns.mpr hreturns
          exact ⟨_, walkLine_eq_ok.mpr (.inr (.inr ⟨hhit, claims, _, entry, hclaims,
            get_eq_ok.mpr ⟨hshape.1, rfl⟩, hentry, rfl⟩))⟩

/-! ## Later lines -/

/-- The walk gets past the later lines exactly when each is gradable where it stands. -/
theorem walkLedger_append_returns {T : Tools} {lines : List Json} {walk : Walk}
    (hwalk : walkLedger T lines = .ok walk) (later : List Json) :
    (∃ walk', walkLedger T (lines ++ later) = .ok walk') ↔
      ∀ before line after, later = before ++ line :: after → Gradable T (lines ++ before) line := by
  induction later using List.reverseRecOn with
  | nil => simp [hwalk]
  | append_singleton later line ih =>
      rw [← List.append_assoc]
      simp only [walkLedger_concat_eq_ok]
      constructor
      · rintro ⟨walk', between, hbetween, hline⟩ before line' after hsplit
        rcases List.eq_nil_or_concat after with rfl | ⟨after, last, rfl⟩
        · obtain ⟨rfl, hlast⟩ := List.append_inj' hsplit rfl
          obtain rfl := List.singleton_inj.mp hlast
          exact (walkLine_returns hbetween).mp ⟨_, hline⟩
        · have hsplit' : later = before ++ line' :: after := by
            rw [List.concat_eq_append, ← List.cons_append, ← List.append_assoc] at hsplit
            exact (List.append_inj' hsplit rfl).1
          exact ih.mp ⟨_, hbetween⟩ before line' after hsplit'
      · intro h
        obtain ⟨between, hbetween⟩ := ih.mpr fun before line' after hsplit =>
          h before line' (after ++ [line]) (by rw [hsplit]; simp)
        obtain ⟨walk', hwalk'⟩ := (walkLine_returns hbetween).mpr (h later line [] rfl)
        exact ⟨walk', between, hbetween, hwalk'⟩

/-- Each exchange has its verdict from the last card before it, after the verdicts on the
exchanges before. -/
def GradedByLatest (T : Tools) (lines : List Json) (result : CardConsistencyResult) : Prop :=
  ∀ before line after claims, lines = before ++ line :: after →
    cardFromLedgerLine line = .ok none → exchangeClaims line = .ok (some claims) →
    ∃ graded found capsuleId entry, cardConsistency T before = .ok graded ∧
      latestCard T before = .ok found ∧ line.get "capsule_id" = .ok capsuleId ∧
      exchangeVerdict T (found.map fun f => (f.1, f.2.1)) claims capsuleId = .ok entry ∧
      graded.entries ++ [entry] <+: result.entries

theorem gradedByLatest {T : Tools} {lines : List Json} {result : CardConsistencyResult}
    (h : cardConsistency T lines = .ok result) : GradedByLatest T lines result := by
  intro before line after claims hsplit hcard hclaims
  obtain ⟨walk, hwalk, hresult⟩ := Py.bind_eq_ok.mp h
  obtain rfl := Except.ok.inj hresult
  have hpre : before ++ [line] <+: lines := ⟨after, by rw [hsplit]; simp⟩
  obtain ⟨passed, hpassed, hentries, -⟩ := walkLedger_of_prefix hpre hwalk
  obtain ⟨earlier, hearlier, hline⟩ := walkLedger_concat_eq_ok.mp hpassed
  obtain ⟨found, hfound, hcurrent⟩ := latestCard_of_walk hearlier
  rcases walkLine_eq_ok.mp hline with ⟨_, _, hhit, -⟩ | ⟨-, hnone, -⟩ |
    ⟨-, claims', capsuleId, entry, hclaims', hid, hentry, rfl⟩
  · cases hcard.symm.trans hhit
  · cases hclaims.symm.trans hnone
  · obtain rfl := Option.some.inj (Except.ok.inj (hclaims.symm.trans hclaims'))
    rw [← hcurrent] at hentry
    exact ⟨earlier.result, found, capsuleId, entry, Py.bind_eq_ok.mpr ⟨_, hearlier, rfl⟩, hfound,
      hid, hentry, hentries⟩

/-- The verdicts on a ledger stay as they are when lines are appended exactly when each of
the new lines can be graded. -/
theorem verdicts_kept_iff_gradable {T : Tools} {lines : List Json}
    {result : CardConsistencyResult} (h : cardConsistency T lines = .ok result)
    (later : List Json) :
    (∃ result', cardConsistency T (lines ++ later) = .ok result' ∧
      result.entries <+: result'.entries ∧
      result.cardTransitions <+: result'.cardTransitions ∧
      GradedByLatest T (lines ++ later) result') ↔
      ∀ before line after, later = before ++ line :: after → Gradable T (lines ++ before) line := by
  obtain ⟨walk, hwalk, hresult⟩ := Py.bind_eq_ok.mp h
  obtain rfl := Except.ok.inj hresult
  rw [← walkLedger_append_returns hwalk]
  constructor
  · rintro ⟨result', hresult', -⟩
    obtain ⟨walk', hwalk', -⟩ := Py.bind_eq_ok.mp hresult'
    exact ⟨walk', hwalk'⟩
  · rintro ⟨walk', hwalk'⟩
    have hresult' : cardConsistency T (lines ++ later) = .ok walk'.result :=
      Py.bind_eq_ok.mpr ⟨walk', hwalk', rfl⟩
    obtain ⟨passed, hpassed, hentries, htransitions⟩ :=
      walkLedger_of_prefix (List.prefix_append lines later) hwalk'
    obtain rfl := Except.ok.inj (hwalk.symm.trans hpassed)
    exact ⟨_, hresult', hentries, htransitions, gradedByLatest hresult'⟩

/-! ## A line of the wrong shape -/

def ledgerLine (capsuleId : String) (attestation : List (String × Json)) : Json :=
  .obj [("capsule_id", .str capsuleId),
    ("model_attestation", .obj [("compute_attestation", .obj attestation)])]

def exchangeLine (capsuleId : String) : Json :=
  ledgerLine capsuleId [("x-mesh-poc-v1", .obj [("serving_provenance",
    .obj [("served_by_node_id", .str "node")])])]

/-- A capsule whose card block is a text. -/
def misshapenLine (capsuleId : String) : Json :=
  ledgerLine capsuleId [(CARD_SUBJECT_KEY, .str "card")]

def cardLine (card : Card) : Json :=
  .obj [("model_attestation", .obj [("compute_attestation", .obj
    [(CARD_SUBJECT_KEY, .obj [("card", card.toValue)])])])]

def firstCard : Card := ⟨.str "node", .null, [⟨.str "model", .null⟩], .null, .null, .null, .null⟩

/-- A card that adds a hardware block to the first one. -/
def secondCard (T : Tools) : Card :=
  { firstCard with
    hardwareInventory := .obj [("chip", .str "M2")]
    supersedes := .str (firstCard.digest T) }

theorem cardFromLedgerLine_cardLine (card : Card) :
    cardFromLedgerLine (cardLine card) = .ok (some (card, .str "")) := by
  have hvalue : card.toValue.or (.obj []) = card.toValue := rfl
  simp [cardFromLedgerLine, computeAttestationOf, cardLine, hvalue, Card.fromValue_toValue,
    List.lookup_cons]

theorem cardConsistency_exchangeLine (T : Tools) :
    cardConsistency T [exchangeLine "a"] = .ok ⟨[⟨.str "a", none, .noCardSealed, []⟩], []⟩ := rfl

/-- The exchange had a verdict; with one more capsule behind it there is none. -/
theorem misshapen_line_takes_verdicts :
    let T : Tools := ⟨hexText, id⟩
    cardConsistency T [exchangeLine "a"] = .ok ⟨[⟨.str "a", none, .noCardSealed, []⟩], []⟩ ∧
      cardConsistency T ([exchangeLine "a"] ++ [misshapenLine "b"]) = .error .attributeError ∧
      ¬∃ result', cardConsistency T ([exchangeLine "a"] ++ [misshapenLine "b"]) = .ok result' := by
  intro T
  have herror : cardConsistency T ([exchangeLine "a"] ++ [misshapenLine "b"]) =
      .error .attributeError := rfl
  refine ⟨cardConsistency_exchangeLine T, herror, ?_⟩
  rintro ⟨result', hresult'⟩
  cases herror.symm.trans hresult'

theorem gradable_exchangeLine (T : Tools) (before : List Json) (capsuleId : String) :
    Gradable T before (exchangeLine capsuleId) := by
  refine ⟨wellShaped_iff.mpr ⟨⟨none, rfl⟩, fun _ => ⟨_, rfl⟩⟩, ?_⟩
  rintro ⟨-, claims, hclaims, hsoc⟩
  obtain rfl := Option.some.inj (Except.ok.inj hclaims)
  cases hsoc

theorem gradable_cardLine (T : Tools) (before : List Json) (card : Card) :
    Gradable T before (cardLine card) := by
  have hread := cardFromLedgerLine_cardLine card
  refine ⟨wellShaped_iff.mpr ⟨⟨_, hread⟩, fun hnone => ?_⟩, ?_⟩
  · cases hread.symm.trans hnone
  · rintro ⟨hnone, -⟩
    cases hread.symm.trans hnone

/-- A card and an exchange, and behind them another card with an exchange of its own. -/
theorem verdicts_kept_iff_gradable_cards :
    let T : Tools := ⟨hexText, id⟩
    let lines := [cardLine firstCard, exchangeLine "a"]
    let later := [cardLine (secondCard T), exchangeLine "b"]
    ∃ result result', cardConsistency T lines = .ok result ∧
      cardConsistency T (lines ++ later) = .ok result' ∧ result.entries.length = 1 ∧
      result.entries <+: result'.entries ∧ result.cardTransitions <+: result'.cardTransitions ∧
      GradedByLatest T (lines ++ later) result' := by
  intro T lines later
  have hgradable : ∀ before line after, later = before ++ line :: after →
      Gradable T (lines ++ before) line := by
    intro before line after hsplit
    have hline : line ∈ later := by rw [hsplit]; simp
    simp only [later, List.mem_cons, List.not_mem_nil, or_false] at hline
    obtain rfl | rfl := hline
    · exact gradable_cardLine T _ _
    · exact gradable_exchangeLine T _ _
  obtain ⟨entry, hentry⟩ : ∃ entry, cardConsistency T lines =
      .ok ⟨[entry], [verifyCardTransition T none firstCard]⟩ := by
    simp only [cardConsistency, walkLedger, lines, List.foldlM_cons, List.foldlM_nil, walkLine,
      cardFromLedgerLine_cardLine, Py.ok_bind, Py.pure_eq_ok]
    exact ⟨_, rfl⟩
  obtain ⟨result', hresult', hentries, htransitions, hgraded⟩ :=
    (verdicts_kept_iff_gradable hentry later).mpr hgradable
  exact ⟨_, result', hentry, hresult', rfl, hentries, htransitions, hgraded⟩

end CapsuleMesh.JoinCard
