import CapsuleMesh.Adjudication.LiveReferee
import CapsuleMesh.Adjudication.ResponseText
import CapsuleMesh.Python.Dumps

/-!
# Who may be blamed

Without a referee `adjudicate` blames nobody.  A referee that was called and names itself is
believed, so an owner is blamed on its word alone; the live referee blames an owner only where its
token is the other half's.
-/

namespace CapsuleMesh.Adjudication

open Python Sidecar

/-- A verdict that blames nobody but the owner of a half. -/
def InVocabulary (halfA halfB : AdjudicationHalf) (verdict : String) : Prop :=
  verdict = VERDICT_CORROBORATED ∨ verdict = VERDICT_INCONCLUSIVE ∨
    ∃ half ∈ [halfA, halfB], half.ownerId.isNull = false ∧ verdict = contradicted half.ownerId

/-- The two texts diverge at a token, as `compare_transcripts` finds. -/
structure Diverge (digests : Digests) (halfA halfB : AdjudicationHalf)
    (comparison : ComparisonResult) (index : ℕ) : Prop where
  compared : ∃ textA textB, halfA.responseText = .ok textA ∧ halfB.responseText = .ok textB ∧
    compareTranscripts digests textA textB = .ok comparison
  index_eq : comparison.divergenceIndex = some index

/-- The referee was called on a divergence, names itself and has neither half's owner. -/
structure Called (digests : Digests) (halfA halfB : AdjudicationHalf) (options : AdjudicateOptions)
    (outcome : AdjudicationOutcome) (comparison : ComparisonResult) (result : RefereeResult) :
    Prop where
  diverge : ∃ index, Diverge digests halfA halfB comparison index
  answered : ∃ referee, options.referee = some referee ∧ referee halfA halfB comparison = .ok result
  called : outcome.refereeCalled = true
  identity : ∃ identity, result.identity = some identity ∧
    outcome.refereeIdentityId = some identity.refereeId
  independent : ∀ owner, options.refereeOwnerId = some owner →
    halfA.ownerId ≠ .str owner ∧ halfB.ownerId ≠ .str owner

/-- A thin margin of the referee, where it is asked for. -/
def Doubtful (options : AdjudicateOptions) (result : RefereeResult) : Prop :=
  ∃ tau, options.logprobTau = some tau ∧ result.logprobsAbsent = false ∧ result.margin < tau

/-- The three ends of an adjudication: a reason for no verdict, a verdict on the texts, and what
the referee says. -/
inductive Ends (digests : Digests) (halfA halfB : AdjudicationHalf) (options : AdjudicateOptions)
    (outcome : AdjudicationOutcome) : Prop where
  | reason (reason : NoVerdict) (hverdict : outcome.verdict = none)
      (hreason : outcome.noVerdictReason = some reason)
  | texts (hverdict : outcome.verdict = some VERDICT_CORROBORATED ∨
      outcome.verdict = some VERDICT_INCONCLUSIVE) (hreason : outcome.noVerdictReason = none)
  | referee (comparison : ComparisonResult) (result : RefereeResult)
      (hcalled : Called digests halfA halfB options outcome comparison result)
      (hverdict : Doubtful options result ∧ outcome.verdict = some VERDICT_INCONCLUSIVE ∨
        ¬Doubtful options result ∧ outcome.verdict = some result.verdict)
      (hreason : outcome.noVerdictReason = none)

section

variable {digests : Digests} {verify : Json → Bool} {halfA halfB : AdjudicationHalf}
  {options : AdjudicateOptions} {outcome : AdjudicationOutcome}

theorem any_eq_true_iff_doubtful (options : AdjudicateOptions) (result : RefereeResult) :
    (options.logprobTau.any fun tau => !result.logprobsAbsent && decide (result.margin < tau)) =
      true ↔ Doubtful options result := by
  rw [Doubtful]
  cases options.logprobTau with
  | none => simp
  | some tau => simp

/-- Before the comparison there is no verdict; what ends there ends with a reason. -/
theorem beforeTexts_unjudged {r : AdjudicationOutcome ⊕ AdjudicationOutcome}
    (h : beforeTexts digests verify halfA halfB options = .ok r) :
    r.elim (fun ended => ended.verdict = none ∧ ∃ reason, ended.noVerdictReason = some reason)
      (fun base => base.verdict = none ∧ base.noVerdictReason = none) := by
  unfold beforeTexts at h
  split at h
  · cases h
  simp only [adjudicating_bind_eq_ok] at h
  obtain ⟨-, -, -, -, idA, -, idB, -, untranscribed, -, h⟩ := h
  split at h
  · cases h
    exact ⟨rfl, _, rfl⟩
  simp only [adjudicating_bind_eq_ok] at h
  obtain ⟨-, -, -, -, h⟩ := h
  split at h
  · cases h
    exact ⟨rfl, _, rfl⟩
  split at h
  · cases h
    exact ⟨rfl, _, rfl⟩
  split at h
  · cases h
    exact ⟨rfl, _, rfl⟩
  · cases h
    exact ⟨rfl, rfl⟩

theorem independent_of_not_dependent
    (h : (options.refereeOwnerId.any fun owner => Json.pyEq (.str owner) halfA.ownerId ||
      Json.pyEq (.str owner) halfB.ownerId) = false) :
    ∀ owner, options.refereeOwnerId = some owner →
      halfA.ownerId ≠ .str owner ∧ halfB.ownerId ≠ .str owner := by
  intro owner howner
  rw [howner, Option.any_some, Bool.or_eq_false_iff] at h
  have hself : Json.pyEq (.str owner) (.str owner) = true := Json.pyEq_self rfl
  constructor
  · intro hA
    rw [hA] at h
    cases hself.symm.trans h.1
  · intro hB
    rw [hB] at h
    cases hself.symm.trans h.2

theorem adjudicateTexts_ends {base : AdjudicationOutcome} (hverdict : base.verdict = none)
    (hreason : base.noVerdictReason = none)
    (h : adjudicateTexts digests halfA halfB options base = .ok outcome) :
    Ends digests halfA halfB options outcome := by
  unfold adjudicateTexts at h
  obtain ⟨textA, htextA, h⟩ := adjudicating_bind_eq_ok.mp h
  obtain ⟨textB, htextB, h⟩ := adjudicating_bind_eq_ok.mp h
  obtain ⟨comparison, hcomparison, h⟩ := adjudicating_bind_eq_ok.mp h
  have hcompared : ∃ textA textB, halfA.responseText = .ok textA ∧
      halfB.responseText = .ok textB ∧ compareTranscripts digests textA textB = .ok comparison :=
    ⟨textA, textB, ofPy_eq_ok.mp htextA, ofPy_eq_ok.mp htextB, ofPy_eq_ok.mp hcomparison⟩
  dsimp only at h
  split at h
  · rename_i index referee hindex hreferee
    split at h
    · cases h
      exact .reason .refereeNotIndependent hverdict rfl
    rename_i hdependent
    split at h
    · cases h
      exact .reason .refereeUnreachable hverdict rfl
    rename_i result hresult
    split at h
    · cases h
    rename_i identity hidentity
    cases h
    refine .referee comparison result ⟨⟨index, hcompared, hindex⟩, ⟨referee, hreferee, hresult⟩,
      rfl, ⟨identity, hidentity, rfl⟩,
      independent_of_not_dependent (Bool.eq_false_of_not_eq_true hdependent)⟩ ?_ hreason
    by_cases hdoubtful : Doubtful options result
    · refine .inl ⟨hdoubtful, congrArg some (if_pos ?_)⟩
      exact (any_eq_true_iff_doubtful options result).mpr hdoubtful
    · refine .inr ⟨hdoubtful, congrArg some (if_neg ?_)⟩
      exact fun h => hdoubtful ((any_eq_true_iff_doubtful options result).mp h)
  · cases h
    refine .texts ?_ hreason
    by_cases hmargin : options.marginTau ≤ comparison.margin
    · exact .inl (congrArg some (if_pos hmargin))
    · exact .inr (congrArg some (if_neg hmargin))

theorem adjudicate_ends (h : adjudicate digests verify halfA halfB options = .ok outcome) :
    Ends digests halfA halfB options outcome := by
  rw [adjudicate_eq] at h
  obtain ⟨ended | base, hbefore, h⟩ := adjudicating_bind_eq_ok.mp h
  · cases h
    obtain ⟨hverdict, reason, hreason⟩ := beforeTexts_unjudged hbefore
    exact .reason reason hverdict hreason
  · obtain ⟨hverdict, hreason⟩ := beforeTexts_unjudged hbefore
    exact adjudicateTexts_ends hverdict hreason h

end

/-! ## The live referee -/

/-- The first token of the referee. -/
def refereeToken (responseBody : Json) : Py (Option String) := do
  tokenAt (← refereeText responseBody) 0

/-- The token of a half where the texts diverge. -/
def halfToken (half : AdjudicationHalf) (index : ℕ) : Py (Option String) := do
  tokenAt (← half.responseText) index

/-- The referee's token is that of the other half and not that of the blamed one. -/
def TokenAgainst (responseBody : Json) (index : ℕ) (other blamed : AdjudicationHalf) : Prop :=
  ∃ token, refereeToken responseBody = .ok (some token) ∧
    halfToken other index = .ok (some token) ∧
    ∃ differing, halfToken blamed index = .ok differing ∧ differing ≠ some token

section

variable {digests : Digests} {network : RefereeNetwork} {live : LiveRefereeOptions}
  {halfA halfB : AdjudicationHalf} {comparison : ComparisonResult} {result : RefereeResult}

theorem tokenVerdict_cases (ownerA ownerB : Json) (token tokenA tokenB : Option String) :
    tokenVerdict ownerA ownerB token tokenA tokenB = VERDICT_INCONCLUSIVE ∨
      (∃ t, token = some t ∧ tokenA = some t ∧ tokenB ≠ some t ∧ ownerB.truthy = true ∧
        tokenVerdict ownerA ownerB token tokenA tokenB = contradicted ownerB) ∨
      ∃ t, token = some t ∧ tokenB = some t ∧ tokenA ≠ some t ∧ ownerA.truthy = true ∧
        tokenVerdict ownerA ownerB token tokenA tokenB = contradicted ownerA := by
  cases token with
  | none => exact .inl rfl
  | some t =>
      rw [tokenVerdict]
      simp only [Option.isSome_some, Bool.true_and, Bool.and_eq_true, Bool.not_eq_true',
        decide_eq_true_eq, decide_eq_false_iff_not]
      split_ifs with hA hB
      · obtain ⟨⟨hsame, hother⟩, howner⟩ := hA
        exact .inr (.inl ⟨t, rfl, hsame.symm, Ne.symm hother, howner, rfl⟩)
      · obtain ⟨⟨hsame, hother⟩, howner⟩ := hB
        exact .inr (.inr ⟨t, rfl, hsame.symm, Ne.symm hother, howner, rfl⟩)
      · exact .inl rfl

theorem isNull_of_truthy {j : Json} (h : j.truthy = true) : j.isNull = false := by
  cases j with
  | null => cases h
  | _ => rfl

/-- The live referee names the peer it asked, and blames the half whose token its own is not. -/
theorem liveReferee_spec (h : liveReferee digests network live halfA halfB comparison = .ok result) :
    (∃ capsuleId, result.identity = some ⟨live.targetPeerId, capsuleId, none⟩) ∧
      ∃ index responseBody, comparison.divergenceIndex = some index ∧
        askReferee network live halfA index = .ok responseBody ∧
        (result.verdict = VERDICT_INCONCLUSIVE ∨
          halfB.ownerId.truthy = true ∧ result.verdict = contradicted halfB.ownerId ∧
            TokenAgainst responseBody index halfA halfB ∨
          halfA.ownerId.truthy = true ∧ result.verdict = contradicted halfA.ownerId ∧
            TokenAgainst responseBody index halfB halfA) := by
  unfold liveReferee at h
  cases hindex : comparison.divergenceIndex with
  | none =>
      rw [hindex] at h
      cases h
  | some index =>
      rw [hindex] at h
      obtain ⟨responseBody, hresponse, h⟩ := Py.bind_eq_ok.mp h
      obtain ⟨text, htext, h⟩ := Py.bind_eq_ok.mp h
      obtain ⟨token, htoken, h⟩ := Py.bind_eq_ok.mp h
      obtain ⟨textA, htextA, h⟩ := Py.bind_eq_ok.mp h
      obtain ⟨tokenA, htokenA, h⟩ := Py.bind_eq_ok.mp h
      obtain ⟨textB, htextB, h⟩ := Py.bind_eq_ok.mp h
      obtain ⟨tokenB, htokenB, h⟩ := Py.bind_eq_ok.mp h
      obtain ⟨margin, -, h⟩ := Py.bind_eq_ok.mp h
      obtain ⟨digest, -, h⟩ := Py.bind_eq_ok.mp h
      obtain ⟨record, -, h⟩ := Py.bind_eq_ok.mp h
      cases h
      have hfirst : refereeToken responseBody = .ok token :=
        Py.bind_eq_ok.mpr ⟨text, htext, htoken⟩
      have hA : halfToken halfA index = .ok tokenA := Py.bind_eq_ok.mpr ⟨textA, htextA, htokenA⟩
      have hB : halfToken halfB index = .ok tokenB := Py.bind_eq_ok.mpr ⟨textB, htextB, htokenB⟩
      refine ⟨⟨_, rfl⟩, index, responseBody, rfl, hresponse, ?_⟩
      rcases tokenVerdict_cases halfA.ownerId halfB.ownerId token tokenA tokenB with
        hverdict | ⟨t, rfl, rfl, hother, howner, hverdict⟩ | ⟨t, rfl, rfl, hother, howner, hverdict⟩
      · exact .inl hverdict
      · exact .inr (.inl ⟨howner, hverdict, t, hfirst, hA, _, hB, hother⟩)
      · exact .inr (.inr ⟨howner, hverdict, t, hfirst, hB, _, hA, hother⟩)

end

/-! ## What is returned -/

/-- Exactly one of the verdict and the reason is set; beyond the two verdicts that blame nobody
there is only what a called referee says. -/
structure Judged (digests : Digests) (halfA halfB : AdjudicationHalf) (options : AdjudicateOptions)
    (outcome : AdjudicationOutcome) : Prop where
  one : outcome.verdict = none ↔ outcome.noVerdictReason ≠ none
  verdict : ∀ v, outcome.verdict = some v →
    v = VERDICT_CORROBORATED ∨ v = VERDICT_INCONCLUSIVE ∨
      ∃ comparison result, Called digests halfA halfB options outcome comparison result ∧
        ¬Doubtful options result ∧ result.verdict = v
  blamed : ∀ owner, outcome.verdict = some (VERDICT_CONTRADICTED_PREFIX ++ owner) →
    ∃ comparison result, Called digests halfA halfB options outcome comparison result ∧
      result.verdict = VERDICT_CONTRADICTED_PREFIX ++ owner
  vocabulary : (∀ referee comparison result, options.referee = some referee →
      referee halfA halfB comparison = .ok result → InVocabulary halfA halfB result.verdict) →
    ∀ v, outcome.verdict = some v → InVocabulary halfA halfB v

/-- With the live referee the verdict stays in the vocabulary, and a half is blamed where the
token of the referee is the other half's. -/
structure LiveJudged (digests : Digests) (network : RefereeNetwork) (live : LiveRefereeOptions)
    (halfA halfB : AdjudicationHalf) (outcome : AdjudicationOutcome) : Prop where
  vocabulary : ∀ v, outcome.verdict = some v → InVocabulary halfA halfB v
  blamed : ∀ owner, outcome.verdict = some (VERDICT_CONTRADICTED_PREFIX ++ owner) →
    outcome.refereeIdentityId = some live.targetPeerId ∧
      ∃ comparison index responseBody, Diverge digests halfA halfB comparison index ∧
        askReferee network live halfA index = .ok responseBody ∧
        (owner = halfB.ownerId.pyStr ∧ TokenAgainst responseBody index halfA halfB ∨
          owner = halfA.ownerId.pyStr ∧ TokenAgainst responseBody index halfB halfA)

theorem contradicted_ne (owner : String) :
    VERDICT_CONTRADICTED_PREFIX ++ owner ≠ VERDICT_CORROBORATED ∧
      VERDICT_CONTRADICTED_PREFIX ++ owner ≠ VERDICT_INCONCLUSIVE := by
  have hthird : (VERDICT_CONTRADICTED_PREFIX ++ owner).toList[2]? = some 'n' := by
    rw [String.toList_append]
    rfl
  constructor
  · intro h
    rw [h] at hthird
    revert hthird
    decide
  · intro h
    rw [h] at hthird
    revert hthird
    decide

section

variable {digests : Digests} {verify : Json → Bool} {halfA halfB : AdjudicationHalf}
  {options : AdjudicateOptions} {outcome : AdjudicationOutcome}

theorem Ends.verdict (h : Ends digests halfA halfB options outcome) {v : String}
    (hv : outcome.verdict = some v) :
    v = VERDICT_CORROBORATED ∨ v = VERDICT_INCONCLUSIVE ∨
      ∃ comparison result, Called digests halfA halfB options outcome comparison result ∧
        ¬Doubtful options result ∧ result.verdict = v := by
  cases h with
  | reason reason hverdict hreason => cases hverdict.symm.trans hv
  | texts hverdict hreason =>
      rcases hverdict with hverdict | hverdict
      · exact .inl (Option.some.inj (hv.symm.trans hverdict))
      · exact .inr (.inl (Option.some.inj (hv.symm.trans hverdict)))
  | referee comparison result hcalled hverdict hreason =>
      rcases hverdict with ⟨-, hverdict⟩ | ⟨hsure, hverdict⟩
      · exact .inr (.inl (Option.some.inj (hv.symm.trans hverdict)))
      · exact .inr (.inr ⟨comparison, result, hcalled, hsure,
          Option.some.inj (hverdict.symm.trans hv)⟩)

theorem Ends.one (h : Ends digests halfA halfB options outcome) :
    outcome.verdict = none ↔ outcome.noVerdictReason ≠ none := by
  cases h with
  | reason reason hverdict hreason => simp [hverdict, hreason]
  | texts hverdict hreason => rcases hverdict with hverdict | hverdict <;> simp [hverdict, hreason]
  | referee comparison result hcalled hverdict hreason =>
      rcases hverdict with ⟨-, hverdict⟩ | ⟨-, hverdict⟩ <;> simp [hverdict, hreason]

theorem Ends.blamed (h : Ends digests halfA halfB options outcome) {owner : String}
    (hv : outcome.verdict = some (VERDICT_CONTRADICTED_PREFIX ++ owner)) :
    ∃ comparison result, Called digests halfA halfB options outcome comparison result ∧
      result.verdict = VERDICT_CONTRADICTED_PREFIX ++ owner := by
  rcases h.verdict hv with hcorroborated | hinconclusive | ⟨comparison, result, hcalled, -, hsaid⟩
  · exact absurd hcorroborated (contradicted_ne owner).1
  · exact absurd hinconclusive (contradicted_ne owner).2
  · exact ⟨comparison, result, hcalled, hsaid⟩

theorem Ends.vocabulary (h : Ends digests halfA halfB options outcome)
    (hreferee : ∀ referee comparison result, options.referee = some referee →
      referee halfA halfB comparison = .ok result → InVocabulary halfA halfB result.verdict)
    {v : String} (hv : outcome.verdict = some v) : InVocabulary halfA halfB v := by
  rcases h.verdict hv with hcorroborated | hinconclusive | ⟨comparison, result, hcalled, -, rfl⟩
  · exact .inl hcorroborated
  · exact .inr (.inl hinconclusive)
  · obtain ⟨referee, hsome, hanswer⟩ := hcalled.answered
    exact hreferee referee comparison result hsome hanswer

theorem Ends.live (h : Ends digests halfA halfB options outcome) {network : RefereeNetwork}
    {live : LiveRefereeOptions} (hlive : options.referee = some (liveReferee digests network live)) :
    LiveJudged digests network live halfA halfB outcome := by
  refine ⟨fun v hv => h.vocabulary ?_ hv, fun owner hv => ?_⟩
  · intro referee comparison result hreferee hanswer
    cases hlive.symm.trans hreferee
    obtain ⟨-, index, responseBody, -, -, hverdict⟩ := liveReferee_spec hanswer
    rcases hverdict with hinconclusive | ⟨howner, hblamed, -⟩ | ⟨howner, hblamed, -⟩
    · exact .inr (.inl hinconclusive)
    · exact .inr (.inr ⟨halfB, by simp, isNull_of_truthy howner, hblamed⟩)
    · exact .inr (.inr ⟨halfA, by simp, isNull_of_truthy howner, hblamed⟩)
  · obtain ⟨comparison, result, hcalled, hsaid⟩ := h.blamed hv
    obtain ⟨referee, hreferee, hanswer⟩ := hcalled.answered
    cases hlive.symm.trans hreferee
    obtain ⟨⟨capsuleId, hidentity⟩, index, responseBody, hindex, hasked, hverdict⟩ :=
      liveReferee_spec hanswer
    obtain ⟨identity, hnamed, hrecorded⟩ := hcalled.identity
    cases hidentity.symm.trans hnamed
    obtain ⟨index', hcompared, hindex'⟩ := hcalled.diverge
    cases hindex.symm.trans hindex'
    refine ⟨hrecorded, comparison, index, responseBody, ⟨hcompared, hindex⟩, hasked, ?_⟩
    rw [hsaid] at hverdict
    rcases hverdict with hinconclusive | ⟨-, hblamed, htoken⟩ | ⟨-, hblamed, htoken⟩
    · exact absurd hinconclusive (contradicted_ne owner).2
    · exact .inl ⟨String.append_right_inj _ |>.mp hblamed, htoken⟩
    · exact .inr ⟨String.append_right_inj _ |>.mp hblamed, htoken⟩

theorem adjudicate_judged (h : adjudicate digests verify halfA halfB options = .ok outcome) :
    Judged digests halfA halfB options outcome ∧
      ∀ network live, options.referee = some (liveReferee digests network live) →
        LiveJudged digests network live halfA halfB outcome := by
  have hends := adjudicate_ends h
  refine ⟨⟨hends.one, fun v hv => hends.verdict hv, fun owner hv => hends.blamed hv,
    fun hreferee v hv => hends.vocabulary hreferee hv⟩, fun network live hlive => hends.live hlive⟩

end

/-! ## A referee that blames somebody else -/

/-- A referee that says this verdict, whatever it is asked. -/
def sayingReferee (verdict : String) : Referee := fun _ _ _ =>
  .ok ⟨verdict, 0, true, none, .unresolved, none, some ⟨"node", none, none⟩⟩

def sayingOptions (verdict : String) : AdjudicateOptions where
  referee := some (sayingReferee verdict)

/-- A node that answers with the token of one half. -/
def tokenAnswer : Json :=
  .obj [("choices", .arr [.obj [("message", .obj [("content", .str "no")])]])]

def tokenNetwork : RefereeNetwork where
  post _ := .ok (utf8 tokenAnswer.dumps)
  door _ _ := .error .osError
  decodeJson := decodeUtf8
  beyondLimit _ := none
  floatRepr := id
  difference _ _ := .ok 0

def tokenOptions : LiveRefereeOptions where
  localApiBaseUrl := "http://127.0.0.1:8080"
  targetPeerId := "carol"
  model := "m"
  nonce := "x"

def tokenReferee : Referee := liveReferee canonicalDigests tokenNetwork tokenOptions

theorem tokenNetwork_loads : tokenNetwork.loads (utf8 tokenAnswer.dumps) = .ok tokenAnswer := by
  have hproper : tokenAnswer.Proper id := by simp [tokenAnswer]
  have hread : loads tokenNetwork.floatRepr tokenAnswer.dumps = .ok tokenAnswer := loads_dumps hproper
  have hdecode : tokenNetwork.decodeJson (utf8 tokenAnswer.dumps) = .ok tokenAnswer.dumps :=
    decodeUtf8_utf8 _
  rw [RefereeNetwork.loads, hdecode, Py.ok_bind, hread]
  rfl

theorem tokenReferee_answers {comparison : ComparisonResult}
    (hindex : comparison.divergenceIndex = some 0) :
    tokenReferee annHalf bobHalf comparison =
      .ok ⟨"contradicted:ann", 0, true, none, .unresolved, some "x", some ⟨"carol", none, none⟩⟩ := by
  have hask : askReferee tokenNetwork tokenOptions annHalf 0 =
      tokenNetwork.loads (utf8 tokenAnswer.dumps) := rfl
  rw [tokenReferee, liveReferee, hindex]
  simp only
  rw [hask, tokenNetwork_loads]
  rfl

/-- The live referee says what the second half says, and the owner of the first is blamed. -/
theorem adjudicate_judged_bob : ∃ outcome,
    adjudicate canonicalDigests (fun _ => true) annHalf bobHalf { referee := some tokenReferee } =
        .ok outcome ∧
      outcome.verdict = some "contradicted:ann" ∧
      Judged canonicalDigests annHalf bobHalf { referee := some tokenReferee } outcome ∧
      LiveJudged canonicalDigests tokenNetwork tokenOptions annHalf bobHalf outcome := by
  have hreturns : ∃ outcome, adjudicate canonicalDigests (fun _ => true) annHalf bobHalf
      { referee := some tokenReferee } = .ok outcome ∧
        outcome.verdict = some "contradicted:ann" := by
    have hanswers := @tokenReferee_answers ⟨some 0, ((0 : ℕ) : ℚ) / ((1 : ℕ) : ℚ), 1, 1, none⟩ rfl
    generalize tokenReferee = referee at hanswers ⊢
    -- the referee is called once, with these halves and this comparison
    have hcalled : ∀ answer, referee annHalf bobHalf
        ⟨some 0, ((0 : ℕ) : ℚ) / ((1 : ℕ) : ℚ), 1, 1, none⟩ = answer →
        adjudicate canonicalDigests (fun _ => true) annHalf bobHalf { referee := some referee } =
          adjudicate canonicalDigests (fun _ => true) annHalf bobHalf
            { referee := some fun _ _ _ => answer } := by
      rintro _ rfl
      rfl
    rw [hcalled _ hanswers]
    exact ⟨_, rfl, rfl⟩
  obtain ⟨outcome, hreturns, hverdict⟩ := hreturns
  obtain ⟨hjudged, hlive⟩ := adjudicate_judged hreturns
  exact ⟨outcome, hreturns, hverdict, hjudged, hlive tokenNetwork tokenOptions rfl⟩

/-- The owner of neither half is blamed. -/
theorem stranger_blamed : ∃ outcome,
    adjudicate canonicalDigests (fun _ => true) annHalf bobHalf
        (sayingOptions "contradicted:carol") = .ok outcome ∧
      outcome.verdict = some "contradicted:carol" ∧
      ¬InVocabulary annHalf bobHalf "contradicted:carol" := by
  refine ⟨_, rfl, rfl, ?_⟩
  rintro (h | h | ⟨half, hhalf, -, h⟩)
  · revert h
    decide
  · revert h
    decide
  · rcases List.mem_pair.mp hhalf with rfl | rfl
    · revert h
      decide
    · revert h
      decide

end CapsuleMesh.Adjudication
