import CapsuleMesh.Sidecar.Threads

/-!
# The hash chain under concurrent requests

Reading the head and publishing a new one are separate steps of different
functions.  The ledger is a single chain exactly as long as every append finds
the head that its thread read still in place, with no other record appended and
not yet published.
-/

namespace CapsuleMesh.Sidecar

open Python Sequence Library

/-- Every record after the startup records names the record right before it. -/
def Links (startup ledger : List Json) : Prop :=
  ∀ before capsule after, ledger = before ++ capsule :: after →
    startup.length ≤ before.length →
    parentOf capsule = before.getLast?.bind capsuleIdOf

/-- A single hash chain: each serving capsule's parent is the record appended right
before it, and no two records share a parent. -/
def SingleChain (startup ledger : List Json) : Prop :=
  Links startup ledger ∧ (ledger.filterMap parentOf).Nodup

theorem Links.of_append {startup ledger tail : List Json} (h : Links startup (ledger ++ tail)) :
    Links startup ledger := by
  intro before capsule after heq hlen
  exact h before capsule (after ++ tail) (by simp [heq]) hlen

theorem links_concat {startup ledger : List Json} {capsule : Json}
    (hlen : startup.length ≤ ledger.length) :
    Links startup (ledger ++ [capsule]) ↔
      Links startup ledger ∧ parentOf capsule = ledger.getLast?.bind capsuleIdOf := by
  constructor
  · intro h
    exact ⟨h.of_append, h ledger capsule [] rfl hlen⟩
  · rintro ⟨h, hparent⟩ before capsule' after heq hlen'
    rcases List.eq_nil_or_concat after with rfl | ⟨after', last, rfl⟩
    · obtain ⟨rfl, hcapsule⟩ := List.append_inj' heq rfl
      obtain rfl := (List.cons.inj hcapsule).1
      exact hparent
    · rw [List.concat_eq_append, ← List.cons_append, ← List.append_assoc] at heq
      exact h before capsule' after' (List.append_inj' heq rfl).1 hlen'

theorem links_self (startup : List Json) : Links startup startup := by
  intro before capsule after heq hlen
  have hlength := congrArg List.length heq
  rw [List.length_append, List.length_cons] at hlength
  omega

/-- Records before the startup records change no link, where there are startup records. -/
theorem links_prior_iff {prior startup served : List Json} (hstarted : prior ≠ [] → startup ≠ []) :
    Links (prior ++ startup) (prior ++ (startup ++ served)) ↔ Links startup (startup ++ served) := by
  induction served using List.reverseRecOn with
  | nil =>
      rw [List.append_nil]
      exact iff_of_true (links_self _) (links_self _)
  | append_singleton served capsule ih =>
      have hlast : (prior ++ (startup ++ served)).getLast? = (startup ++ served).getLast? := by
        rcases eq_or_ne prior [] with rfl | hprior
        · rfl
        · exact List.getLast?_append_of_ne_nil _
            (List.append_ne_nil_of_left_ne_nil (hstarted hprior) _)
      rw [← List.append_assoc startup, ← List.append_assoc prior, links_concat (by simp),
        links_concat (by simp), ih, hlast]

/-- In a linked ledger a record appended by this process is named as a parent only when it has a
successor. -/
theorem Links.parents_subset {startup served : List Json} (h : Links startup (startup ++ served)) :
    ∀ id ∈ (startup ++ served).filterMap parentOf, id ∈ startup.filterMap parentOf ∨
      some id ∈ (startup ++ served).dropLast.map capsuleIdOf := by
  induction served using List.reverseRecOn with
  | nil =>
      intro id hid
      rw [List.append_nil] at hid
      exact .inl hid
  | append_singleton served capsule ih =>
      rw [← List.append_assoc] at h ⊢
      obtain ⟨hlinks, hparent⟩ := (links_concat (by simp)).mp h
      intro id hid
      rw [List.filterMap_append, List.mem_append] at hid
      rw [List.dropLast_concat]
      rcases hid with hid | hid
      · refine (ih hlinks id hid).imp_right fun hmem => ?_
        exact List.map_subset _ (List.dropLast_subset _) hmem
      · right
        have hid' : parentOf capsule = some id := by simpa using hid
        rw [hparent] at hid'
        obtain ⟨last, hlast, hlid⟩ := Option.bind_eq_some_iff.mp hid'
        exact List.mem_map.mpr ⟨last, List.mem_of_getLast? hlast, hlid⟩

/-- What the ledger at startup names as parents: neither its last record nor any record that is
sealed later. -/
structure Unnamed (startup served : List Json) : Prop where
  last : ∀ capsule ∈ startup.getLast?, ∀ id ∈ startup.filterMap parentOf,
    capsuleIdOf capsule ≠ some id
  served : ∀ capsule ∈ served, ∀ id ∈ startup.filterMap parentOf, capsuleIdOf capsule ≠ some id

theorem Unnamed.getLast {startup served : List Json} (h : Unnamed startup served) {capsule : Json}
    (hlast : (startup ++ served).getLast? = some capsule) :
    ∀ id ∈ startup.filterMap parentOf, capsuleIdOf capsule ≠ some id := by
  rcases List.eq_nil_or_concat served with rfl | ⟨served, last, rfl⟩
  · rw [List.append_nil] at hlast
    exact h.last capsule hlast
  · rw [List.concat_eq_append, ← List.append_assoc, List.getLast?_concat] at hlast
    obtain rfl := Option.some.inj hlast
    exact h.served last (by simp)

theorem Links.parents_nodup {startup served : List Json}
    (hstartup : (startup.filterMap parentOf).Nodup) (hunnamed : Unnamed startup served)
    (hnodup : ((startup ++ served).map capsuleIdOf).Nodup)
    (h : Links startup (startup ++ served)) :
    ((startup ++ served).filterMap parentOf).Nodup := by
  induction served using List.reverseRecOn with
  | nil => rwa [List.append_nil]
  | append_singleton served capsule ih =>
      rw [← List.append_assoc] at h hnodup ⊢
      obtain ⟨hlinks, hparent⟩ := (links_concat (by simp)).mp h
      rw [List.map_append] at hnodup
      have hids := hnodup.of_append_left
      have hbefore : Unnamed startup served :=
        ⟨hunnamed.last, fun c hc => hunnamed.served c (List.mem_append_left _ hc)⟩
      have hrest := ih hbefore hids hlinks
      cases hp : parentOf capsule with
      | none => simpa [hp] using hrest
      | some id =>
        have hsingle : [capsule].filterMap parentOf = [id] := by simp [hp]
        rw [List.filterMap_append, hsingle, ← List.concat_eq_append]
        refine hrest.concat ?_
        intro hmem
        -- the parent is the last id, and the last record is nobody's parent yet
        rw [hp] at hparent
        obtain ⟨last, hlast, hlid⟩ := Option.bind_eq_some_iff.mp hparent.symm
        rcases hlinks.parents_subset id hmem with hold | hsub
        · exact hbefore.getLast hlast id hold hlid
        · obtain ⟨init, hinit⟩ := List.getLast?_eq_some_iff.mp hlast
          rw [hinit, List.dropLast_concat] at hsub
          rw [hinit, List.map_append, List.map_singleton, ← List.concat_eq_append,
            List.nodup_concat, hlid] at hids
          exact hids.1 hsub

namespace Deployment

/-- If thread `i.1` is about to append, the head it read is still the head and
every appended record has been published. -/
def HeadFree (s : Sys) (i : ℕ × Bool) : Prop :=
  ∀ number prior capsule, s.phase i.1 = .built number prior capsule → i.2 = true →
    prior = s.lastCapsuleId ∧ ∀ u, (s.phase u).unpublished = none

/-- The head names the last record unless that record waits to be published, and
then nobody can have read its id yet. -/
structure HeadInv (s : Sys) : Prop where
  published : (∀ u, (s.phase u).unpublished = none) →
    s.lastCapsuleId = s.ledger.getLast?.bind capsuleIdOf
  waiting : ∀ {u capsule}, (s.phase u).unpublished = some capsule →
    s.ledger.getLast? = some capsule ∧ s.lastCapsuleId ≠ capsuleIdOf capsule ∧
      ∀ t prior, (s.phase t).head = some prior → prior ≠ capsuleIdOf capsule
  last : s.lastCapsuleId = none ∨ s.lastCapsuleId ∈ s.ledger.map capsuleIdOf
  heads : ∀ {t prior}, (s.phase t).head = some prior →
    prior = none ∨ prior ∈ s.ledger.map capsuleIdOf

theorem headInv_boot (d : Deployment) : HeadInv d.boot where
  published _ := rfl
  waiting h := by simp [boot, Phase.unpublished] at h
  last := by
    cases hlast : d.startup.getLast? with
    | none => simp [boot, hlast]
    | some capsule =>
        right
        simp only [boot, hlast, Option.bind_some]
        exact List.mem_map.mpr ⟨capsule, List.mem_of_getLast? hlast, rfl⟩
  heads h := by simp [boot, Phase.head] at h

/-- A move of thread `t` that leaves the ledger and the head alone, gives it no
record to publish and no head other than the current one. -/
theorem HeadInv.of_quiet {s s' : Sys} (h : HeadInv s) {t : ℕ} {p : Phase}
    (hledger : s'.ledger = s.ledger) (hlast : s'.lastCapsuleId = s.lastCapsuleId)
    (hphase : s'.phase = Function.update s.phase t p)
    (hun : p.unpublished = (s.phase t).unpublished)
    (hhead : ∀ prior, p.head = some prior →
      (s.phase t).head = some prior ∨ prior = s.lastCapsuleId) : HeadInv s' := by
  have hun' : ∀ u, (s'.phase u).unpublished = (s.phase u).unpublished := by
    intro u
    by_cases hu : u = t
    · subst hu
      simp [hphase, hun]
    · simp [hphase, hu]
  have hhead' : ∀ u prior, (s'.phase u).head = some prior →
      (s.phase u).head = some prior ∨ prior = s.lastCapsuleId := by
    intro u prior hu
    by_cases hut : u = t
    · subst hut
      exact hhead prior (by simpa [hphase] using hu)
    · exact .inl (by simpa [hphase, hut] using hu)
  refine ⟨?_, ?_, by rw [hlast, hledger]; exact h.last, ?_⟩
  · intro hall
    rw [hlast, hledger]
    exact h.published fun u => hun' u ▸ hall u
  · intro u capsule hu
    obtain ⟨hgl, hne, hheads⟩ := h.waiting (hun' u ▸ hu)
    rw [hlast, hledger]
    refine ⟨hgl, hne, ?_⟩
    intro v prior hv
    rcases hhead' v prior hv with hv | rfl
    · exact hheads v prior hv
    · exact hne
  · intro u prior hu
    rw [hledger]
    rcases hhead' u prior hu with hu | rfl
    · exact h.heads hu
    · exact h.last

theorem HeadInv.step {d : Deployment} {s : Sys} (hwf : d.Wf s) (h : HeadInv s)
    {i : ℕ × Bool} (hfree : HeadFree s i) : HeadInv (d.step s i) := by
  obtain ⟨t, ok⟩ := i
  have hstep := d.step_spec s t ok
  generalize d.step s (t, ok) = s' at hstep
  cases hstep with
  | idle => exact h
  | take hphase =>
      refine h.of_quiet rfl rfl rfl ?_ ?_ <;> cases ok <;>
        simp [hphase, Phase.unpublished, Phase.head]
  | readHead hphase =>
      refine h.of_quiet rfl rfl rfl (by simp [hphase, Phase.unpublished]) ?_
      exact fun prior hprior => .inr (Option.some.inj hprior).symm
  | build hphase hemit =>
      refine h.of_quiet rfl rfl rfl (by simp [hphase, Phase.unpublished]) ?_
      exact fun prior hprior => .inl (by simpa [hphase, Phase.head] using hprior)
  | fail hphase =>
      refine h.of_quiet rfl rfl rfl ?_ (by simp [Phase.head])
      rcases hphase with hphase | ⟨_, hphase, _⟩ <;> simp [hphase, Phase.unpublished]
  | strand hphase =>
      exact h.of_quiet rfl rfl rfl (by simp [hphase, Phase.unpublished]) (by simp [Phase.head])
  | @append number prior capsule hphase =>
      obtain ⟨hprior, hall⟩ := hfree number prior capsule hphase rfl
      have hfresh := hwf.fresh hphase
      obtain ⟨id, hid⟩ := (hwf.built hphase).capsuleId
      have hunknown : ∀ o : Option String, o = none ∨ o ∈ s.ledger.map capsuleIdOf →
          o ≠ capsuleIdOf capsule := by
        rintro o (rfl | ho) heq
        · simp [hid] at heq
        · exact hfresh (heq ▸ ho)
      have hgrow : ∀ o : Option String, o = none ∨ o ∈ s.ledger.map capsuleIdOf →
          o = none ∨ o ∈ (s.ledger ++ [capsule]).map capsuleIdOf := by
        rintro o (rfl | ho)
        · exact .inl rfl
        · exact .inr (by simp only [List.map_append, List.mem_append]; exact .inl ho)
      have hheads : ∀ u o, (Function.update s.phase t (.appended number capsule) u).head =
          some o → o = none ∨ o ∈ s.ledger.map capsuleIdOf := by
        intro u o hu
        by_cases hut : u = t
        · subst hut
          simp [Phase.head] at hu
        · rw [Function.update_of_ne hut] at hu
          exact h.heads hu
      refine ⟨?_, ?_, hgrow _ h.last, fun hu => hgrow _ (hheads _ _ hu)⟩
      · intro hnone
        simpa [Phase.unpublished] using hnone t
      · intro u capsule' hu
        by_cases hut : u = t
        · subst hut
          have hcapsule : capsule' = capsule := by simpa [Phase.unpublished] using hu.symm
          subst hcapsule
          exact ⟨by simp, hunknown _ h.last, fun v o hv => hunknown _ (hheads v o hv)⟩
        · simp only [Sys.setPhase_phase, Function.update_of_ne hut, hall u] at hu
          cases hu
  | @publish number capsule hphase =>
      have hwait : (s.phase t).unpublished = some capsule := by rw [hphase]; rfl
      obtain ⟨hgl, -, -⟩ := h.waiting hwait
      have hmem : capsuleIdOf capsule ∈ s.ledger.map capsuleIdOf :=
        List.mem_map.mpr ⟨capsule, List.mem_of_getLast? hgl, rfl⟩
      refine ⟨?_, ?_, .inr hmem, ?_⟩
      · intro _
        simp [hgl]
      · -- only one record can be waiting: both would be the last one
        intro u capsule' hu
        by_cases hut : u = t
        · subst hut
          simp [Phase.unpublished] at hu
        · simp only [Sys.setPhase_phase, Function.update_of_ne hut] at hu
          obtain ⟨hgl', -, -⟩ := h.waiting hu
          obtain ⟨_, _, hs⟩ := hwf.unpublished hwait
          obtain ⟨_, _, hs'⟩ := hwf.unpublished hu
          have heq : capsule' = capsule := Option.some.inj (hgl'.symm.trans hgl)
          exact absurd (hs'.thread_eq hs (by rw [heq])) hut
      · intro u prior hu
        by_cases hut : u = t
        · subst hut
          simp [Phase.head] at hu
        · exact h.heads (t := u) (by simpa [hut] using hu)

/-- An append extends the chain exactly when the head was free. -/
theorem links_step_iff {d : Deployment} {s : Sys} (hwf : d.Wf s) (hhead : HeadInv s)
    (hlinks : Links d.startup s.ledger) (i : ℕ × Bool) :
    Links d.startup (d.step s i).ledger ↔ HeadFree s i := by
  obtain ⟨t, ok⟩ := i
  by_cases happend : ∃ number prior capsule, s.phase t = .built number prior capsule ∧ ok = true
  · obtain ⟨number, prior, capsule, hphase, rfl⟩ := happend
    have hlen : d.startup.length ≤ s.ledger.length := by
      obtain ⟨served, hserved, -⟩ := hwf.ledger
      simp [hserved]
    rw [ledger_step_append hphase, links_concat hlen, (hwf.built hphase).parent]
    constructor
    · rintro ⟨-, hprior⟩ number' prior' capsule' hphase' -
      obtain ⟨-, rfl, -⟩ := Phase.built.inj (hphase'.symm.trans hphase)
      have hnone : ∀ u, (s.phase u).unpublished = none := by
        intro u
        rw [Option.eq_none_iff_forall_ne_some]
        intro waiting hu
        obtain ⟨hgl, -, hheads⟩ := hhead.waiting hu
        exact hheads t prior' (by simp [hphase, Phase.head]) (by simpa [hgl] using hprior)
      exact ⟨hprior.trans (hhead.published hnone).symm, hnone⟩
    · intro hfree
      obtain ⟨hprior, hnone⟩ := hfree number prior capsule hphase rfl
      exact ⟨hlinks, hprior.trans (hhead.published hnone)⟩
  · rw [ledger_step_of_not_append happend]
    refine iff_of_true hlinks ?_
    intro number prior capsule hphase hok
    exact absurd ⟨number, prior, capsule, hphase, hok⟩ happend

/-- The ledger that a process finds at startup, with what its startup adds: no two ids are the same,
and a record is sealed before anything names it. -/
structure Found (d : Deployment) (prior : List Json) : Prop where
  started : prior ≠ [] → d.startup ≠ []
  ids : ((prior ++ d.startup).map capsuleIdOf).Nodup
  fresh : ∀ capsule ∈ prior, ∀ {t number parent served}, d.SealedBy t number parent served →
    capsuleIdOf served ≠ capsuleIdOf capsule
  last : ∀ capsule ∈ (prior ++ d.startup).getLast?, ∀ id ∈ (prior ++ d.startup).filterMap parentOf,
    capsuleIdOf capsule ≠ some id
  unnamed : ∀ id ∈ (prior ++ d.startup).filterMap parentOf, ∀ {t number parent served},
    d.SealedBy t number parent served → capsuleIdOf served ≠ some id

/-- The whole ledger is one chain when the records found at startup name different parents and
the records of this process are linked. -/
theorem singleChain_iff_links {d : Deployment} {s : Sys} (hwf : d.Wf s) {prior : List Json}
    (hfound : d.Found prior) :
    SingleChain (prior ++ d.startup) (prior ++ s.ledger) ↔
      ((prior ++ d.startup).filterMap parentOf).Nodup ∧ Links d.startup s.ledger := by
  obtain ⟨served, hledger, hserved⟩ := hwf.ledger
  have hnodup := hwf.nodup
  rw [hledger] at hnodup ⊢
  rw [SingleChain, links_prior_iff hfound.started, and_comm, and_congr_left_iff]
  intro hlinks
  rw [← List.append_assoc]
  constructor
  · intro h
    rw [List.filterMap_append] at h
    exact h.of_append_left
  · intro hstartup
    have hunnamed : Unnamed (prior ++ d.startup) served := by
      refine ⟨hfound.last, fun capsule hcapsule id hid => ?_⟩
      obtain ⟨t, number, parent, -, hsealed⟩ := hserved capsule hcapsule
      exact hfound.unnamed id hid hsealed
    have hids : ((prior ++ d.startup ++ served).map capsuleIdOf).Nodup := by
      rw [List.map_append, List.nodup_append]
      refine ⟨hfound.ids, ?_, ?_⟩
      · rw [List.map_append] at hnodup
        exact hnodup.of_append_right
      · intro id hid id' hid' heq
        obtain ⟨capsule, hcapsule, rfl⟩ := List.mem_map.mp hid
        obtain ⟨capsule', hcapsule', rfl⟩ := List.mem_map.mp hid'
        obtain ⟨t, number, parent, -, hsealed⟩ := hserved capsule' hcapsule'
        rcases List.mem_append.mp hcapsule with hprior | hstart
        · exact hfound.fresh capsule hprior hsealed heq.symm
        · exact hsealed.not_startup hstart heq.symm
    refine Links.parents_nodup hstartup hunnamed hids ?_
    rw [List.append_assoc]
    exact (links_prior_iff hfound.started).mpr hlinks

theorem ledger_prefix_step (d : Deployment) (s : Sys) (i : ℕ × Bool) :
    ∃ tail, (d.step s i).ledger = s.ledger ++ tail := by
  obtain ⟨t, ok⟩ := i
  have hstep := d.step_spec s t ok
  generalize d.step s (t, ok) = s' at hstep
  cases hstep with
  | append hphase => exact ⟨_, rfl⟩
  | _ => exact ⟨[], by simp⟩

/-- Whatever the interleaving, the ledger is a single hash chain exactly when the records that
it starts from name different parents and every append was made with the head free. -/
theorem singleChain_run_iff (d : Deployment) {prior : List Json} (hfound : d.Found prior)
    (schedule : List (ℕ × Bool)) :
    SingleChain (prior ++ d.startup) (prior ++ (d.run schedule).ledger) ↔
      ((prior ++ d.startup).filterMap parentOf).Nodup ∧ Along d.step HeadFree d.boot schedule := by
  rw [singleChain_iff_links (d.wf_run schedule) hfound]
  apply and_congr_right
  intro _
  refine good_run_iff d.Wf HeadInv (fun s => Links d.startup s.ledger) (fun s i h => h.step i)
    (fun s i hwf h _ hfree => h.step hwf hfree) ?_
    (fun s i hwf h hlinks => links_step_iff hwf h hlinks i) d.wf_boot d.headInv_boot
    (links_self d.startup) schedule
  intro s i _ h
  obtain ⟨tail, htail⟩ := d.ledger_prefix_step s i
  exact Links.of_append (htail ▸ h)

end Deployment

/-! ## A sidecar that starts, and starts again -/

/-- The call that seals the join card of the node. -/
def cardArgs (uuid : String) (priorCard : Option String) : EmitArgs where
  actionId := "mesh-poc/card/node/" ++ uuid
  actionType := "fyi"
  operator := "operator"
  developer := "developer"
  modelId := none
  provider := "mesh-llm"
  computeAttestation := .obj []
  effect := .null
  disposition := .null
  priorCapsuleId := priorCard
  chainRelation := priorCard.map fun _ => "supersedes"
  domain := "action"
  provenance := "collector"

/-- A record of the node that names this parent. -/
def plainRecord (actionId : String) (parent : Option String) : Json :=
  .obj [("capsule_id", .str ("id:" ++ actionId)),
    ("chain", .obj [("parent_capsule_id", .ofStr? parent)])]

def cardId (uuid : String) : String := "id:mesh-poc/card/node/" ++ uuid

theorem servingActionId_ne_card (t : ℕ) (uuid : String) :
    "mesh-poc/card/node/" ++ uuid ≠
      servingActionId plainDeployment.cfg (plainDeployment.requests t).uuid := by
  intro h
  -- the texts part at the name of the record's kind
  have hkind := congrArg (fun text => text.toList[9]?) h
  simp [servingActionId, plainDeployment, plainConfig] at hkind

/-- A sidecar that has sealed its join card, on a card of an earlier run or on none. -/
def cardDeployment (uuid : String) (priorCard : Option String) : Deployment :=
  { plainDeployment with
    startupArgs := [cardArgs uuid priorCard]
    startup := [(plainEmit (cardArgs uuid priorCard)).toOption.getD .null]
    startup_sealed := .cons rfl .nil
    startup_poc := by
      intro args hargs
      rw [List.mem_singleton.mp hargs]
      exact ⟨[], rfl, rfl⟩
    startup_nodup := List.nodup_singleton _
    startup_serving := by
      intro args hargs t
      rw [List.mem_singleton.mp hargs]
      exact servingActionId_ne_card t uuid }

namespace Deployment

theorem SealedBy.id_ne_card {uuid : String} {priorCard : Option String} {t : ℕ}
    {number : Int × Option Int} {parent : Option String} {served : Json}
    (h : (cardDeployment uuid priorCard).SealedBy t number parent served) (other : String) :
    capsuleIdOf served ≠ some (cardId other) := by
  intro hid
  obtain ⟨head, h⟩ := h
  obtain ⟨ea, hea, haction, -⟩ := emitServing_ok h
  have hcard : plainEmit (cardArgs other none) =
      .ok ((plainEmit (cardArgs other none)).toOption.getD .null) := rfl
  have hsame := plainEmit_contract.actionId hea hcard hid
  exact servingActionId_ne_card t other (hsame.symm.trans haction)

/-- A request that is handled alone finds the head free, and leaves nothing to publish. -/
theorem along_alone (d : Deployment) {s : Sys} {t : ℕ} (hready : s.phase t = .ready)
    (hall : ∀ u, (s.phase u).unpublished = none) :
    Along d.step HeadFree s (List.replicate 5 (t, true)) ∧
      ∀ u, (((List.replicate 5 (t, true)).foldl d.step s).phase u).unpublished = none := by
  have hkeeps : ∀ {p : Phase}, p.unpublished = none →
      ∀ u, (Function.update s.phase t p u).unpublished = none := by
    intro p hp u
    by_cases hu : u = t
    · rw [hu, Function.update_self, hp]
    · rw [Function.update_of_ne hu, hall]
  have hquiet : ∀ {s' : Sys}, (∀ number prior capsule, s'.phase t ≠ .built number prior capsule) →
      HeadFree s' (t, true) := by
    intro s' hphase number prior capsule h
    exact absurd h (hphase _ _ _)
  simp only [List.replicate, Along, List.foldl_cons, List.foldl_nil]
  cases hemit : emitServing d.emit d.digests d.cfg (d.requests t)
      (takeNumber d.cfg (d.requests t) s.counters).1 s.lastCapsuleId s.lastCapsuleId with
  | error e => simpa [step, hready, hemit, hquiet] using hkeeps rfl
  | ok capsule =>
    have hbuilt : ∀ {s' : Sys} {number}, s'.phase t = .built number s'.lastCapsuleId capsule →
        (∀ u, (s'.phase u).unpublished = none) → HeadFree s' (t, true) := by
      intro s' number hphase hnone number' prior capsule' h _
      obtain ⟨-, rfl, -⟩ := Phase.built.inj (hphase.symm.trans h)
      exact ⟨rfl, hnone⟩
    simp only [step, hready, hemit, Sys.setPhase_phase, Function.update_self,
      Sys.setPhase_lastCapsuleId, if_true]
    refine ⟨⟨?_, ?_, ?_, ?_, ?_, trivial⟩, ?_⟩
    · exact hquiet (by simp [hready])
    · exact hquiet (by simp)
    · exact hquiet (by simp)
    · refine @hbuilt _ (takeNumber d.cfg (d.requests t) s.counters).1 (by simp) ?_
      simpa using hkeeps rfl
    · exact hquiet (by simp)
    · simpa using hkeeps rfl

/-- One request after the other keeps the chain, also behind the card of an earlier run. -/
theorem restarted_chain :
    let d := cardDeployment "b" (some (cardId "a"))
    let prior := [plainRecord "mesh-poc/card/node/a" none]
    let schedule := List.replicate 5 (0, true) ++ List.replicate 5 (1, true)
    d.Found prior ∧ (d.run schedule).ledger.length = 3 ∧
      SingleChain (prior ++ d.startup) (prior ++ (d.run schedule).ledger) := by
  intro d prior schedule
  have hparents : (prior ++ d.startup).filterMap parentOf = [cardId "a"] := rfl
  have hfound : d.Found prior :=
    { started := fun _ => List.cons_ne_nil _ _
      ids := by decide
      fresh := by
        intro capsule hcapsule t number parent served h
        rw [List.mem_singleton.mp hcapsule]
        exact h.id_ne_card "a"
      last := by
        intro capsule hcapsule id hid
        rw [hparents, List.mem_singleton] at hid
        obtain rfl := Option.some.inj hcapsule
        rw [hid]
        decide
      unnamed := by
        intro id hid t number parent served h
        rw [hparents, List.mem_singleton] at hid
        rw [hid]
        exact h.id_ne_card "a" }
  refine ⟨hfound, rfl, (singleChain_run_iff d hfound schedule).mpr ⟨?_, ?_⟩⟩
  · rw [hparents]
    exact List.nodup_singleton _
  · have hboot : ∀ u, (d.boot.phase u).unpublished = none := fun _ => rfl
    obtain ⟨hfirst, hnone⟩ := along_alone d (t := 0) rfl hboot
    exact (along_append _ _ _).mpr ⟨hfirst, (along_alone d (t := 1) rfl hnone).1⟩

/-- Two requests that both read the head before either of them appends. -/
def overlappingReads : List (ℕ × Bool) :=
  [(0, true), (0, true), (1, true), (1, true), (0, true), (1, true), (0, true), (0, true),
    (1, true), (1, true)]

/-- Both records of the overlapping requests name the join card; and behind a run that served,
the new join card names the parent of that run's first record. -/
theorem overlapping_reads_fork :
    let first := cardDeployment "a" none
    let d := cardDeployment "b" (some (cardId "a"))
    let prior := [plainRecord "mesh-poc/card/node/a" none,
      plainRecord "mesh-poc/node/r" (some (cardId "a"))]
    ¬SingleChain first.startup (first.run overlappingReads).ledger ∧
      ∀ schedule, ¬SingleChain (prior ++ d.startup) (prior ++ (d.run schedule).ledger) := by
  intro first d prior
  constructor
  · intro hchain
    have hparent := hchain.1 [_, _] _ [] rfl (by decide)
    revert hparent
    decide
  · rintro schedule ⟨-, hparents⟩
    obtain ⟨served, hledger, -⟩ := (d.wf_run schedule).ledger
    rw [hledger, ← List.append_assoc, List.filterMap_append] at hparents
    have hsame : (prior ++ d.startup).filterMap parentOf = [cardId "a", cardId "a"] := rfl
    have hnodup := hparents.of_append_left
    rw [hsame] at hnodup
    exact List.not_nodup_pair _ hnodup

end Deployment

end CapsuleMesh.Sidecar
