import CapsuleMesh.Checkpoint.Chain

/-!
# Checkpoints that cannot be written

`_checkpoint_now` notes the services that still owe a witness before it writes the line.  When the
write raises, the checkpoint before stays the last one, but with the list of the one that was
given up, and a retry may ask for a witness that is already there.
-/

namespace CapsuleMesh.Checkpoint

open Python Library
open History (CheckpointLine Witness)

/-! ## A write that raises -/

/-- What a failed write of `checkpoints.jsonl` raises, and whether the line got into the file. -/
structure WriteFault where
  error : PyError
  landed : Bool
deriving DecidableEq

/-- `_checkpoint_now` with a write that may raise. -/
def attemptCheckpoint (T : Toolkit) (around : Surroundings) (fault : Option WriteFault)
    (node : Node) : Py (Option CheckpointLine) × Node :=
  let s := node.state
  match T.emitCheckpoint s.leaves s.lastCheckpoint around.timestamp with
  | .error e => (.error e, node)
  | .ok cp =>
      let cose := T.checkpointToCose cp s.leaves s.lastCheckpoint
      let (cp', pending) := registerWith around cose cp T.tsUrls
      match pending with
      | .error e => (.error e, node)
      | .ok urls =>
        let written := persistCheckpoint node.checkpoints cp' cose
        match fault with
        | some fault =>
          (.error fault.error,
           { node with
             checkpoints := if fault.landed then written else node.checkpoints
             state := { s with pendingTsUrls := urls } })
        | none =>
          (.ok (some cp'),
           { node with
             checkpoints := written
             state :=
              { s with
                lastCheckpoint := some cp'
                lastCheckpointCose := cose
                entriesSinceCheckpoint := 0
                pendingSince := none
                pendingTsUrls := urls } })

/-! ## Runs with failing writes -/

/-- What an operation comes to: nothing more, a checkpoint or a retry. -/
inductive Plan where
  | rest (node : Node)
  | checkpoint (node : Node)
  | retry (node : Node)

def Plan.run (T : Toolkit) (around : Surroundings) (fault : Option WriteFault) : Plan → Node
  | .rest node => node
  | .checkpoint node => (attemptCheckpoint T around fault node).2
  | .retry node => (Checkpoint.retry around node).2

/-- The node that a plan goes on with. -/
def Plan.node : Plan → Node
  | .rest node => node
  | .checkpoint node => node
  | .retry node => node

def planFollowing (T : Toolkit) (around : Surroundings) (node : Node) (plan : Node → Plan) : Plan :=
  match followLedger T around node with
  | .error _ => .rest node
  | .ok node => plan node

def planReconnect (T : Toolkit) (node : Node) : Plan :=
  if node.state.leaves.length = 0 then .rest node
  else
    match node.state.lastCheckpoint with
    | none => .checkpoint node
    | some cp =>
        match T.leafCount cp.mmrSize with
        | .error _ => .rest node
        | .ok lastLeaves =>
          if node.state.leaves.length ≤ lastLeaves then .retry node else .checkpoint node

def planOf (T : Toolkit) (around : Surroundings) (node : Node) : Event → Plan
  | .append capsuleId => .rest { node with ledger := ⟨node.ledger.records ++ [capsuleId], false⟩ }
  | .tear => .rest { node with ledger := { node.ledger with torn := true } }
  | .recordAppended => planFollowing T around node fun node =>
      if T.dueForCheckpoint node.state.entriesSinceCheckpoint none then .checkpoint node
      else .rest node
  | .tick => planFollowing T around node fun node =>
      let secondsSince := node.state.pendingSince.map (around.clock - ·)
      if T.dueForCheckpoint node.state.entriesSinceCheckpoint secondsSince then .checkpoint node
      else .retry node
  | .reconnect => planFollowing T around node (planReconnect T)
  | .shutdown => planFollowing T around node (planReconnect T)
  | .reload =>
      match load T around node.ledger node.checkpoints with
      | .ok s => .rest { node with state := s }
      | .error _ => .rest node

/-- An event, what surrounds it, and how the write fails if there is one and it does. -/
abbrev FaultyEvent := Event × Surroundings × Option WriteFault

def stepFaulty (T : Toolkit) (node : Node) (event : FaultyEvent) : Node :=
  (planOf T event.2.1 node event.1).run T event.2.1 event.2.2

theorem run_planFollowing (T : Toolkit) (around : Surroundings) (node : Node)
    (operation : Node → Py (Option CheckpointLine) × Node) (plan : Node → Plan)
    (h : ∀ node, (plan node).run T around none = (operation node).2) :
    (planFollowing T around node plan).run T around none =
      (afterFollowing T around node operation).2 := by
  rw [planFollowing, afterFollowing]
  cases followLedger T around node with
  | error e => rfl
  | ok node => exact h node

/-- Without a fault a step is the one of the model of the operations. -/
theorem stepFaulty_none (T : Toolkit) (node : Node) (event : Event) (around : Surroundings) :
    stepFaulty T node (event, around, none) = step T node (event, around) := by
  have hreconnect : (planFollowing T around node (planReconnect T)).run T around none =
      (reconnect T around node).2 := by
    apply run_planFollowing
    intro node
    rw [planReconnect]
    split_ifs with hleaves
    · rfl
    · cases node.state.lastCheckpoint with
      | none => rfl
      | some cp =>
        dsimp only
        cases T.leafCount cp.mmrSize with
        | error e => rfl
        | ok lastLeaves =>
          dsimp only
          split_ifs <;> rfl
  cases event with
  | append capsuleId => rfl
  | tear => rfl
  | recordAppended =>
      apply run_planFollowing
      intro node
      split_ifs <;> rfl
  | tick =>
      apply run_planFollowing
      intro node
      dsimp only
      split_ifs <;> rfl
  | reconnect => exact hreconnect
  | shutdown => exact hreconnect
  | reload =>
      rw [stepFaulty, planOf, step]
      cases load T around node.ledger node.checkpoints <;> rfl

/-! ## Failing calls -/

/-- The three fields that a failing call leaves as they were. -/
def SameFields (s s' : CheckpointState) : Prop :=
  s'.lastCheckpoint = s.lastCheckpoint ∧ s'.pendingTsUrls = s.pendingTsUrls ∧
    s'.entriesSinceCheckpoint = s.entriesSinceCheckpoint

/-- The service answers the statement with a witness. -/
def Surroundings.answers (around : Surroundings) (cose : Option Bytes) (url : String) : Bool :=
  match cose.map (around.register · url) with
  | some (.registered _) => true
  | _ => false

/-- The call to the service raises what the round of calls does not catch. -/
def Surroundings.raises (around : Surroundings) (cose : Option Bytes) (url : String) : Bool :=
  match cose.map (around.register · url) with
  | some (.raised _) => true
  | _ => false

/-- The write does not fail, or the services that do not answer are those that were owed before. -/
def KeepsPending (T : Toolkit) (around : Surroundings) (fault : Option WriteFault)
    (node : Node) : Prop :=
  fault = none ∨ ∀ cp,
    T.emitCheckpoint node.state.leaves node.state.lastCheckpoint around.timestamp = .ok cp →
      let cose := T.checkpointToCose cp node.state.leaves node.state.lastCheckpoint
      (∀ url ∈ T.tsUrls, ¬ around.raises cose url) →
        T.tsUrls.filter (fun url => !around.answers cose url) = node.state.pendingTsUrls

instance (T : Toolkit) (around : Surroundings) (fault : Option WriteFault) (node : Node) :
    Decidable (KeepsPending T around fault node) :=
  match hemit : T.emitCheckpoint node.state.leaves node.state.lastCheckpoint around.timestamp with
  | .error _ => .isTrue (.inr fun cp h => by rw [hemit] at h; cases h)
  | .ok cp =>
      let cose := T.checkpointToCose cp node.state.leaves node.state.lastCheckpoint
      decidable_of_iff (fault = none ∨ ((∀ url ∈ T.tsUrls, ¬ around.raises cose url) →
          T.tsUrls.filter (fun url => !around.answers cose url) = node.state.pendingTsUrls)) <| by
        simp [KeepsPending, hemit, cose]

/-- A url without an answer stays in the list that the rest of the round leaves. -/
theorem map_cons_eq_ok {round : CheckpointLine × Py (List String)} {url : String}
    {cp : CheckpointLine} {left : List String} :
    round.map id (Except.map (url :: ·)) = (cp, .ok left) ↔
      ∃ left', round = (cp, .ok left') ∧ left = url :: left' := by
  obtain ⟨cp₁, _ | left'⟩ := round
  · constructor
    · intro h
      cases h
    · rintro ⟨left', h, -⟩
      cases h
  · constructor
    · intro h
      obtain ⟨rfl, hleft⟩ := Prod.mk.inj h
      exact ⟨left', rfl, (Except.ok.inj hleft).symm⟩
    · rintro ⟨left', h, rfl⟩
      obtain ⟨rfl, hleft⟩ := Prod.mk.inj h
      obtain rfl := Except.ok.inj hleft
      rfl

/-- A round leaves the urls of the services that do not answer, unless a service raises. -/
theorem registerWith_snd_eq_ok_iff {around : Surroundings} {cose : Option Bytes}
    {cp : CheckpointLine} {urls left : List String} :
    (registerWith around cose cp urls).2 = .ok left ↔
      (∀ url ∈ urls, ¬ around.raises cose url) ∧
        urls.filter (fun url => !around.answers cose url) = left := by
  induction urls generalizing cp left with
  | nil => simp [registerWith]
  | cons url urls ih =>
      have hremains : around.raises cose url = false → around.answers cose url = false →
          (((registerWith around cose cp urls).map id (Except.map (url :: ·))).2 = .ok left ↔
            (∀ asked ∈ url :: urls, ¬ around.raises cose asked) ∧
              (url :: urls).filter (fun url => !around.answers cose url) = left) := by
        intro hraises hanswers
        rw [List.forall_mem_cons, List.filter_cons_of_pos (by rw [hanswers]; rfl)]
        constructor
        · intro h
          obtain ⟨left', hrest, rfl⟩ := map_cons_eq_ok.mp (Prod.ext rfl h)
          obtain ⟨hrest, hleft⟩ := ih.mp (congrArg Prod.snd hrest)
          exact ⟨⟨by rw [hraises]; decide, hrest⟩, by rw [hleft]⟩
        · rintro ⟨⟨-, hrest⟩, rfl⟩
          have hok : (registerWith around cose cp urls).2 = .ok _ := ih.mpr ⟨hrest, rfl⟩
          exact congrArg (Except.map (url :: ·)) hok
      rw [registerWith]
      split
      · rename_i hanswer
        exact hremains (by rw [Surroundings.raises, hanswer])
          (by rw [Surroundings.answers, hanswer])
      · rename_i hanswer
        exact hremains (by rw [Surroundings.raises, hanswer])
          (by rw [Surroundings.answers, hanswer])
      · rename_i hanswer
        have hraises : around.raises cose url = true := by rw [Surroundings.raises, hanswer]
        apply iff_of_false
        · intro h
          cases h
        · rintro ⟨hnone, -⟩
          exact hnone url List.mem_cons_self hraises
      · rename_i witness hanswer
        have hraises : around.raises cose url = false := by rw [Surroundings.raises, hanswer]
        have hanswers : around.answers cose url = true := by rw [Surroundings.answers, hanswer]
        rw [ih, List.forall_mem_cons, List.filter_cons_of_neg (by rw [hanswers]; decide), hraises]
        simp

theorem keepsPending_iff {T : Toolkit} {around : Surroundings} {fault : Option WriteFault}
    {node : Node} :
    KeepsPending T around fault node ↔ fault = none ∨ ∀ cp urls,
      T.emitCheckpoint node.state.leaves node.state.lastCheckpoint around.timestamp = .ok cp →
        (registerWith around (T.checkpointToCose cp node.state.leaves node.state.lastCheckpoint) cp
          T.tsUrls).2 = .ok urls → urls = node.state.pendingTsUrls := by
  apply or_congr_right
  constructor
  · intro h cp urls hemit hok
    obtain ⟨hraises, rfl⟩ := registerWith_snd_eq_ok_iff.mp hok
    exact h cp hemit hraises
  · intro h cp hemit cose hraises
    exact h cp _ hemit (registerWith_snd_eq_ok_iff.mpr ⟨hraises, rfl⟩)

/-- A round that raises before a service answers has not changed the checkpoint. -/
theorem registerWith_fst_eq_self {around : Surroundings} {cose : Option Bytes}
    {cp : CheckpointLine} {urls : List String} {e : PyError}
    (h : (registerWith around cose cp urls).2 = .error e)
    (hbefore : ∀ url ∈ urls.takeWhile (fun url => !around.raises cose url),
      ¬ around.answers cose url) :
    (registerWith around cose cp urls).1 = cp := by
  induction urls with
  | nil => rfl
  | cons url urls ih =>
      have hremains : ((registerWith around cose cp urls).map id (Except.map (url :: ·))).2 =
          .error e → around.raises cose url = false →
            (registerWith around cose cp urls).1 = cp := by
        intro h hraises
        rw [List.takeWhile_cons_of_pos (by rw [hraises]; rfl)] at hbefore
        apply ih
        · rw [Prod.map_snd] at h
          cases hrest : (registerWith around cose cp urls).2 with
          | error e' =>
            rw [hrest] at h
            exact h
          | ok left =>
            rw [hrest] at h
            cases h
        · intro url hurl
          exact hbefore url (List.mem_cons_of_mem _ hurl)
      rw [registerWith] at h ⊢
      split at h
      · rename_i hanswer
        exact hremains h (by rw [Surroundings.raises, hanswer])
      · rename_i hanswer
        exact hremains h (by rw [Surroundings.raises, hanswer])
      · rfl
      · rename_i witness hanswer
        have hraises : around.raises cose url = false := by rw [Surroundings.raises, hanswer]
        rw [List.takeWhile_cons_of_pos (by rw [hraises]; rfl)] at hbefore
        refine absurd ?_ (hbefore url List.mem_cons_self)
        rw [Surroundings.answers, hanswer]

/-- What becomes of an attempt. -/
theorem attemptCheckpoint_cases (T : Toolkit) (around : Surroundings) (fault : Option WriteFault)
    (node : Node) :
    (∃ e, attemptCheckpoint T around fault node = (.error e, node) ∧
      ∀ cp urls,
        T.emitCheckpoint node.state.leaves node.state.lastCheckpoint around.timestamp = .ok cp →
          (registerWith around (T.checkpointToCose cp node.state.leaves node.state.lastCheckpoint)
            cp T.tsUrls).2 ≠ .ok urls) ∨
    ∃ cp cose cp' urls, T.emitCheckpoint node.state.leaves node.state.lastCheckpoint
        around.timestamp = .ok cp ∧
      cose = T.checkpointToCose cp node.state.leaves node.state.lastCheckpoint ∧
      registerWith around cose cp T.tsUrls = (cp', .ok urls) ∧
      attemptCheckpoint T around fault node =
        match fault with
        | some fault =>
          (.error fault.error,
           { node with
             checkpoints := if fault.landed then persistCheckpoint node.checkpoints cp' cose
               else node.checkpoints
             state := { node.state with pendingTsUrls := urls } })
        | none =>
          (.ok (some cp'),
           { node with
             checkpoints := persistCheckpoint node.checkpoints cp' cose
             state :=
              { node.state with
                lastCheckpoint := some cp'
                lastCheckpointCose := cose
                entriesSinceCheckpoint := 0
                pendingSince := none
                pendingTsUrls := urls } }) := by
  rw [attemptCheckpoint]
  cases hemit : T.emitCheckpoint node.state.leaves node.state.lastCheckpoint around.timestamp with
  | error e => exact .inl ⟨e, rfl, fun _ _ h => by cases h⟩
  | ok cp =>
      dsimp only
      rcases hregister : registerWith around (T.checkpointToCose cp node.state.leaves
        node.state.lastCheckpoint) cp T.tsUrls with ⟨cp', pending⟩
      cases pending with
      | error e =>
        refine .inl ⟨e, rfl, fun cp₁ urls h₁ hok => ?_⟩
        obtain rfl := Except.ok.inj h₁
        rw [hregister] at hok
        cases hok
      | ok urls => exact .inr ⟨cp, _, cp', urls, rfl, rfl, hregister, by cases fault <;> rfl⟩

/-- A call that raises leaves the fields alone exactly when it keeps the list of services. -/
theorem attemptCheckpoint_error_iff {T : Toolkit} {around : Surroundings}
    {fault : Option WriteFault} {node : Node} {e : PyError}
    (h : (attemptCheckpoint T around fault node).1 = .error e) :
    SameFields node.state (attemptCheckpoint T around fault node).2.state ↔
      KeepsPending T around fault node := by
  rw [keepsPending_iff]
  rcases attemptCheckpoint_cases T around fault node with ⟨e', heq, hnone⟩ |
    ⟨cp, cose, cp', urls, hemit, rfl, hregister, heq⟩
  · rw [heq]
    refine iff_of_true ⟨rfl, rfl, rfl⟩ (.inr fun cp urls hemit hok => ?_)
    exact absurd hok (hnone cp urls hemit)
  · cases fault with
    | none =>
        rw [heq] at h
        cases h
    | some fault =>
        rw [heq]
        constructor
        · rintro ⟨-, hpending, -⟩
          refine .inr fun cp₁ urls₁ hemit₁ hok => ?_
          obtain rfl := Except.ok.inj (hemit.symm.trans hemit₁)
          rw [hregister] at hok
          exact (Except.ok.inj hok).symm.trans hpending
        · rintro (hnone | hkeeps)
          · cases hnone
          · exact ⟨rfl, hkeeps cp urls hemit (by rw [hregister]), rfl⟩

/-! ## Each witness once -/

/-- The services answer under their own urls. -/
def AnswersAsItself (around : Surroundings) : Prop :=
  ∀ cose url witness, around.register cose url = .registered witness → witness.tsUrl = url

/-- Each url that was asked is now that of a witness, or remains. -/
theorem registerWith_perm {around : Surroundings} (hself : AnswersAsItself around)
    {cose : Option Bytes} {cp cp' : CheckpointLine} {urls left : List String}
    (h : registerWith around cose cp urls = (cp', .ok left)) :
    (cp'.witnesses.map Witness.tsUrl ++ left).Perm (cp.witnesses.map Witness.tsUrl ++ urls) := by
  induction urls generalizing cp left with
  | nil =>
      obtain ⟨rfl, hleft⟩ := Prod.mk.inj h
      obtain rfl := Except.ok.inj hleft
      exact List.Perm.refl _
  | cons url urls ih =>
      have hremains : ∀ left', registerWith around cose cp urls = (cp', .ok left') →
          (cp'.witnesses.map Witness.tsUrl ++ url :: left').Perm
            (cp.witnesses.map Witness.tsUrl ++ url :: urls) := by
        intro left' hrest
        exact List.perm_middle.trans (((ih hrest).cons url).trans List.perm_middle.symm)
      rw [registerWith] at h
      split at h
      · obtain ⟨left', hrest, rfl⟩ := map_cons_eq_ok.mp h
        exact hremains left' hrest
      · obtain ⟨left', hrest, rfl⟩ := map_cons_eq_ok.mp h
        exact hremains left' hrest
      · cases h
      · rename_i witness hanswer
        obtain ⟨bytes, -, hregister⟩ := Option.map_eq_some_iff.mp hanswer
        obtain rfl := hself bytes url witness hregister
        have hperm := ih h
        rwa [List.map_append, List.append_assoc] at hperm

/-- Registering adds witnesses and changes nothing else. -/
theorem registerWith_witnesses (around : Surroundings) (cose : Option Bytes) (cp : CheckpointLine)
    (urls : List String) :
    { (registerWith around cose cp urls).1 with witnesses := [] } = { cp with witnesses := [] } := by
  induction urls generalizing cp with
  | nil => rfl
  | cons url urls ih =>
      rw [registerWith]
      split
      · exact ih cp
      · exact ih cp
      · rfl
      · exact ih _

structure WitnessedOnce (T : Toolkit) (node : Node) : Prop where
  lines : ∀ line ∈ node.checkpoints, (line.witnesses.map Witness.tsUrl).Nodup
  owed : ∀ cp, node.state.lastCheckpoint = some cp →
    (cp.witnesses.map Witness.tsUrl ++ node.state.pendingTsUrls).Nodup
  none_owed : node.state.lastCheckpoint = none → node.state.pendingTsUrls = []
  statement : ∀ cp cose, node.state.lastCheckpoint = some cp →
    node.state.lastCheckpointCose = some cose →
      ∃ leaves prev, T.checkpointToCose { cp with witnesses := [] } leaves prev = some cose

/-- What the code relies on in the library, and services that are named once each. -/
structure Toolkit.NamesOnce (T : Toolkit) : Prop where
  emit_witnesses : ∀ {leaves prev now cp}, T.emitCheckpoint leaves prev now = .ok cp →
    cp.witnesses = []
  tsUrls_nodup : T.tsUrls.Nodup

/-- The step does not lose track of the services: a write that fails keeps the list, and no service
answers a retry before one raises. -/
def Plan.Ok (T : Toolkit) (around : Surroundings) (fault : Option WriteFault) : Plan → Prop
  | .rest _ => True
  | .checkpoint node => KeepsPending T around fault node
  | .retry node =>
      let cose := node.state.lastCheckpointCose
      (∃ url ∈ node.state.pendingTsUrls, around.raises cose url) →
        ∀ url ∈ node.state.pendingTsUrls.takeWhile (fun url => !around.raises cose url),
          ¬ around.answers cose url

instance (T : Toolkit) (around : Surroundings) (fault : Option WriteFault) (plan : Plan) :
    Decidable (plan.Ok T around fault) :=
  match plan with
  | .rest _ => .isTrue trivial
  | .checkpoint node => inferInstanceAs (Decidable (KeepsPending T around fault node))
  | .retry node => inferInstanceAs (Decidable (
      (∃ url ∈ node.state.pendingTsUrls, around.raises node.state.lastCheckpointCose url) →
        ∀ url ∈ node.state.pendingTsUrls.takeWhile
            (fun url => !around.raises node.state.lastCheckpointCose url),
          ¬ around.answers node.state.lastCheckpointCose url))

def StepOk (T : Toolkit) (node : Node) (event : FaultyEvent) : Prop :=
  (planOf T event.2.1 node event.1).Ok T event.2.1 event.2.2

instance (T : Toolkit) (node : Node) (event : FaultyEvent) : Decidable (StepOk T node event) :=
  inferInstanceAs (Decidable ((planOf T event.2.1 node event.1).Ok T event.2.1 event.2.2))

section

variable {T : Toolkit} {around : Surroundings} {node : Node}

theorem WitnessedOnce.of_same (h : WitnessedOnce T node) {node' : Node}
    (hlines : node'.checkpoints = node.checkpoints)
    (hlast : node'.state.lastCheckpoint = node.state.lastCheckpoint)
    (hcose : node'.state.lastCheckpointCose = node.state.lastCheckpointCose)
    (hpending : node'.state.pendingTsUrls = node.state.pendingTsUrls) : WitnessedOnce T node' where
  lines := by rw [hlines]; exact h.lines
  owed := by rw [hlast, hpending]; exact h.owed
  none_owed := by rw [hlast, hpending]; exact h.none_owed
  statement := by rw [hlast, hcose]; exact h.statement

theorem WitnessedOnce.follow (h : WitnessedOnce T node) {node' : Node}
    (hfollow : followLedger T around node = .ok node') : WitnessedOnce T node' := by
  obtain ⟨records, -, hnode⟩ := Py.bind_eq_ok.mp hfollow
  obtain rfl := Except.ok.inj hnode
  exact h.of_same rfl rfl rfl rfl

/-- A new checkpoint, if it is written, has each of its witnesses once. -/
theorem attemptCheckpoint_once (hT : T.NamesOnce) (hself : AnswersAsItself around)
    {fault : Option WriteFault} (h : WitnessedOnce T node)
    (hkeeps : KeepsPending T around fault node) :
    WitnessedOnce T (attemptCheckpoint T around fault node).2 := by
  rcases attemptCheckpoint_cases T around fault node with ⟨e, heq, -⟩ |
    ⟨cp, cose, cp', urls, hemit, hcose, hregister, heq⟩
  · rw [heq]
    exact h
  · have hperm := registerWith_perm hself hregister
    rw [hT.emit_witnesses hemit, List.map_nil, List.nil_append] at hperm
    have hnodup := hperm.nodup_iff.mpr hT.tsUrls_nodup
    have hwritten : ∀ line ∈ persistCheckpoint node.checkpoints cp' cose,
        (line.witnesses.map Witness.tsUrl).Nodup := by
      intro line hline
      rcases List.mem_append.mp hline with hline | hline
      · exact h.lines line hline
      · rw [List.mem_singleton.mp hline]
        exact (List.nodup_append.mp hnodup).1
    cases fault with
    | some fault =>
        have hurls : urls = node.state.pendingTsUrls := by
          rcases keepsPending_iff.mp hkeeps with hnone | hkeeps
          · cases hnone
          · apply hkeeps cp urls hemit
            rw [← hcose, hregister]
        rw [heq]
        obtain rfl := hurls
        refine ⟨?_, h.owed, h.none_owed, h.statement⟩
        dsimp only
        split_ifs
        · exact hwritten
        · exact h.lines
    | none =>
        rw [heq]
        refine ⟨hwritten, ?_, fun hnone => (by cases hnone), ?_⟩
        · rintro cp₁ ⟨⟩
          exact hnodup
        · rintro cp₁ bytes ⟨⟩ hbytes
          have hsame := registerWith_witnesses around cose cp T.tsUrls
          rw [hregister] at hsame
          refine ⟨node.state.leaves, node.state.lastCheckpoint, ?_⟩
          have hcp : { cp with witnesses := [] } = cp := by
            rw [← hT.emit_witnesses hemit]
          rw [hsame, hcp, ← hcose]
          exact hbytes

/-- A retry that raises only before it has added a witness asks no service again. -/
theorem retry_once (hself : AnswersAsItself around) (h : WitnessedOnce T node)
    {fault : Option WriteFault} (hok : (Plan.retry node).Ok T around fault) :
    WitnessedOnce T (retry around node).2 := by
  rw [retry, retryPendingWitnesses]
  cases hlast : node.state.lastCheckpoint with
  | none => exact h
  | some cp =>
      dsimp only
      split_ifs with hpending
      · exact h
      · have hstatement : ∀ (cp₁ : CheckpointLine) (cose : Bytes),
            (registerWith around node.state.lastCheckpointCose cp node.state.pendingTsUrls).1 =
                cp₁ →
              node.state.lastCheckpointCose = some cose →
                ∃ leaves prev, T.checkpointToCose { cp₁ with witnesses := [] } leaves prev =
                  some cose := by
          rintro cp₁ cose rfl hcose
          rw [registerWith_witnesses]
          exact h.statement cp cose hlast hcose
        have hclean : ∀ e, (registerWith around node.state.lastCheckpointCose cp
            node.state.pendingTsUrls).2 = .error e →
              (registerWith around node.state.lastCheckpointCose cp
                node.state.pendingTsUrls).1 = cp := by
          intro e hraises
          apply registerWith_fst_eq_self hraises
          apply hok
          by_contra hnone
          push Not at hnone
          have hok : (registerWith around node.state.lastCheckpointCose cp
              node.state.pendingTsUrls).2 = .ok _ :=
            registerWith_snd_eq_ok_iff.mpr ⟨hnone, rfl⟩
          rw [hraises] at hok
          cases hok
        rcases hregister : registerWith around node.state.lastCheckpointCose cp
          node.state.pendingTsUrls with ⟨cp', e | urls⟩
        · -- the list is as it was, and so is the checkpoint
          rw [hregister] at hclean hstatement
          obtain rfl : cp' = cp := hclean e rfl
          exact h.of_same rfl hlast.symm rfl rfl
        · rw [hregister] at hstatement
          have hperm := registerWith_perm hself hregister
          refine ⟨h.lines, ?_, fun hnone => (by cases hnone), ?_⟩
          · rintro cp₁ ⟨⟩
            exact hperm.nodup_iff.mpr (h.owed cp hlast)
          · rintro cp₁ cose ⟨⟩ hcose
            exact hstatement cp' cose rfl hcose

theorem planFollowing_once (h : WitnessedOnce T node) {plan : Node → Plan}
    (hplan : ∀ node, (plan node).node = node) :
    WitnessedOnce T (planFollowing T around node plan).node := by
  rw [planFollowing]
  cases hfollow : followLedger T around node with
  | error e => exact h
  | ok node' =>
      dsimp only
      rw [hplan]
      exact h.follow hfollow

theorem planReconnect_node (node : Node) : (planReconnect T node).node = node := by
  rw [planReconnect]
  split_ifs
  · rfl
  · cases node.state.lastCheckpoint with
    | none => rfl
    | some cp =>
        dsimp only
        cases T.leafCount cp.mmrSize with
        | error e => rfl
        | ok lastLeaves =>
          dsimp only
          split_ifs <;> rfl

theorem load_once (h : WitnessedOnce T node) {s : CheckpointState}
    (hload : load T around node.ledger node.checkpoints = .ok s) :
    WitnessedOnce T { node with state := s } := by
  obtain ⟨records, -, hload⟩ := Py.bind_eq_ok.mp hload
  obtain ⟨count, -, hload⟩ := Py.bind_eq_ok.mp hload
  obtain rfl := Except.ok.inj hload
  refine ⟨h.lines, ?_, fun _ => rfl, ?_⟩
  · intro cp hcp
    obtain ⟨line, hline, rfl⟩ := Option.map_eq_some_iff.mp hcp
    rw [List.append_nil]
    exact h.lines line (List.mem_of_getLast? hline)
  · intro cp cose _ hcose
    cases hcose

theorem planOf_once (around : Surroundings) (h : WitnessedOnce T node) (event : Event) :
    WitnessedOnce T (planOf T around node event).node := by
  cases event with
  | append capsuleId => exact h.of_same rfl rfl rfl rfl
  | tear => exact h.of_same rfl rfl rfl rfl
  | recordAppended =>
      apply planFollowing_once h
      intro node
      split_ifs <;> rfl
  | tick =>
      apply planFollowing_once h
      intro node
      dsimp only
      split_ifs <;> rfl
  | reconnect => exact planFollowing_once h planReconnect_node
  | shutdown => exact planFollowing_once h planReconnect_node
  | reload =>
      rw [planOf]
      cases hload : load T around node.ledger node.checkpoints with
      | error e => exact h
      | ok s => exact load_once h hload

theorem stepFaulty_once (hT : T.NamesOnce) {event : FaultyEvent} (hself : AnswersAsItself event.2.1)
    (h : WitnessedOnce T node) (hok : StepOk T node event) :
    WitnessedOnce T (stepFaulty T node event) := by
  have hnode := planOf_once event.2.1 h event.1
  rw [StepOk] at hok
  rw [stepFaulty]
  cases hplan : planOf T event.2.1 node event.1 with
  | rest node =>
      rw [hplan] at hnode
      exact hnode
  | checkpoint node =>
      rw [hplan] at hnode hok
      exact attemptCheckpoint_once hT hself hnode hok
  | retry node =>
      rw [hplan] at hnode hok
      exact retry_once hself hnode hok

end

/-- A call that raises leaves the fields alone exactly when its write keeps the list of services.
Over a run of steps that do not lose track of the services, each service witnesses a checkpoint
once, and what is owed is owed to the checkpoint whose statement is at hand. -/
theorem failed_checkpoints_once {T : Toolkit} (hT : T.NamesOnce) :
    (∀ around fault node e, (attemptCheckpoint T around fault node).1 = .error e →
      (SameFields node.state (attemptCheckpoint T around fault node).2.state ↔
        KeepsPending T around fault node)) ∧
      ∀ (around : Surroundings) (ledger : LedgerFile) (s : CheckpointState)
        (events : List FaultyEvent), load T around ledger [] = .ok s →
          (∀ event ∈ events, AnswersAsItself event.2.1) →
            Along (stepFaulty T) (StepOk T) ⟨ledger, [], s⟩ events →
              WitnessedOnce T (events.foldl (stepFaulty T) ⟨ledger, [], s⟩) := by
  refine ⟨fun around fault node e h => attemptCheckpoint_error_iff h, ?_⟩
  intro around ledger s events hload hself hrun
  have hempty : WitnessedOnce T ⟨ledger, [], ⟨[], none, 0, none, none, []⟩⟩ :=
    ⟨fun line hline => (by cases hline), fun cp hcp => (by cases hcp), fun _ => rfl,
      fun cp cose hcp => (by cases hcp)⟩
  have hstart : WitnessedOnce T ⟨ledger, [], s⟩ := load_once hempty hload
  apply along_invariant (WitnessedOnce T) _ hstart hrun
  intro node event hevent hnode hok
  exact stepFaulty_once hT (hself event hevent) hnode hok

/-! ## Concrete runs -/

def onceToolkit : Toolkit :=
  { pairsToolkit with
    checkpointToCose := fun cp _ _ => some (cp.root.toList.map fun c => UInt8.ofNat c.toNat)
    tsUrls := ["https://ts"] }

theorem onceToolkit_namesOnce : onceToolkit.NamesOnce where
  emit_witnesses h := by
    obtain rfl := Except.ok.inj h
    rfl
  tsUrls_nodup := List.nodup_singleton _

def answeringSurroundings : Surroundings := ⟨0, 0, "t", fun _ url => .registered ⟨url, false⟩⟩

theorem quietSurroundings_answersAsItself : AnswersAsItself quietSurroundings := by
  intro cose url witness h
  cases h

theorem answeringSurroundings_answersAsItself : AnswersAsItself answeringSurroundings := by
  intro cose url witness h
  rw [← Registration.registered.inj h]

/-- The service is away when the second checkpoint cannot be written, as it was before. -/
def awayEvents : List FaultyEvent :=
  [(.append "a", quietSurroundings, none), (.reconnect, quietSurroundings, none),
    (.append "b", quietSurroundings, none),
    (.reconnect, quietSurroundings, some ⟨.osError, false⟩), (.tick, answeringSurroundings, none)]

theorem failed_checkpoints_once_away :
    let start : CheckpointState := ⟨[], none, 0, none, none, []⟩
    let node := awayEvents.foldl (stepFaulty onceToolkit) ⟨⟨[], false⟩, [], start⟩
    load onceToolkit quietSurroundings ⟨[], false⟩ [] = .ok start ∧
      node.state.lastCheckpoint.map (fun cp => (cp.root, cp.witnesses.map Witness.tsUrl)) =
        some ("a", ["https://ts"]) ∧ WitnessedOnce onceToolkit node := by
  intro start node
  have hload : load onceToolkit quietSurroundings ⟨[], false⟩ [] = .ok start := rfl
  refine ⟨hload, by decide +kernel, ?_⟩
  apply (failed_checkpoints_once onceToolkit_namesOnce).2 quietSurroundings ⟨[], false⟩ start
    awayEvents hload
  · rw [awayEvents]
    simp only [List.forall_mem_cons]
    exact ⟨quietSurroundings_answersAsItself, quietSurroundings_answersAsItself,
      quietSurroundings_answersAsItself, quietSurroundings_answersAsItself,
      answeringSurroundings_answersAsItself, fun event h => (by cases h)⟩
  · decide +kernel

/-- The service is away when the second checkpoint cannot be written, and is asked again for the
first one, which it has witnessed. -/
def againEvents : List FaultyEvent :=
  [(.append "a", quietSurroundings, none), (.reconnect, answeringSurroundings, none),
    (.append "b", quietSurroundings, none),
    (.reconnect, quietSurroundings, some ⟨.osError, false⟩), (.tick, answeringSurroundings, none)]

theorem witnessed_twice :
    let start : Node := ⟨⟨[], false⟩, [], ⟨[], none, 0, none, none, []⟩⟩
    let before := (againEvents.take 3).foldl (stepFaulty onceToolkit) start
    let failed := (againEvents.take 4).foldl (stepFaulty onceToolkit) start
    let after := againEvents.foldl (stepFaulty onceToolkit) start
    before.state.pendingTsUrls = [] ∧ failed.state.pendingTsUrls = ["https://ts"] ∧
      failed.state.lastCheckpoint = before.state.lastCheckpoint ∧
        after.state.lastCheckpoint.map (fun cp => (cp.root, cp.witnesses.map Witness.tsUrl)) =
          some ("a", ["https://ts", "https://ts"]) := by
  decide +kernel

end CapsuleMesh.Checkpoint
