import CapsuleMesh.Python.Equality
import CapsuleMesh.Sidecar.BuildCapsule
import CapsuleMesh.Viewer.Labels

/-!
# The rows of the peers pane

`group_by_peer` of `peer_accountability_tab.py`.  A record stands in the row of its counterparty's
label, and the label shows the first characters of what the record names.
-/

namespace CapsuleMesh.Pane

open Python Viewer

/-! ## The rows -/

/-- `groups.setdefault(label_counterparty(record, own_node_id), []).append(record)`. -/
def fileUnderPeer (ownNodeId : Option String) (groups : Dict String (List Json)) (record : Json) :
    Py (Dict String (List Json)) := do
  let label ← labelCounterparty record ownNodeId
  return groups.insert label ((groups.lookup label).getD [] ++ [record])

def groupByPeer (records : List Json) (ownNodeId : Option String) : Py (Dict String (List Json)) :=
  records.foldlM (fileUnderPeer ownNodeId) ∅

def recordsOf (groups : Dict String (List Json)) (label : String) : List Json :=
  (groups.lookup label).getD []

section

variable {ownNodeId : Option String} {groups filed : Dict String (List Json)}

theorem recordsOf_fileUnderPeer {record : Json}
    (h : fileUnderPeer ownNodeId groups record = .ok filed) (label : String) :
    recordsOf filed label = recordsOf groups label ++
      [record].filter fun r => decide (labelCounterparty r ownNodeId = .ok label) := by
  obtain ⟨own, hown, hfiled⟩ := Py.bind_eq_ok.mp h
  obtain rfl := Except.ok.inj hfiled
  by_cases hlabel : label = own
  · subst hlabel
    have hfilter : [record].filter (fun r => decide (labelCounterparty r ownNodeId = .ok label)) =
        [record] := List.filter_cons_of_pos (decide_eq_true hown)
    rw [hfilter, recordsOf, AList.lookup_insert]
    rfl
  · have hne : labelCounterparty record ownNodeId ≠ .ok label := by
      rw [hown]
      intro heq
      exact hlabel (Except.ok.inj heq).symm
    have hfilter : [record].filter (fun r => decide (labelCounterparty r ownNodeId = .ok label)) =
        [] := List.filter_cons_of_neg (by simpa using hne)
    rw [hfilter, recordsOf, AList.lookup_insert_ne hlabel, List.append_nil]
    rfl

theorem recordsOf_foldlM {records : List Json}
    (h : records.foldlM (fileUnderPeer ownNodeId) groups = .ok filed) (label : String) :
    recordsOf filed label = recordsOf groups label ++
      records.filter fun r => decide (labelCounterparty r ownNodeId = .ok label) := by
  induction records generalizing groups with
  | nil =>
      obtain rfl := Except.ok.inj h
      rw [List.filter_nil, List.append_nil]
  | cons record records ih =>
      obtain ⟨next, hnext, hrest⟩ := Py.bind_eq_ok.mp h
      rw [ih hrest, recordsOf_fileUnderPeer hnext, List.append_assoc, ← List.filter_append,
        List.singleton_append]

/-- A row holds the records of its label, in the order of the ledger. -/
theorem recordsOf_groupByPeer {records : List Json}
    (h : groupByPeer records ownNodeId = .ok groups) (label : String) :
    recordsOf groups label =
      records.filter fun r => decide (labelCounterparty r ownNodeId = .ok label) := by
  rw [recordsOf_foldlM h]
  rfl

theorem mem_recordsOf {records : List Json} (h : groupByPeer records ownNodeId = .ok groups)
    {label : String} {record : Json} : record ∈ recordsOf groups label ↔
      record ∈ records ∧ labelCounterparty record ownNodeId = .ok label := by
  rw [recordsOf_groupByPeer h, List.mem_filter, decide_eq_true_iff]

theorem foldlM_fileUnderPeer_returns {records : List Json} :
    (∃ filed, records.foldlM (fileUnderPeer ownNodeId) groups = .ok filed) ↔
      ∀ record ∈ records, ∃ label, labelCounterparty record ownNodeId = .ok label := by
  induction records generalizing groups with
  | nil => simp [pure, Except.pure]
  | cons record records ih =>
      simp only [List.foldlM_cons, Py.bind_eq_ok, List.forall_mem_cons]
      constructor
      · rintro ⟨filed, next, hnext, hrest⟩
        obtain ⟨label, hlabel, -⟩ := Py.bind_eq_ok.mp hnext
        exact ⟨⟨label, hlabel⟩, ih.mp ⟨filed, hrest⟩⟩
      · rintro ⟨⟨label, hlabel⟩, hrest⟩
        obtain ⟨filed, hfiled⟩ := ih.mpr hrest
        refine ⟨filed, _, ?_, hfiled⟩
        rw [fileUnderPeer, hlabel]
        rfl

theorem groupByPeer_returns {records : List Json} :
    (∃ groups, groupByPeer records ownNodeId = .ok groups) ↔
      ∀ record ∈ records, ∃ label, labelCounterparty record ownNodeId = .ok label :=
  foldlM_fileUnderPeer_returns

end

/-! ## What a record names in full -/

inductive RefKind where
  | initiator
  | counterparty
  | node
deriving DecidableEq

def RefKind.tag : RefKind → String
  | .initiator => "initiator:"
  | .counterparty => "counterparty:"
  | .node => "node:"

def RefKind.width : RefKind → ℕ
  | .initiator => 12
  | .counterparty => 12
  | .node => 16

/-- A counterparty by the whole of its reference. -/
structure Named where
  kind : RefKind
  ref : Json

/-- The characters of the reference that a label shows. -/
def Named.shown (name : Named) : Py String := clip name.ref name.kind.width

def Named.label (name : Named) : Py String := do
  return name.kind.tag ++ (← name.shown)

def bilateralName (poc : Json) : Py (Option Named) := do
  let crossParty ← poc.get "cross_party"
  if !crossParty.truthy then return none
  else
    let initiatorRef ← crossParty.get "initiator_ref"
    if initiatorRef.truthy then return some ⟨.initiator, initiatorRef⟩
    else
      let counterpartyRef ← crossParty.get "counterparty_ref"
      if counterpartyRef.truthy then return some ⟨.counterparty, counterpartyRef⟩
      else return none

/-- The node that ran the model, where it is a peer; `admits` is what is asked of it beside. -/
def servedByName (admits : Json → Bool) (poc sp : Json) (ownNodeId : Option String) :
    Py (Option Named) := do
  let servedBy ← sp.get "served_by_node_id"
  if !isNamed servedBy then return none
  else
    let role ← poc.get "role"
    let elsewhere := ownNodeId.any fun own => decide (own ≠ "") && !servedBy.pyEq (.str own)
    if (role.pyEq (.str "requested") || elsewhere) && admits servedBy then
      return some ⟨.node, servedBy⟩
    else return none

def requestingName (admits : Json → Bool) (sp : Json) : Py (Option Named) := do
  let requestingParty ← sp.get "requesting_party"
  if isNamed requestingParty && admits requestingParty then return some ⟨.node, requestingParty⟩
  else return none

/-- The three tiers of `label_counterparty`, over the nodes that are admitted. -/
def nameAmong (admits : Json → Bool) (record : Json) (ownNodeId : Option String) :
    Py (Option Named) := do
  let poc ← Stranger.pocBlock record
  match ← bilateralName poc with
  | some name => return some name
  | none =>
      let sp := (← poc.get "serving_provenance").or (.obj [])
      match ← servedByName admits poc sp ownNodeId with
      | some name => return some name
      | none => requestingName admits sp

/-- The reference that the label of a record is cut from. -/
def pickedName (record : Json) (ownNodeId : Option String) : Py (Option Named) :=
  nameAmong (fun _ => true) record ownNodeId

/-- The counterparty that a record names; a node is no counterparty of its own. -/
def counterpartyNamed (nodeId : String) (record : Json) (ownNodeId : Option String) :
    Py (Option Named) :=
  nameAmong (fun id => !id.pyEq (.str nodeId)) record ownNodeId

/-! ## Labels and names -/

def Named.labelled : Option Named → Py (Option String)
  | none => .ok none
  | some name => do return some (← name.label)

theorem bilateralLabel_eq (poc : Json) :
    bilateralLabel poc = bilateralName poc >>= Named.labelled := by
  rw [bilateralLabel, bilateralName, bind_assoc]
  apply bind_congr
  intro crossParty
  split_ifs
  · rfl
  · rw [bind_assoc]
    apply bind_congr
    intro initiatorRef
    split_ifs
    · simp only [pure_bind, Named.labelled, Named.label, Named.shown, bind_assoc]
      rfl
    · rw [bind_assoc]
      apply bind_congr
      intro counterpartyRef
      split_ifs
      · simp only [pure_bind, Named.labelled, Named.label, Named.shown, bind_assoc]
        rfl
      · rfl

theorem servedByLabel_eq (poc sp : Json) (ownNodeId : Option String) :
    servedByLabel poc sp ownNodeId =
      servedByName (fun _ => true) poc sp ownNodeId >>= Named.labelled := by
  rw [servedByLabel, servedByName, bind_assoc]
  apply bind_congr
  intro servedBy
  split_ifs
  · rfl
  · rw [bind_assoc]
    apply bind_congr
    intro role
    simp only [Bool.and_true]
    split_ifs
    · simp only [pure_bind, Named.labelled, Named.label, Named.shown, bind_assoc]
      rfl
    · rfl

/-- What a record is shown under, by what it names. -/
def rowLabel : Option Named → Py String
  | none => .ok "unknown"
  | some name => name.label

theorem labelCounterparty_eq (record : Json) (ownNodeId : Option String) :
    labelCounterparty record ownNodeId = pickedName record ownNodeId >>= rowLabel := by
  rw [labelCounterparty, pickedName, nameAmong, bind_assoc]
  apply bind_congr
  intro poc
  rw [bilateralLabel_eq, bind_assoc, bind_assoc]
  apply bind_congr
  rintro (_ | name)
  · simp only [Named.labelled, Py.ok_bind, bind_assoc]
    apply bind_congr
    intro sp
    simp only [servedByLabel_eq, bind_assoc]
    apply bind_congr
    rintro (_ | name)
    · simp only [Named.labelled, Py.ok_bind, requestingName, bind_assoc, Bool.and_true]
      apply bind_congr
      intro requestingParty
      split_ifs
      · rfl
      · rfl
    · simp only [Named.labelled, bind_assoc, pure_bind, rowLabel, bind_pure]
  · simp only [Named.labelled, bind_assoc, pure_bind, rowLabel, bind_pure]

section

variable {admits : Json → Bool} {name : Option Named}

theorem servedByName_admitted {poc sp : Json} {ownNodeId : Option String}
    (h : servedByName (fun _ => true) poc sp ownNodeId = .ok name)
    (hadmits : ∀ n ∈ name, n.kind = .node → admits n.ref = true) :
    servedByName admits poc sp ownNodeId = .ok name := by
  rw [servedByName] at h ⊢
  obtain ⟨servedBy, hserved, h⟩ := Py.bind_eq_ok.mp h
  rw [hserved, Py.ok_bind]
  split_ifs at h ⊢
  · exact h
  · obtain ⟨role, hrole, h⟩ := Py.bind_eq_ok.mp h
    rw [hrole, Py.ok_bind]
    simp only [Bool.and_true] at h
    split_ifs at h with hpeer
    · obtain rfl := Except.ok.inj h
      simp only [hpeer, hadmits _ rfl rfl, Bool.and_self, if_true]
      rfl
    · simp only [Bool.eq_false_of_not_eq_true hpeer, Bool.false_and, Bool.false_eq_true, if_false]
      exact h

theorem requestingName_admitted {sp : Json} (h : requestingName (fun _ => true) sp = .ok name)
    (hadmits : ∀ n ∈ name, n.kind = .node → admits n.ref = true) :
    requestingName admits sp = .ok name := by
  rw [requestingName] at h ⊢
  obtain ⟨requestingParty, hrequesting, h⟩ := Py.bind_eq_ok.mp h
  rw [hrequesting, Py.ok_bind]
  simp only [Bool.and_true] at h
  split_ifs at h with hnamed
  · obtain rfl := Except.ok.inj h
    simp only [hnamed, hadmits _ rfl rfl, Bool.and_self, if_true]
    rfl
  · simp only [Bool.eq_false_of_not_eq_true hnamed, Bool.false_and, Bool.false_eq_true, if_false]
    exact h

/-- A name that is admitted is the name among those admitted. -/
theorem nameAmong_admitted {record : Json} {ownNodeId : Option String}
    (h : pickedName record ownNodeId = .ok name)
    (hadmits : ∀ n ∈ name, n.kind = .node → admits n.ref = true) :
    nameAmong admits record ownNodeId = .ok name := by
  rw [pickedName, nameAmong] at h
  rw [nameAmong]
  obtain ⟨poc, hpoc, h⟩ := Py.bind_eq_ok.mp h
  obtain ⟨bilateral, hbilateral, h⟩ := Py.bind_eq_ok.mp h
  rw [hpoc, Py.ok_bind, hbilateral, Py.ok_bind]
  cases bilateral with
  | some n => exact h
  | none =>
      obtain ⟨sp, hsp, h⟩ := Py.bind_eq_ok.mp h
      obtain ⟨served, hserved, h⟩ := Py.bind_eq_ok.mp h
      simp only [hsp, Py.ok_bind]
      cases served with
      | some n =>
        obtain rfl := Except.ok.inj h
        rw [servedByName_admitted hserved hadmits]
        rfl
      | none =>
        rw [servedByName_admitted hserved (by simp)]
        exact requestingName_admitted h hadmits

end

theorem counterpartyNamed_of_picked {nodeId : String} {record : Json} {ownNodeId : Option String}
    {name : Option Named} (h : pickedName record ownNodeId = .ok name)
    (hother : ∀ n ∈ name, n.kind = .node → n.ref ≠ .str nodeId) :
    counterpartyNamed nodeId record ownNodeId = .ok name := by
  apply nameAmong_admitted h
  intro n hn hkind
  rw [Bool.not_eq_true', Bool.eq_false_iff]
  intro heq
  exact hother n hn hkind (Json.eq_str_of_pyEq heq)

theorem RefKind.tag_append_inj {k l : RefKind} {s t : String} (h : k.tag ++ s = l.tag ++ t) :
    k = l ∧ s = t := by
  have hlists := congrArg String.toList h
  simp only [String.toList_append] at hlists
  cases k <;> cases l <;> simp_all [RefKind.tag]

theorem Named.label_ne_unknown {name : Named} : name.label ≠ .ok "unknown" := by
  intro h
  obtain ⟨text, -, h⟩ := Py.bind_eq_ok.mp h
  have hlist := congrArg String.toList (Except.ok.inj h)
  rw [String.toList_append] at hlist
  cases hkind : name.kind <;> simp [hkind, RefKind.tag] at hlist

theorem Named.label_inj {name other : Named} {label : String} (h : name.label = .ok label)
    (hother : other.label = .ok label) : name.kind = other.kind ∧ name.shown = other.shown := by
  obtain ⟨text, htext, h⟩ := Py.bind_eq_ok.mp h
  obtain ⟨text', htext', hother⟩ := Py.bind_eq_ok.mp hother
  obtain ⟨hkind, hshown⟩ :=
    RefKind.tag_append_inj ((Except.ok.inj h).trans (Except.ok.inj hother).symm)
  refine ⟨hkind, ?_⟩
  rw [htext, htext', hshown]

/-! ## Rows of one counterparty -/

/-- The node's own id, where the caller supplies it. -/
def suppliedId (nodeId : String) (supplied : Bool) : Option String :=
  if supplied then some nodeId else none

/-- Each row is of one counterparty, none is of the node itself, and the records of the row
`unknown` are those that name nobody. -/
structure OneEach (nodeId : String) (ownNodeId : Option String) (records : List Json)
    (groups : Dict String (List Json)) : Prop where
  one_counterparty : ∀ label, ∀ r ∈ recordsOf groups label, ∀ s ∈ recordsOf groups label,
    counterpartyNamed nodeId r ownNodeId = counterpartyNamed nodeId s ownNodeId
  never_self : ∀ label, Named.label ⟨.node, .str nodeId⟩ = .ok label → recordsOf groups label = []
  unknown_iff : ∀ r ∈ records,
    r ∈ recordsOf groups "unknown" ↔ counterpartyNamed nodeId r ownNodeId = .ok none

/-- What the ledger's records are cut from can be cut, never begins as the node's own id does, and
differs in the characters shown where it differs at all. -/
structure Distinguishable (nodeId : String) (ownNodeId : Option String) (records : List Json) :
    Prop where
  readable : ∀ r ∈ records, ∃ name, pickedName r ownNodeId = .ok name ∧
    ∀ n ∈ name, ∃ text, n.shown = .ok text
  notOwn : ∀ r ∈ records, ∀ n, pickedName r ownNodeId = .ok (some n) → n.kind = .node →
    n.shown ≠ Named.shown ⟨.node, .str nodeId⟩
  distinct : ∀ r ∈ records, ∀ s ∈ records, ∀ n m, pickedName r ownNodeId = .ok (some n) →
    pickedName s ownNodeId = .ok (some m) → n.kind = m.kind → n.shown = m.shown → n = m

section

variable {nodeId : String} {ownNodeId : Option String} {records : List Json}

theorem labelled_of_picked {r : Json} {name : Option Named}
    (h : pickedName r ownNodeId = .ok name) :
    labelCounterparty r ownNodeId = rowLabel name := by
  rw [labelCounterparty_eq, h, Py.ok_bind]

theorem labels_readable_iff {r : Json} : (∃ label, labelCounterparty r ownNodeId = .ok label) ↔
    ∃ name, pickedName r ownNodeId = .ok name ∧ ∀ n ∈ name, ∃ text, n.shown = .ok text := by
  simp only [labelCounterparty_eq, Py.bind_eq_ok]
  constructor
  · rintro ⟨label, name, hname, hlabel⟩
    refine ⟨name, hname, ?_⟩
    rintro n rfl
    obtain ⟨text, htext, -⟩ := Py.bind_eq_ok.mp hlabel
    exact ⟨text, htext⟩
  · rintro ⟨name, hname, hshown⟩
    cases name with
    | none => exact ⟨_, none, hname, rfl⟩
    | some n =>
        obtain ⟨text, htext⟩ := hshown n rfl
        refine ⟨n.kind.tag ++ text, some n, hname, ?_⟩
        rw [rowLabel, Named.label, htext]
        rfl

theorem Distinguishable.named (h : Distinguishable nodeId ownNodeId records) {r : Json}
    (hr : r ∈ records) : ∃ name, pickedName r ownNodeId = .ok name ∧
      counterpartyNamed nodeId r ownNodeId = .ok name ∧
      labelCounterparty r ownNodeId = rowLabel name := by
  obtain ⟨name, hname, -⟩ := h.readable r hr
  refine ⟨name, hname, ?_, labelled_of_picked hname⟩
  apply counterpartyNamed_of_picked hname
  rintro ⟨kind, ref⟩ rfl hkind hself
  cases hkind
  apply h.notOwn r hr _ hname rfl
  exact congrArg (fun id => Named.shown ⟨.node, id⟩) hself

theorem oneEach_of_distinguishable (h : Distinguishable nodeId ownNodeId records)
    {groups : Dict String (List Json)} (hgroups : groupByPeer records ownNodeId = .ok groups) :
    OneEach nodeId ownNodeId records groups := by
  constructor
  · intro label r hr s hs
    obtain ⟨hr, hrlabel⟩ := (mem_recordsOf hgroups).mp hr
    obtain ⟨hs, hslabel⟩ := (mem_recordsOf hgroups).mp hs
    obtain ⟨name, hname, hnamed, hlabel⟩ := h.named hr
    obtain ⟨other, hother, hothers, hlabels⟩ := h.named hs
    rw [hlabel] at hrlabel
    rw [hlabels] at hslabel
    cases name with
    | none =>
        obtain rfl := Except.ok.inj hrlabel
        cases other with
        | none => rw [hnamed, hothers]
        | some m => exact (Named.label_ne_unknown hslabel).elim
    | some n =>
        cases other with
        | none =>
          obtain rfl := Except.ok.inj hslabel
          exact (Named.label_ne_unknown hrlabel).elim
        | some m =>
          obtain ⟨hkind, hshown⟩ := Named.label_inj hrlabel hslabel
          rw [hnamed, hothers, h.distinct r hr s hs n m hname hother hkind hshown]
  · intro label hself
    rw [List.eq_nil_iff_forall_not_mem]
    intro r hr
    obtain ⟨hr, hrlabel⟩ := (mem_recordsOf hgroups).mp hr
    obtain ⟨name, hname, -, hlabel⟩ := h.named hr
    rw [hlabel] at hrlabel
    cases name with
    | none =>
        obtain rfl := Except.ok.inj hrlabel
        exact Named.label_ne_unknown hself
    | some n =>
        obtain ⟨hkind, hshown⟩ := Named.label_inj hrlabel hself
        exact h.notOwn r hr n hname hkind hshown
  · intro r hr
    obtain ⟨name, -, hnamed, hlabel⟩ := h.named hr
    rw [mem_recordsOf hgroups, and_iff_right hr, hlabel, hnamed]
    cases name with
    | none => exact iff_of_true rfl rfl
    | some n =>
        apply iff_of_false
        · exact Named.label_ne_unknown
        · rintro ⟨⟩

theorem distinguishable_of_oneEach {groups : Dict String (List Json)}
    (hgroups : groupByPeer records ownNodeId = .ok groups)
    (h : OneEach nodeId ownNodeId records groups) :
    Distinguishable nodeId ownNodeId records := by
  have hreadable : ∀ r ∈ records, ∃ name, pickedName r ownNodeId = .ok name ∧
      ∀ n ∈ name, ∃ text, n.shown = .ok text := by
    intro r hr
    exact labels_readable_iff.mp (groupByPeer_returns.mp ⟨groups, hgroups⟩ r hr)
  -- a name that is cut is shown under its label, in the row of that label
  have hfiled : ∀ r ∈ records, ∀ n, pickedName r ownNodeId = .ok (some n) →
      ∃ label, n.label = .ok label ∧ r ∈ recordsOf groups label := by
    intro r hr n hn
    obtain ⟨label, hlabel⟩ := groupByPeer_returns.mp ⟨groups, hgroups⟩ r hr
    refine ⟨label, ?_, (mem_recordsOf hgroups).mpr ⟨hr, hlabel⟩⟩
    rwa [labelled_of_picked hn] at hlabel
  have hnotOwn : ∀ r ∈ records, ∀ n, pickedName r ownNodeId = .ok (some n) → n.kind = .node →
      n.shown ≠ Named.shown ⟨.node, .str nodeId⟩ := by
    intro r hr n hn hkind hshown
    obtain ⟨label, hlabel, hmem⟩ := hfiled r hr n hn
    have hself : Named.label ⟨.node, .str nodeId⟩ = .ok label := by
      rw [← hlabel, Named.label, Named.label, hshown, hkind]
    rw [h.never_self label hself] at hmem
    cases hmem
  have hnamed : ∀ r ∈ records, ∀ n, pickedName r ownNodeId = .ok (some n) →
      counterpartyNamed nodeId r ownNodeId = .ok (some n) := by
    intro r hr n hn
    apply counterpartyNamed_of_picked hn
    rintro ⟨kind, ref⟩ ⟨⟩ hkind hself
    cases hkind
    apply hnotOwn r hr _ hn rfl
    exact congrArg (fun id => Named.shown ⟨.node, id⟩) hself
  refine ⟨hreadable, hnotOwn, ?_⟩
  intro r hr s hs n m hn hm hkind hshown
  obtain ⟨label, hlabel, hmem⟩ := hfiled r hr n hn
  obtain ⟨label', hlabel', hmem'⟩ := hfiled s hs m hm
  have hsame : label = label' := by
    rw [Named.label, hkind, hshown] at hlabel
    exact Except.ok.inj (hlabel.symm.trans hlabel')
  subst hsame
  have hone := h.one_counterparty label r hmem s hmem'
  rw [hnamed r hr n hn, hnamed s hs m hm] at hone
  exact Option.some.inj (Except.ok.inj hone)

end

/-- The rows are right exactly where the ledger's records can be told apart by what is shown. -/
theorem groupByPeer_oneEach_iff (nodeId : String) (supplied : Bool) (records : List Json) :
    (∃ groups, groupByPeer records (suppliedId nodeId supplied) = .ok groups ∧
        OneEach nodeId (suppliedId nodeId supplied) records groups) ↔
      Distinguishable nodeId (suppliedId nodeId supplied) records := by
  constructor
  · rintro ⟨groups, hgroups, h⟩
    exact distinguishable_of_oneEach hgroups h
  · intro h
    obtain ⟨groups, hgroups⟩ : ∃ groups, groupByPeer records (suppliedId nodeId supplied) =
        .ok groups := by
      apply groupByPeer_returns.mpr
      intro r hr
      exact labels_readable_iff.mpr (h.readable r hr)
    exact ⟨groups, hgroups, oneEach_of_distinguishable h hgroups⟩

/-! ## The records of a requester -/

/-- A requester's record, sealed where no attestation came with the request, is cut from the
requester's own id. -/
theorem pickedName_requester {emit : Emit} (hemit : EmitContract emit) {digests : Sidecar.Digests}
    {cfg : Sidecar.NodeConfig} {args : Sidecar.BuildArgs} {number : Int × Option Int}
    {prior relationHead : Option String} {capsule : Json}
    (h : Sidecar.emitServing emit digests cfg args number prior relationHead = .ok capsule)
    (hrole : cfg.role = .requester) (heval : args.bilateralEval = none)
    (hempty : cfg.nodeId ≠ "") (hunknown : cfg.nodeId ≠ "unknown") (ownNodeId : Option String) :
    pickedName capsule ownNodeId = .ok (some ⟨.node, .str cfg.nodeId⟩) := by
  obtain ⟨parameters, modelId, reconciliation, owner, hpoc⟩ := Sidecar.pocBlock_sealed hemit h
  have hblock : Stranger.pocBlock capsule = .ok (Sidecar.pocFields cfg args parameters
      (Sidecar.servingProvenance cfg args number modelId) reconciliation owner) := hpoc
  have hnamed : isNamed (.str cfg.nodeId) = true := by
    simp [isNamed, Json.truthy, Json.pyEq, hempty, hunknown]
  have hbilateral : bilateralName (Sidecar.pocFields cfg args parameters
      (Sidecar.servingProvenance cfg args number modelId) reconciliation owner) = .ok none := by
    have hcross : (Sidecar.pocFields cfg args parameters
        (Sidecar.servingProvenance cfg args number modelId) reconciliation owner).get
        "cross_party" = .ok .null := by
      rw [Sidecar.pocFields, heval]
      rfl
    rw [bilateralName, hcross]
    rfl
  have hserved : servedByName (fun _ => true) (Sidecar.pocFields cfg args parameters
      (Sidecar.servingProvenance cfg args number modelId) reconciliation owner)
      (Sidecar.servingProvenance cfg args number modelId) ownNodeId = .ok none := by
    have hget : (Sidecar.servingProvenance cfg args number modelId).get "served_by_node_id" =
        .ok (.str "unknown") := by
      rw [Sidecar.servingProvenance, Sidecar.servedByNodeId, hrole]
      rfl
    rw [servedByName, hget]
    rfl
  have hrequesting : requestingName (fun _ => true)
      (Sidecar.servingProvenance cfg args number modelId) =
      .ok (some ⟨.node, .str cfg.nodeId⟩) := by
    have hget : (Sidecar.servingProvenance cfg args number modelId).get "requesting_party" =
        .ok (.str cfg.nodeId) := by
      rw [Sidecar.servingProvenance, Sidecar.requestingParty, hrole]
      rfl
    rw [requestingName, hget, Py.ok_bind, hnamed]
    rfl
  have hsp : (Sidecar.pocFields cfg args parameters
      (Sidecar.servingProvenance cfg args number modelId) reconciliation owner).get
      "serving_provenance" = .ok (Sidecar.servingProvenance cfg args number modelId) := rfl
  have hor : (Sidecar.servingProvenance cfg args number modelId).or (.obj []) =
      Sidecar.servingProvenance cfg args number modelId := by
    apply Json.or_of_truthy
    rfl
  rw [pickedName, nameAmong, hblock, Py.ok_bind, hbilateral, Py.ok_bind]
  simp only [hsp, Py.ok_bind, hor, hserved, hrequesting]

theorem requester_notDistinguishable {records : List Json} {record : Json} {nodeId : String}
    {ownNodeId : Option String} (hrecord : record ∈ records)
    (h : pickedName record ownNodeId = .ok (some ⟨.node, .str nodeId⟩)) :
    ¬Distinguishable nodeId ownNodeId records :=
  fun hapart => hapart.notOwn record hrecord _ h rfl rfl

def servedRecord (servedBy : String) : Json :=
  .obj [("model_attestation", .obj [("compute_attestation", .obj [("x-mesh-poc-v1", .obj
    [("role", .str "served"), ("serving_provenance", .obj
      [("served_by_node_id", .str servedBy), ("requesting_party", .str "unknown")])])])])]

theorem pickedName_servedRecord {servedBy nodeId : String}
    (hnamed : isNamed (.str servedBy) = true) (hid : nodeId ≠ "") (hne : servedBy ≠ nodeId) :
    pickedName (servedRecord servedBy) (some nodeId) = .ok (some ⟨.node, .str servedBy⟩) := by
  have hpoc : Stranger.pocBlock (servedRecord servedBy) = .ok (.obj
      [("role", .str "served"), ("serving_provenance", .obj
        [("served_by_node_id", .str servedBy), ("requesting_party", .str "unknown")])]) := rfl
  have helsewhere : (Json.str servedBy).pyEq (.str nodeId) = false := by
    simp [Json.pyEq, hne]
  rw [pickedName, nameAmong, hpoc, Py.ok_bind]
  simp [bilateralName, servedByName, Json.get, Json.getD, List.lookup_cons, Json.truthy, Json.or,
    hnamed, helsewhere, hid]

/-- The ledger of a requester, and one with the records of two peers whose ids begin alike. -/
theorem rows_of_self_and_of_two :
    (∃ capsule, Sidecar.emitServing plainEmit Sidecar.plainDigests
          (Sidecar.plainConfig "node-a" .requester) (Sidecar.plainArgs "u") (0, none) none none =
        .ok capsule ∧
      ¬∃ groups, groupByPeer [capsule] (suppliedId "node-a" true) = .ok groups ∧
        OneEach "node-a" (suppliedId "node-a" true) [capsule] groups) ∧
    ¬∃ groups, groupByPeer [servedRecord "mesh-node-east-01", servedRecord "mesh-node-east-02"]
          (suppliedId "node-a" true) = .ok groups ∧
        OneEach "node-a" (suppliedId "node-a" true)
          [servedRecord "mesh-node-east-01", servedRecord "mesh-node-east-02"] groups := by
  constructor
  · obtain ⟨capsule, hcapsule⟩ : ∃ capsule, Sidecar.emitServing plainEmit Sidecar.plainDigests
        (Sidecar.plainConfig "node-a" .requester) (Sidecar.plainArgs "u") (0, none) none none =
        .ok capsule := ⟨_, rfl⟩
    refine ⟨capsule, hcapsule, ?_⟩
    rintro ⟨groups, hgroups, hone⟩
    have hpicked := pickedName_requester plainEmit_contract hcapsule rfl rfl (by decide)
      (by decide) (suppliedId "node-a" true)
    apply requester_notDistinguishable (List.mem_singleton.mpr rfl) hpicked
    exact distinguishable_of_oneEach hgroups hone
  · rintro ⟨groups, hgroups, hone⟩
    have hpicked : ∀ id : String, isNamed (.str id) = true → id ≠ "node-a" →
        pickedName (servedRecord id) (suppliedId "node-a" true) = .ok (some ⟨.node, .str id⟩) := by
      intro id hnamed hne
      exact pickedName_servedRecord hnamed (by decide) hne
    have hshown : Named.shown ⟨.node, .str "mesh-node-east-01"⟩ =
        Named.shown ⟨.node, .str "mesh-node-east-02"⟩ := congrArg Except.ok (by decide)
    have hsame := (distinguishable_of_oneEach hgroups hone).distinct
      (servedRecord "mesh-node-east-01") List.mem_cons_self
      (servedRecord "mesh-node-east-02") (List.mem_cons_of_mem _ List.mem_cons_self) _ _
      (hpicked _ (by decide) (by decide)) (hpicked _ (by decide) (by decide)) rfl hshown
    exact absurd (Json.str.inj (congrArg Named.ref hsame)) (by decide)

end CapsuleMesh.Pane
