import CapsuleMesh.Python.Json

/-!
# Equality of values

`==` on values from `json.loads` is reflexive on the values that a program writes
itself (every key once, no `nan`), transitive on all, and symmetric where every key is
there once.
-/

namespace CapsuleMesh.Python.Json

theorem lookup_of_mem_nodup {ms : List (String × Json)} (h : (ms.map Prod.fst).Nodup)
    {m : String × Json} (hm : m ∈ ms) : ms.lookup m.1 = some m.2 := by
  induction ms with
  | nil => cases hm
  | cons n ms ih =>
      rw [List.map_cons, List.nodup_cons] at h
      rcases List.mem_cons.mp hm with rfl | hmem
      · rw [List.lookup_cons, beq_self_eq_true]
      · have hne : m.1 ≠ n.1 := fun heq => h.1 (heq ▸ List.mem_map_of_mem hmem)
        rw [List.lookup_cons, beq_false_of_ne hne]
        exact ih h.2 hmem

theorem pyEqMembers_of_lookup {ms ns : List (String × Json)}
    (h : ∀ m ∈ ms, ns.lookup m.1 = some m.2 ∧ pyEq m.2 m.2 = true) : pyEqMembers ms ns = true := by
  induction ms with
  | nil => rfl
  | cons m ms ih =>
      obtain ⟨k, a⟩ := m
      obtain ⟨hlookup, hself⟩ := h (k, a) (by simp)
      simp only at hlookup hself
      rw [pyEqMembers, hlookup, Bool.and_eq_true]
      exact ⟨hself, ih fun m hm => h m (by simp [hm])⟩

mutual

/-- No key is repeated and no number is `nan`: the value equals itself. -/
def regular : Json → Bool
  | float repr => decide (repr ≠ "nan")
  | arr elems => regularElems elems
  | obj members => decide (members.map Prod.fst).Nodup && regularMembers members
  | _ => true

def regularElems : List Json → Bool
  | [] => true
  | e :: es => regular e && regularElems es

def regularMembers : List (String × Json) → Bool
  | [] => true
  | (_, v) :: ms => regular v && regularMembers ms

end

mutual

theorem pyEq_self : ∀ {j : Json}, j.regular = true → j.pyEq j = true
  | null, _ => rfl
  | bool b, _ => by cases b <;> rfl
  | int n, _ => by simp [pyEq, numEq, asInt]
  | float repr, h => by
      have hnan : repr ≠ "nan" := by simpa [regular] using h
      simp only [pyEq, numEq]
      cases asInt (float repr) <;> simp [hnan]
  | str s, _ => by simp [pyEq]
  | arr elems, h => by
      rw [pyEq]
      exact pyEqElems_self (by simpa [regular] using h)
  | obj members, h => by
      rw [regular, Bool.and_eq_true, decide_eq_true_eq] at h
      simp only [pyEq, decide_true, Bool.true_and]
      refine pyEqMembers_of_lookup fun m hm => ⟨lookup_of_mem_nodup h.1 hm, ?_⟩
      exact pyEq_member_self h.2 hm

theorem pyEqElems_self : ∀ {es : List Json}, regularElems es = true → pyEqElems es es = true
  | [], _ => rfl
  | e :: es, h => by
      rw [regularElems, Bool.and_eq_true] at h
      rw [pyEqElems, Bool.and_eq_true]
      exact ⟨pyEq_self h.1, pyEqElems_self h.2⟩

theorem pyEq_member_self : ∀ {ms : List (String × Json)}, regularMembers ms = true →
    ∀ {m : String × Json}, m ∈ ms → m.2.pyEq m.2 = true
  | (k, v) :: ms, h, m, hm => by
      rw [regularMembers, Bool.and_eq_true] at h
      rcases List.mem_cons.mp hm with rfl | hm
      · exact pyEq_self h.1
      · exact pyEq_member_self h.2 hm

end

theorem regular_of_lookup {ms : List (String × Json)} (h : regularMembers ms = true) {key : String}
    {j : Json} (hj : ms.lookup key = some j) : j.regular = true := by
  induction ms with
  | nil => cases hj
  | cons m ms ih =>
      obtain ⟨k, v⟩ := m
      rw [regularMembers, Bool.and_eq_true] at h
      rw [List.lookup_cons] at hj
      split at hj
      · obtain rfl := Option.some.inj hj
        exact h.1
      · exact ih h.2 hj

theorem regular_of_get {j v : Json} (h : j.regular = true) {key : String}
    (hv : j.get key = .ok v) : v.regular = true := by
  cases j with
  | obj ms =>
      rw [regular, Bool.and_eq_true] at h
      obtain rfl := Except.ok.inj hv
      cases hlookup : ms.lookup key with
      | none => rfl
      | some j => exact regular_of_lookup h.2 hlookup
  | _ => cases hv

theorem numEq_str (j : Json) (s : String) : numEq j (str s) = false := by
  have hs : (str s).asInt = none := rfl
  simp only [numEq, hs]
  cases j.asInt with
  | none => cases j <;> rfl
  | some n => rfl

theorem numEq_null (j : Json) : numEq j null = false := by
  have hnull : null.asInt = none := rfl
  simp only [numEq, hnull]
  cases j.asInt with
  | none => cases j <;> rfl
  | some n => rfl

theorem eq_str_of_pyEq {j : Json} {s : String} (h : j.pyEq (str s) = true) : j = str s := by
  cases j <;> simp_all [pyEq, numEq_str]

theorem eq_null_of_pyEq {j : Json} (h : j.pyEq null = true) : j = null := by
  cases j <;> simp_all [pyEq, numEq_null]

/-! ## Equality is transitive -/

theorem numEq_trans {a b c : Json} (hab : numEq a b = true) (hbc : numEq b c = true) :
    numEq a c = true := by
  unfold numEq at *
  cases ha : a.asInt <;> cases hb : b.asInt <;> cases hc : c.asInt <;>
    simp only [ha, hb, hc, Bool.false_eq_true] at hab hbc ⊢
  · cases a <;> cases b <;> simp at hab
    cases c <;> simp at hbc
    obtain ⟨rfl, hnan⟩ := hab
    simpa [hnan] using hbc.1
  · simp only [decide_eq_true_eq] at *
    exact hab.trans hbc

theorem pyEq_of_numEq {a b : Json} (h : numEq a b = true) : pyEq a b = true := by
  cases a <;> cases b <;> first | exact h | simp [numEq, asInt] at h

/-- What `==` compares, by the types of the two values. -/
theorem pyEq_cases {a b : Json} (h : pyEq a b = true) :
    (a = null ∧ b = null) ∨ (∃ s, a = str s ∧ b = str s) ∨
      (∃ as bs, a = arr as ∧ b = arr bs ∧ pyEqElems as bs = true) ∨
      (∃ ms ns, a = obj ms ∧ b = obj ns ∧ ms.length = ns.length ∧ pyEqMembers ms ns = true) ∨
      numEq a b = true := by
  cases a <;> cases b <;> simp_all [pyEq]

theorem pyEqMembers_lookup {ms ns : List (String × Json)} (h : pyEqMembers ms ns = true)
    {key : String} {a : Json} (ha : ms.lookup key = some a) :
    ∃ b, ns.lookup key = some b ∧ pyEq a b = true := by
  induction ms with
  | nil => cases ha
  | cons m ms ih =>
      obtain ⟨k, v⟩ := m
      rw [pyEqMembers, Bool.and_eq_true] at h
      rw [List.lookup_cons] at ha
      split at ha
      · next hkey =>
          obtain rfl := Option.some.inj ha
          obtain rfl : key = k := beq_iff_eq.mp hkey
          cases hlookup : ns.lookup key with
          | none => simp [hlookup] at h
          | some b => exact ⟨b, rfl, by simpa [hlookup] using h.1⟩
      · exact ih h.2 ha

/-- The types of numbers; `True` is one. -/
def isNumber : Json → Bool
  | bool _ => true
  | int _ => true
  | float _ => true
  | _ => false

theorem isNumber_of_numEq {a b : Json} (h : numEq a b = true) :
    a.isNumber = true ∧ b.isNumber = true := by
  unfold numEq at h
  cases ha : a.asInt <;> cases hb : b.asInt <;> simp only [ha, hb, Bool.false_eq_true] at h
  · cases a <;> cases b <;> simp_all [isNumber]
  · cases a <;> cases b <;> simp_all [isNumber, asInt]

/-- A number is equal to numbers only. -/
theorem numEq_of_isNumber {a b : Json} (hnumber : a.isNumber = true) (h : pyEq a b = true) :
    numEq a b = true := by
  rcases pyEq_cases h with ⟨rfl, -⟩ | ⟨_, rfl, -⟩ | ⟨_, _, rfl, -⟩ | ⟨_, _, rfl, -⟩ | h
  · cases hnumber
  · cases hnumber
  · cases hnumber
  · cases hnumber
  · exact h

theorem pyEq_trans_number {a b c : Json} (hnumber : a.isNumber = true) (hab : pyEq a b = true)
    (hbc : pyEq b c = true) : pyEq a c = true := by
  have hab := numEq_of_isNumber hnumber hab
  have hbc := numEq_of_isNumber (isNumber_of_numEq hab).2 hbc
  exact pyEq_of_numEq (numEq_trans hab hbc)

mutual

theorem pyEq_trans : ∀ {a b c : Json}, pyEq a b = true → pyEq b c = true → pyEq a c = true
  | null, b, c, hab, hbc => by
      rcases pyEq_cases hab with ⟨-, rfl⟩ | ⟨_, h, -⟩ | ⟨_, _, h, -⟩ | ⟨_, _, h, -⟩ | h
      · exact hbc
      all_goals first | cases h | cases (isNumber_of_numEq h).1
  | str s, b, c, hab, hbc => by
      rcases pyEq_cases hab with ⟨h, -⟩ | ⟨t, h, rfl⟩ | ⟨_, _, h, -⟩ | ⟨_, _, h, -⟩ | h
      · cases h
      · rw [h]
        exact hbc
      all_goals first | cases h | cases (isNumber_of_numEq h).1
  | arr as, b, c, hab, hbc => by
      rcases pyEq_cases hab with ⟨h, -⟩ | ⟨_, h, -⟩ | ⟨_, bs, h, rfl, hs⟩ | ⟨_, _, h, -⟩ | h
      · cases h
      · cases h
      · obtain rfl := Json.arr.inj h
        rcases pyEq_cases hbc with ⟨h, -⟩ | ⟨_, h, -⟩ | ⟨_, cs, h, rfl, hs'⟩ | ⟨_, _, h, -⟩ | h
        · cases h
        · cases h
        · obtain rfl := Json.arr.inj h
          rw [pyEq]
          exact pyEqElems_trans hs hs'
        · cases h
        · cases (isNumber_of_numEq h).1
      · cases h
      · cases (isNumber_of_numEq h).1
  | obj ms, b, c, hab, hbc => by
      rcases pyEq_cases hab with ⟨h, -⟩ | ⟨_, h, -⟩ | ⟨_, _, h, -⟩ | ⟨_, ns, h, rfl, hlen, hs⟩ | h
      · cases h
      · cases h
      · cases h
      · obtain rfl := Json.obj.inj h
        rcases pyEq_cases hbc with ⟨h, -⟩ | ⟨_, h, -⟩ | ⟨_, _, h, -⟩ | ⟨_, ps, h, rfl, hlen', hs'⟩ | h
        · cases h
        · cases h
        · cases h
        · obtain rfl := Json.obj.inj h
          rw [pyEq, Bool.and_eq_true, decide_eq_true_eq]
          exact ⟨hlen.trans hlen', pyEqMembers_trans hs hs'⟩
        · cases (isNumber_of_numEq h).1
      · cases (isNumber_of_numEq h).1
  | bool _, _, _, hab, hbc => pyEq_trans_number rfl hab hbc
  | int _, _, _, hab, hbc => pyEq_trans_number rfl hab hbc
  | float _, _, _, hab, hbc => pyEq_trans_number rfl hab hbc

theorem pyEqElems_trans : ∀ {as bs cs : List Json}, pyEqElems as bs = true →
    pyEqElems bs cs = true → pyEqElems as cs = true
  | [], bs, cs, h, h' => by
      cases bs <;> simp_all [pyEqElems]
  | a :: as, bs, cs, h, h' => by
      cases bs with
      | nil => simp [pyEqElems] at h
      | cons b bs =>
        cases cs with
        | nil => simp [pyEqElems] at h'
        | cons c cs =>
          rw [pyEqElems, Bool.and_eq_true] at h h' ⊢
          exact ⟨pyEq_trans h.1 h'.1, pyEqElems_trans h.2 h'.2⟩

theorem pyEqMembers_trans : ∀ {ms ns ps : List (String × Json)}, pyEqMembers ms ns = true →
    pyEqMembers ns ps = true → pyEqMembers ms ps = true
  | [], _, _, _, _ => rfl
  | (k, a) :: ms, ns, ps, h, h' => by
      rw [pyEqMembers, Bool.and_eq_true] at h ⊢
      refine ⟨?_, pyEqMembers_trans h.2 h'⟩
      cases hb : ns.lookup k with
      | none => simp [hb] at h
      | some b =>
        obtain ⟨c, hc, hbc⟩ := pyEqMembers_lookup h' hb
        rw [hc]
        rw [hb] at h
        exact pyEq_trans h.1 hbc

end

/-! ## Equality is symmetric -/

theorem numEq_comm (a b : Json) : numEq a b = numEq b a := by
  unfold numEq
  cases a.asInt <;> cases b.asInt
  · cases a <;> cases b <;> try rfl
    next r s =>
      by_cases h : r = s
      · rw [h]
      · simp [h, Ne.symm h]
  · rfl
  · rfl
  · simp [eq_comm]

theorem eq_str_of_str_pyEq {s : String} {j : Json} (h : (str s).pyEq j = true) : j = str s := by
  cases j <;> simp_all [pyEq, numEq_comm (str s), numEq_str]

theorem eq_null_of_null_pyEq {j : Json} (h : null.pyEq j = true) : j = null := by
  cases j <;> simp_all [pyEq, numEq_comm null, numEq_null]

mutual

/-- Every object in the value has each key once, as a `dict` does. -/
def keyedOnce : Json → Bool
  | arr elems => keyedOnceElems elems
  | obj members => decide (members.map Prod.fst).Nodup && keyedOnceMembers members
  | _ => true

def keyedOnceElems : List Json → Bool
  | [] => true
  | e :: es => keyedOnce e && keyedOnceElems es

def keyedOnceMembers : List (String × Json) → Bool
  | [] => true
  | (_, v) :: ms => keyedOnce v && keyedOnceMembers ms

end

theorem keyedOnce_of_mem {ms : List (String × Json)} (h : keyedOnceMembers ms = true)
    {m : String × Json} (hm : m ∈ ms) : m.2.keyedOnce = true := by
  induction ms with
  | nil => cases hm
  | cons n ms ih =>
      rw [keyedOnceMembers, Bool.and_eq_true] at h
      rcases List.mem_cons.mp hm with rfl | hm
      · exact h.1
      · exact ih h.2 hm

/-- Members that are as many as the others, and found among them, are all of them. -/
theorem pyEqMembers_symm_of {ms ns : List (String × Json)} (hms : (ms.map Prod.fst).Nodup)
    (hns : (ns.map Prod.fst).Nodup) (hlength : ms.length = ns.length)
    (h : pyEqMembers ms ns = true)
    (hsymm : ∀ m ∈ ms, ∀ n ∈ ns, pyEq m.2 n.2 = true → pyEq n.2 m.2 = true) :
    pyEqMembers ns ms = true := by
  have hkeys : ns.map Prod.fst ⊆ ms.map Prod.fst := by
    have hsub : ms.map Prod.fst ⊆ ns.map Prod.fst := by
      intro key hkey
      obtain ⟨m, hm, rfl⟩ := List.mem_map.mp hkey
      obtain ⟨b, hb, -⟩ := pyEqMembers_lookup h (lookup_of_mem_nodup hms hm)
      obtain ⟨before, after, rfl, -⟩ := List.lookup_eq_some_iff.mp hb
      simp
    have hperm := (List.subperm_of_subset hms hsub).perm_of_length_le (by simp [hlength])
    exact hperm.symm.subset
  suffices hall : ∀ ps, ps ⊆ ns → pyEqMembers ps ms = true from hall ns (List.Subset.refl ns)
  intro ps hps
  induction ps with
  | nil => rfl
  | cons n ps ih =>
      have hn : n ∈ ns := hps List.mem_cons_self
      obtain ⟨m, hm, hkey⟩ := List.mem_map.mp (hkeys (List.mem_map_of_mem hn))
      have hlookup := lookup_of_mem_nodup hms hm
      obtain ⟨b, hb, heq⟩ := pyEqMembers_lookup h hlookup
      rw [hkey, lookup_of_mem_nodup hns hn] at hb
      obtain rfl := Option.some.inj hb
      rw [pyEqMembers, Bool.and_eq_true, ← hkey, hlookup]
      exact ⟨hsymm m hm n hn heq, ih fun p hp => hps (List.mem_cons_of_mem n hp)⟩

mutual

theorem pyEq_symm : ∀ {a b : Json}, a.keyedOnce = true → b.keyedOnce = true →
    pyEq a b = true → pyEq b a = true
  | arr as, b, ha, hb, heq => by
      rcases pyEq_cases heq with ⟨h, -⟩ | ⟨_, h, -⟩ | ⟨_, bs, h, rfl, hs⟩ | ⟨_, _, h, -⟩ | h
      · cases h
      · cases h
      · obtain rfl := Json.arr.inj h
        rw [pyEq]
        exact pyEqElems_symm ha hb hs
      · cases h
      · cases (isNumber_of_numEq h).1
  | obj ms, b, ha, hb, heq => by
      rcases pyEq_cases heq with ⟨h, -⟩ | ⟨_, h, -⟩ | ⟨_, _, h, -⟩ | ⟨_, ns, h, rfl, hlen, hs⟩ | h
      · cases h
      · cases h
      · cases h
      · obtain rfl := Json.obj.inj h
        rw [keyedOnce, Bool.and_eq_true, decide_eq_true_eq] at ha hb
        rw [pyEq, Bool.and_eq_true, decide_eq_true_eq]
        refine ⟨hlen.symm, pyEqMembers_symm_of ha.1 hb.1 hlen hs ?_⟩
        intro m hm n hn
        exact pyEq_member_symm ha.2 hm (keyedOnce_of_mem hb.2 hn)
      · cases (isNumber_of_numEq h).1
  | null, b, _, _, heq => by
      rcases pyEq_cases heq with ⟨-, rfl⟩ | ⟨_, h, -⟩ | ⟨_, _, h, -⟩ | ⟨_, _, h, -⟩ | h
      · rfl
      all_goals first | cases h | cases (isNumber_of_numEq h).1
  | str s, b, _, _, heq => by
      rcases pyEq_cases heq with ⟨h, -⟩ | ⟨t, h, rfl⟩ | ⟨_, _, h, -⟩ | ⟨_, _, h, -⟩ | h
      · cases h
      · rw [h]
        simp [pyEq]
      all_goals first | cases h | cases (isNumber_of_numEq h).1
  | bool c, b, _, _, h => pyEq_of_numEq (numEq_comm (bool c) b ▸ numEq_of_isNumber rfl h)
  | int n, b, _, _, h => pyEq_of_numEq (numEq_comm (int n) b ▸ numEq_of_isNumber rfl h)
  | float r, b, _, _, h => pyEq_of_numEq (numEq_comm (float r) b ▸ numEq_of_isNumber rfl h)

theorem pyEqElems_symm : ∀ {as bs : List Json}, keyedOnceElems as = true →
    keyedOnceElems bs = true → pyEqElems as bs = true → pyEqElems bs as = true
  | [], bs, _, _, h => by
      cases bs <;> simp_all [pyEqElems]
  | a :: as, bs, ha, hb, h => by
      cases bs with
      | nil => simp [pyEqElems] at h
      | cons b bs =>
        rw [keyedOnceElems, Bool.and_eq_true] at ha hb
        rw [pyEqElems, Bool.and_eq_true] at h ⊢
        exact ⟨pyEq_symm ha.1 hb.1 h.1, pyEqElems_symm ha.2 hb.2 h.2⟩

theorem pyEq_member_symm : ∀ {ms : List (String × Json)}, keyedOnceMembers ms = true →
    ∀ {m : String × Json}, m ∈ ms → ∀ {b : Json}, b.keyedOnce = true → pyEq m.2 b = true →
      pyEq b m.2 = true
  | (k, v) :: ms, hms, m, hm, b, hb, h => by
      rw [keyedOnceMembers, Bool.and_eq_true] at hms
      rcases List.mem_cons.mp hm with rfl | hm
      · exact pyEq_symm hms.1 hb h
      · exact pyEq_member_symm hms.2 hm hb h

end

theorem pyEq_comm {a b : Json} (ha : a.keyedOnce = true) (hb : b.keyedOnce = true) :
    pyEq a b = pyEq b a :=
  Bool.eq_iff_iff.mpr ⟨pyEq_symm ha hb, pyEq_symm hb ha⟩

end CapsuleMesh.Python.Json
