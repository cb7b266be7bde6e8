import CapsuleMesh.Python.Json
import CapsuleMesh.Library.KeyedFold

/-!
# Per-pair sequence counters

`SequenceCounterStore` of `sequence_counter.py`: the last number issued for each
`(self, counterparty)` pair.  `nextSeq` is the body of the locked section, so it
is one atomic step for concurrent callers.  A run of calls issues to each pair,
whatever calls for other pairs stand in between, the numbers `1, 2, 3, ...`.
-/

namespace CapsuleMesh.Sequence

open Python Library

def UNKNOWN_COUNTERPARTY : String := "unknown"

/-- `counterparty_id or UNKNOWN_COUNTERPARTY`. -/
def orUnknown : Option String → String
  | some s => if s = "" then UNKNOWN_COUNTERPARTY else s
  | none => UNKNOWN_COUNTERPARTY

def pairKey (selfId : String) (counterpartyId : Option String) : String :=
  selfId ++ "::" ++ orUnknown counterpartyId

/-- `not pair.endswith("::unknown")`. -/
def pairCounterpartyAuthenticated (pair : String) : Bool :=
  !("::" ++ UNKNOWN_COUNTERPARTY).toList.isSuffixOf pair.toList

theorem pairKey_right_inj {selfId : String} {a b : Option String} :
    pairKey selfId a = pairKey selfId b ↔ orUnknown a = orUnknown b := by
  simp [pairKey]

@[simp] theorem orUnknown_orUnknown (o : Option String) :
    orUnknown (some (orUnknown o)) = orUnknown o := by
  unfold orUnknown
  cases o with
  | none => decide
  | some s =>
      by_cases hs : s = ""
      · simp [hs, UNKNOWN_COUNTERPARTY]
      · simp [hs]

@[simp] theorem orUnknown_unknown : orUnknown (some "unknown") = "unknown" := by decide

theorem str_or_unknown (s : String) :
    (Json.str s).or (.str UNKNOWN_COUNTERPARTY) = .str (orUnknown (some s)) := by
  by_cases hs : s = "" <;> simp [Json.or, orUnknown, hs]

/-- What a record states as its `prev_seq`: a number or `None`, as one is issued, or
anything else; of a text, a list or a dictionary only the `repr` matters. -/
inductive PrevSeq where
  | issued (prev : Option Int)
  | bool (b : Bool)
  | float (repr : String)
  | other (repr : String)
deriving DecidableEq

instance : Coe (Option Int) PrevSeq := ⟨.issued⟩

/-- What one record tells the continuity walk: the pair it was sealed under, its
number and what it claims to follow. -/
structure PairSeq where
  selfId : String
  counterpartyId : String
  seq : Int
  prevSeq : PrevSeq
deriving DecidableEq

def PairSeq.key (r : PairSeq) : String := pairKey r.selfId (some r.counterpartyId)

/-- `_state`: the last issued `seq` of each pair. -/
abbrev SequenceCounterStore := Dict String Int

/-- The number issued, the pair's previous number and the updated store. -/
def nextSeq (store : SequenceCounterStore) (selfId : String)
    (counterpartyId : Option String) : (Int × Option Int) × SequenceCounterStore :=
  let key := pairKey selfId counterpartyId
  let prevSeq := store.lookup key
  let seq := prevSeq.getD 0 + 1
  ((seq, prevSeq), store.insert key seq)

theorem nextSeq_lookup_same (store : SequenceCounterStore) (selfId : String)
    (counterpartyId : Option String) :
    (nextSeq store selfId counterpartyId).2.lookup (pairKey selfId counterpartyId) =
      some ((store.lookup (pairKey selfId counterpartyId)).getD 0 + 1) := by
  simp [nextSeq]

theorem nextSeq_lookup_ne (store : SequenceCounterStore) {selfId : String}
    {counterpartyId : Option String} {key : String}
    (h : key ≠ pairKey selfId counterpartyId) :
    (nextSeq store selfId counterpartyId).2.lookup key = store.lookup key := by
  simp [nextSeq, h]

/-- The records a list of `next_seq` calls leads to, from a given store. -/
def issueFrom : SequenceCounterStore → List (String × Option String) → List PairSeq
  | _, [] => []
  | store, (selfId, counterpartyId) :: calls =>
      let ((seq, prevSeq), store') := nextSeq store selfId counterpartyId
      ⟨selfId, orUnknown counterpartyId, seq, prevSeq⟩ :: issueFrom store' calls

/-- The records issued from an empty store. -/
def issued (calls : List (String × Option String)) : List PairSeq := issueFrom ∅ calls

/-- Each record follows the one before it by one; `last` is the number that the
first of them follows. -/
def Consecutive : Option Int → List PairSeq → Prop
  | _, [] => True
  | last, r :: rs => r.prevSeq = .issued last ∧ r.seq = last.getD 0 + 1 ∧ Consecutive (some r.seq) rs

/-- A record as some call of `next_seq` on an honestly kept store issues it. -/
def PairSeq.Honest (r : PairSeq) : Prop :=
  1 ≤ r.seq ∧ r.prevSeq = .issued (if r.seq = 1 then none else some (r.seq - 1))

theorem consecutive_append (last : Option Int) (rs ts : List PairSeq) :
    Consecutive last (rs ++ ts) ↔
      Consecutive last rs ∧ Consecutive ((rs.getLast?.map PairSeq.seq).or last) ts := by
  induction rs generalizing last with
  | nil => simp [Consecutive]
  | cons r rs ih =>
      have hlast : (((r :: rs).getLast?.map PairSeq.seq).or last) =
          (rs.getLast?.map PairSeq.seq).or (some r.seq) := by
        cases rs with
        | nil => simp
        | cons t rs =>
          rw [List.getLast?_cons_cons]
          cases h : (t :: rs).getLast? with
          | none => simp at h
          | some x => simp
      simp only [List.cons_append, Consecutive, ih, hlast, and_assoc]

/-- The `i`-th number of a consecutive stream from an empty store. -/
theorem Consecutive.seq_getElem {rs : List PairSeq} (h : Consecutive none rs)
    {i : ℕ} (hi : i < rs.length) : rs[i].seq = i + 1 := by
  have general : ∀ (rs : List PairSeq) (last : Option Int), Consecutive last rs →
      ∀ (i : ℕ) (hi : i < rs.length), rs[i].seq = last.getD 0 + i + 1 := by
    intro rs
    induction rs with
    | nil => intro last _ i hi; simp at hi
    | cons r rs ih =>
        rintro last ⟨_, hseq, hrest⟩ i hi
        cases i with
        | zero => simpa using hseq
        | succ i =>
          have := ih _ hrest i (by simpa using hi)
          simp only [Option.getD_some, hseq] at this
          simp only [List.getElem_cons_succ, this]
          omega
  simpa using general rs none h i hi

/-- A record's number is its place in the stream. -/
theorem Consecutive.seq_eq_length {before after : List PairSeq} {r : PairSeq}
    (h : Consecutive none (before ++ r :: after)) : r.seq = before.length + 1 := by
  have hi : before.length < (before ++ r :: after).length := by simp
  simpa using h.seq_getElem hi

/-- The numbers of a consecutive stream are exactly those up to its length. -/
theorem Consecutive.exists_seq_iff {rs : List PairSeq} (h : Consecutive none rs) {j : Int} :
    (∃ r ∈ rs, r.seq = j) ↔ 1 ≤ j ∧ j ≤ rs.length := by
  constructor
  · rintro ⟨r, hr, rfl⟩
    obtain ⟨i, hi, rfl⟩ := List.mem_iff_getElem.mp hr
    rw [h.seq_getElem hi]
    omega
  · rintro ⟨hpos, hle⟩
    have hi : (j - 1).toNat < rs.length := by omega
    refine ⟨rs[(j - 1).toNat], List.getElem_mem _, ?_⟩
    rw [h.seq_getElem hi]
    omega

theorem Consecutive.length_eq_getLast {rs : List PairSeq} (h : Consecutive none rs)
    (hne : rs ≠ []) : (rs.getLast hne).seq = rs.length := by
  have hpos := List.length_pos_of_ne_nil hne
  rw [List.getLast_eq_getElem, h.seq_getElem]
  omega

/-- An honest record continues a stream exactly when its number is the next one. -/
theorem Consecutive.concat_iff {rs : List PairSeq} (h : Consecutive none rs) {r : PairSeq}
    (hr : r.Honest) : Consecutive none (rs ++ [r]) ↔ r.seq = rs.length + 1 := by
  obtain ⟨hpos, hprev⟩ := hr
  rw [consecutive_append]
  simp only [h, true_and, Consecutive, and_true, Option.or_none]
  cases hlast : rs.getLast? with
  | none =>
      obtain rfl := List.getLast?_eq_none_iff.mp hlast
      simp only [Option.map_none, Option.getD_none, List.length_nil, hprev]
      constructor
      · rintro ⟨-, hseq⟩
        simpa using hseq
      · intro hseq
        have hone : r.seq = 1 := by simpa using hseq
        simp [hone]
  | some x =>
      have hne : rs ≠ [] := by
        rintro rfl
        simp at hlast
      have hx : x.seq = rs.length := by
        rw [← h.length_eq_getLast hne]
        rw [List.getLast?_eq_some_getLast hne] at hlast
        rw [Option.some.inj hlast]
      have hlen := List.length_pos_of_ne_nil hne
      simp only [Option.map_some, Option.getD_some, hx, hprev]
      constructor
      · rintro ⟨-, hseq⟩
        exact hseq
      · intro hseq
        refine ⟨?_, hseq⟩
        rw [if_neg (by omega), hseq]
        simp

/-- After a positive number every record of a consecutive stream is honest. -/
theorem Consecutive.honest_of_pos {rs : List PairSeq} {n : Int} (hn : 1 ≤ n)
    (h : Consecutive (some n) rs) : ∀ r ∈ rs, r.Honest := by
  induction rs generalizing n with
  | nil => simp
  | cons r rs ih =>
      obtain ⟨hprev, hseq, hrest⟩ := h
      simp only [Option.getD_some] at hseq
      intro t ht
      rcases List.mem_cons.mp ht with rfl | ht
      · refine ⟨by omega, ?_⟩
        have hlast : t.seq - 1 = n := by omega
        rw [hprev, if_neg (by omega), hlast]
      · exact ih (by omega) hrest t ht

theorem Consecutive.honest {rs : List PairSeq} (h : Consecutive none rs) : ∀ r ∈ rs, r.Honest := by
  cases rs with
  | nil => simp
  | cons r rs =>
      obtain ⟨hprev, hseq, hrest⟩ := h
      simp only [Option.getD_none, Int.zero_add] at hseq
      intro t ht
      rcases List.mem_cons.mp ht with rfl | ht
      · exact ⟨by omega, by rw [hprev, if_pos hseq]⟩
      · exact Consecutive.honest_of_pos (by omega) hrest t ht

theorem Consecutive.pairwise_of_some {rs : List PairSeq} {n : Int}
    (h : Consecutive (some n) rs) :
    (∀ r ∈ rs, n < r.seq) ∧ rs.Pairwise fun a b => a.seq < b.seq := by
  induction rs generalizing n with
  | nil => simp
  | cons r rs ih =>
      obtain ⟨_, hseq, hrest⟩ := h
      simp only [Option.getD_some] at hseq
      obtain ⟨hgt, hpair⟩ := ih hrest
      refine ⟨?_, List.pairwise_cons.mpr ⟨hgt, hpair⟩⟩
      intro t ht
      rcases List.mem_cons.mp ht with rfl | ht
      · omega
      · have := hgt t ht
        omega

theorem Consecutive.pairwise {rs : List PairSeq} (h : Consecutive none rs) :
    rs.Pairwise fun a b => a.seq < b.seq := by
  cases rs with
  | nil => simp
  | cons r rs =>
      obtain ⟨hgt, hpair⟩ := Consecutive.pairwise_of_some h.2.2
      exact List.pairwise_cons.mpr ⟨hgt, hpair⟩

/-- Each pair's records are consecutive, whatever other calls were made. -/
theorem consecutive_issueFrom (store : SequenceCounterStore)
    (calls : List (String × Option String)) (k : String) :
    Consecutive (store.lookup k) (ofKey PairSeq.key k (issueFrom store calls)) := by
  induction calls generalizing store with
  | nil => simp [issueFrom, Consecutive]
  | cons call calls ih =>
      obtain ⟨selfId, counterpartyId⟩ := call
      have hkey : (PairSeq.mk selfId (orUnknown counterpartyId)
          ((store.lookup (pairKey selfId counterpartyId)).getD 0 + 1)
          (store.lookup (pairKey selfId counterpartyId))).key =
          pairKey selfId counterpartyId := by
        simp [PairSeq.key, pairKey]
      simp only [issueFrom, nextSeq]
      by_cases hk : pairKey selfId counterpartyId = k
      · subst hk
        rw [ofKey_cons_same hkey]
        refine ⟨rfl, rfl, ?_⟩
        have := ih (nextSeq store selfId counterpartyId).2
        rwa [nextSeq_lookup_same] at this
      · rw [ofKey_cons_ne (by rw [hkey]; exact hk)]
        have := ih (nextSeq store selfId counterpartyId).2
        rwa [nextSeq_lookup_ne _ (Ne.symm hk)] at this

theorem consecutive_issued (calls : List (String × Option String)) (k : String) :
    Consecutive none (ofKey PairSeq.key k (issued calls)) :=
  consecutive_issueFrom ∅ calls k

end CapsuleMesh.Sequence
