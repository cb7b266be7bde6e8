import Mathlib.Data.List.Chain

/-!
# Folds with independent per-key state

A walk over keyed records that keeps one cell of state for each key is, seen at
a fixed key, the walk over that key's own records.  Records of other keys may
stand anywhere in between.
-/

namespace CapsuleMesh.Library

variable {σ ρ κ ν : Type*} [DecidableEq κ]

/-- The records of one key, in order. -/
def ofKey (key : ρ → κ) (k : κ) (rs : List ρ) : List ρ :=
  rs.filter fun r => decide (key r = k)

@[simp] theorem ofKey_nil (key : ρ → κ) (k : κ) : ofKey key k [] = [] := rfl

@[simp] theorem ofKey_append (key : ρ → κ) (k : κ) (rs ts : List ρ) :
    ofKey key k (rs ++ ts) = ofKey key k rs ++ ofKey key k ts :=
  List.filter_append rs ts

theorem ofKey_cons_same {key : ρ → κ} {k : κ} {r : ρ} (h : key r = k) (rs : List ρ) :
    ofKey key k (r :: rs) = r :: ofKey key k rs := by
  simp [ofKey, h]

theorem ofKey_cons_ne {key : ρ → κ} {k : κ} {r : ρ} (h : key r ≠ k) (rs : List ρ) :
    ofKey key k (r :: rs) = ofKey key k rs := by
  simp [ofKey, h]

theorem ofKey_map {τ : Type*} (key : ρ → κ) (f : τ → ρ) (k : κ) (ts : List τ) :
    ofKey key k (ts.map f) = (ofKey (fun t => key (f t)) k ts).map f := by
  simp only [ofKey, List.filter_map]
  rfl

theorem mem_ofKey {key : ρ → κ} {k : κ} {r : ρ} {rs : List ρ} :
    r ∈ ofKey key k rs ↔ r ∈ rs ∧ key r = k := by
  simp [ofKey]

/-- Of two keys the narrower one selects as many records only if it selects the
same ones. -/
theorem length_ofKey_eq_iff {κ' : Type*} [DecidableEq κ'] {wide : ρ → κ} {narrow : ρ → κ'}
    {k : κ} {k' : κ'} {rs : List ρ} (h : ∀ r ∈ rs, narrow r = k' → wide r = k) :
    (ofKey wide k rs).length = (ofKey narrow k' rs).length ↔
      ∀ r ∈ rs, wide r = k → narrow r = k' := by
  have hnarrow : ofKey narrow k' rs = (ofKey wide k rs).filter fun r => decide (narrow r = k') := by
    rw [ofKey, ofKey, List.filter_filter]
    refine List.filter_congr fun r hr => ?_
    by_cases hk : narrow r = k'
    · simp [hk, h r hr hk]
    · simp [hk]
  have hsub : (ofKey narrow k' rs).Sublist (ofKey wide k rs) := by
    rw [hnarrow]
    exact List.filter_sublist
  constructor
  · intro hlength r hr hwide
    have hmem : r ∈ ofKey wide k rs := mem_ofKey.mpr ⟨hr, hwide⟩
    rw [← hsub.eq_of_length hlength.symm] at hmem
    exact (mem_ofKey.mp hmem).2
  · intro hall
    rw [hnarrow, List.filter_eq_self.mpr]
    intro r hr
    obtain ⟨hr, hwide⟩ := mem_ofKey.mp hr
    simpa using hall r hr hwide

/-- The cell of `k` after the walk depends only on the records of `k`. -/
theorem foldl_view {step : σ → ρ → σ} {key : ρ → κ} (view : σ → κ → ν)
    (cellStep : ν → ρ → ν)
    (hsame : ∀ s r, view (step s r) (key r) = cellStep (view s (key r)) r)
    (hother : ∀ s r k, key r ≠ k → view (step s r) k = view s k)
    (s : σ) (rs : List ρ) (k : κ) :
    view (rs.foldl step s) k = (ofKey key k rs).foldl cellStep (view s k) := by
  induction rs generalizing s with
  | nil => rfl
  | cons r rs ih =>
      rw [List.foldl_cons, ih]
      by_cases hk : key r = k
      · subst hk
        rw [ofKey_cons_same rfl, List.foldl_cons, hsame]
      · rw [ofKey_cons_ne hk, hother s r k hk]

/-- A list of distinct keys holds an entry exactly where it is found. -/
theorem lookup_eq_some_iff_mem {l : List (κ × ν)} (h : (l.map Prod.fst).Nodup) {k : κ} {v : ν} :
    l.lookup k = some v ↔ (k, v) ∈ l := by
  induction l with
  | nil => simp
  | cons entry l ih =>
      obtain ⟨hnotin, hnodup⟩ := List.nodup_cons.mp h
      rw [List.lookup_cons, List.mem_cons]
      by_cases hk : k = entry.1
      · subst hk
        have hmem : (entry.1, v) ∉ l := fun hv => hnotin (List.mem_map.mpr ⟨_, hv, rfl⟩)
        rw [beq_self_eq_true, Option.some.injEq, or_iff_left hmem, Prod.ext_iff]
        exact ⟨fun hv => ⟨rfl, hv.symm⟩, fun hv => hv.2.symm⟩
      · have hne : (k, v) ≠ entry := fun he => hk (congrArg Prod.fst he)
        rw [beq_false_of_ne hk, or_iff_right hne]
        exact ih hnodup

/-- Where the keys are distinct their order does not matter. -/
theorem lookup_perm {l l' : List (κ × ν)} (hperm : l.Perm l') (h : (l.map Prod.fst).Nodup)
    (k : κ) : l.lookup k = l'.lookup k := by
  have h' : (l'.map Prod.fst).Nodup := (hperm.map Prod.fst).nodup_iff.mp h
  ext v
  rw [lookup_eq_some_iff_mem h, lookup_eq_some_iff_mem h', hperm.mem_iff]

/-- A relation between successive selected elements, by where they stand in the
whole list. -/
theorem isChain_filter_iff {p : ρ → Bool} {R : ρ → ρ → Prop} {l : List ρ} :
    (l.filter p).IsChain R ↔
      ∀ before a mid b after, l = before ++ a :: (mid ++ b :: after) → p a = true →
        p b = true → (∀ e ∈ mid, p e = false) → R a b := by
  constructor
  · intro h before a mid b after hl ha hb hmid
    have hnone : mid.filter p = [] := List.filter_eq_nil_iff.mpr fun e he => by simp [hmid e he]
    rw [hl] at h
    simp only [List.filter_append, List.filter_cons_of_pos ha, List.filter_cons_of_pos hb, hnone,
      List.nil_append] at h
    exact (List.isChain_append_cons_cons.mp h).2.1
  · induction l with
    | nil => simp
    | cons x l ih =>
        intro h
        have hrest : (l.filter p).IsChain R := ih fun before a mid b after hl =>
          h (x :: before) a mid b after (by rw [hl]; rfl)
        by_cases hx : p x = true
        · rw [List.filter_cons_of_pos hx]
          refine List.isChain_cons.mpr ⟨?_, hrest⟩
          intro b hb
          obtain ⟨rest, hcons⟩ := List.head?_eq_some_iff.mp hb
          obtain ⟨mid, after, hl, hmid, hpb, -⟩ := List.filter_eq_cons_iff.mp hcons
          exact h [] x mid b after (by rw [hl]; rfl) hx hpb fun e he => by simpa using hmid e he
        · rw [List.filter_cons_of_neg hx]
          exact hrest

end CapsuleMesh.Library
