import Mathlib.Data.List.Infix
import Mathlib.Tactic.Cases

/-!
# Bisection

A binary search for the last position at which a predicate holds, when the predicate holds up to
that position and nowhere after it, and the longest common prefix of two lists, which is such a
position.
-/

namespace CapsuleMesh.Library

section

variable (p : ℕ → Prop)

/-- The search loop, from the bounds it starts with to the position it ends at. -/
inductive Bisects : (lo hi result : ℕ) → Prop
  | done {lo hi : ℕ} (h : hi ≤ lo) : Bisects lo hi lo
  | up {lo hi r : ℕ} (h : lo < hi) (hp : p ((lo + hi + 1) / 2))
      (rest : Bisects ((lo + hi + 1) / 2) hi r) : Bisects lo hi r
  | down {lo hi r : ℕ} (h : lo < hi) (hp : ¬ p ((lo + hi + 1) / 2))
      (rest : Bisects lo ((lo + hi + 1) / 2 - 1) r) : Bisects lo hi r

/-- The same loop, for so many rounds. -/
def bisect [DecidablePred p] : (rounds lo hi : ℕ) → ℕ
  | 0, lo, _ => lo
  | rounds + 1, lo, hi =>
      if lo < hi then
        let mid := (lo + hi + 1) / 2
        if p mid then bisect rounds mid hi else bisect rounds lo (mid - 1)
      else lo

/-- `k` is the last position up to `hi` at which `p` holds, and `p` holds before it. -/
structure LastUpTo (hi k : ℕ) : Prop where
  le : k ≤ hi
  holds : ∀ j ≤ k, p j
  fails : ∀ j ≤ hi, k < j → ¬ p j

end

variable {p : ℕ → Prop}

theorem LastUpTo.up {lo hi k : ℕ} (h : LastUpTo p hi k) (hlo : lo < hi)
    (hp : p ((lo + hi + 1) / 2)) : (lo + hi + 1) / 2 ≤ k := by
  by_contra hlater
  apply h.fails _ _ _ hp
  · omega
  · omega

theorem LastUpTo.down {lo hi k : ℕ} (h : LastUpTo p hi k) (hlo : lo < hi)
    (hp : ¬ p ((lo + hi + 1) / 2)) : LastUpTo p ((lo + hi + 1) / 2 - 1) k where
  le := by
    have hbefore : ¬ (lo + hi + 1) / 2 ≤ k := fun hle => hp (h.holds _ hle)
    omega
  holds := h.holds
  fails := by
    intro j hj
    apply h.fails
    omega

/-- The loop ends, and it ends at the last position. -/
theorem LastUpTo.bisects {lo hi k : ℕ} (h : LastUpTo p hi k) (hlo : lo ≤ k) :
    Bisects p lo hi k := by
  induction hn : hi - lo using Nat.strong_induction_on generalizing lo hi with
  | _ n ih =>
      rcases Nat.lt_or_ge lo hi with hlt | hge
      · by_cases hp : p ((lo + hi + 1) / 2)
        · apply Bisects.up hlt hp
          exact ih _ (by omega) h (h.up hlt hp) rfl
        · apply Bisects.down hlt hp
          exact ih _ (by omega) (h.down hlt hp) hlo rfl
      · obtain rfl : k = lo := by
          have hle := h.le
          omega
        exact Bisects.done hge

/-- As many rounds as there are positions between the bounds are enough. -/
theorem Bisects.bisect_eq [DecidablePred p] {lo hi r rounds : ℕ} (h : Bisects p lo hi r)
    (hrounds : hi - lo ≤ rounds) : bisect p rounds lo hi = r := by
  induction h generalizing rounds with
  | done h =>
      cases rounds with
      | zero => rfl
      | succ rounds => rw [bisect, if_neg (Nat.not_lt.mpr h)]
  | up h hp _ ih =>
      cases rounds with
      | zero => omega
      | succ rounds =>
        rw [bisect, if_pos h, if_pos hp]
        apply ih
        omega
  | down h hp _ ih =>
      cases rounds with
      | zero => omega
      | succ rounds =>
        rw [bisect, if_pos h, if_neg hp]
        apply ih
        omega

/-! ## The longest common prefix -/

section

variable {α : Type*} [DecidableEq α]

def commonPrefix : List α → List α → List α
  | a :: as, b :: bs => if a = b then a :: commonPrefix as bs else []
  | _, _ => []

theorem commonPrefix_cons_same (a : α) (as bs : List α) :
    commonPrefix (a :: as) (a :: bs) = a :: commonPrefix as bs := by
  rw [commonPrefix, if_pos rfl]

theorem commonPrefix_cons_ne {a b : α} (h : a ≠ b) (as bs : List α) :
    commonPrefix (a :: as) (b :: bs) = [] := by
  rw [commonPrefix, if_neg h]

theorem commonPrefix_comm (as bs : List α) : commonPrefix as bs = commonPrefix bs as := by
  induction as generalizing bs with
  | nil => cases bs <;> rfl
  | cons a as ih =>
      cases bs with
      | nil => rfl
      | cons b bs =>
        by_cases h : a = b
        · subst h
          rw [commonPrefix_cons_same, commonPrefix_cons_same, ih]
        · rw [commonPrefix_cons_ne h, commonPrefix_cons_ne (Ne.symm h)]

theorem commonPrefix_isPrefix (as bs : List α) : commonPrefix as bs <+: as := by
  induction as generalizing bs with
  | nil => cases bs <;> exact List.nil_prefix
  | cons a as ih =>
      cases bs with
      | nil => exact List.nil_prefix
      | cons b bs =>
        by_cases h : a = b
        · subst h
          rw [commonPrefix_cons_same, List.prefix_cons_inj]
          exact ih bs
        · rw [commonPrefix_cons_ne h]
          exact List.nil_prefix

theorem commonPrefix_isPrefix_right (as bs : List α) : commonPrefix as bs <+: bs := by
  rw [commonPrefix_comm]
  exact commonPrefix_isPrefix bs as

/-- It is the longest: every common prefix is a prefix of it. -/
theorem isPrefix_commonPrefix {p as bs : List α} (has : p <+: as) (hbs : p <+: bs) :
    p <+: commonPrefix as bs := by
  induction p generalizing as bs with
  | nil => exact List.nil_prefix
  | cons x p ih =>
      obtain ⟨as, rfl⟩ := has
      obtain ⟨bs, rfl⟩ := hbs
      rw [List.cons_append, List.cons_append, commonPrefix_cons_same, List.prefix_cons_inj]
      apply ih
      · exact List.prefix_append p as
      · exact List.prefix_append p bs

theorem take_length_commonPrefix (as bs : List α) :
    as.take (commonPrefix as bs).length = commonPrefix as bs :=
  (List.prefix_iff_eq_take.mp (commonPrefix_isPrefix as bs)).symm

theorem length_commonPrefix_le (as bs : List α) :
    (commonPrefix as bs).length ≤ min as.length bs.length := by
  have hleft := (commonPrefix_isPrefix as bs).length_le
  have hright := (commonPrefix_isPrefix_right as bs).length_le
  omega

/-- The lists agree so far as the common prefix goes and no further. -/
theorem lastUpTo_commonPrefix (as bs : List α) :
    LastUpTo (fun k => as.take k = bs.take k) (min as.length bs.length)
      (commonPrefix as bs).length where
  le := length_commonPrefix_le as bs
  holds := by
    intro j hj
    have hsame : as.take (commonPrefix as bs).length = bs.take (commonPrefix as bs).length := by
      rw [take_length_commonPrefix, commonPrefix_comm, take_length_commonPrefix]
    have hcut := congrArg (List.take j) hsame
    rwa [List.take_take, List.take_take, Nat.min_eq_left hj] at hcut
  fails := by
    intro j hj hlater hsame
    have hlonger : as.take j <+: commonPrefix as bs := by
      apply isPrefix_commonPrefix
      · exact List.take_prefix j as
      · rw [hsame]
        exact List.take_prefix j bs
    have hle := hlonger.length_le
    rw [List.length_take] at hle
    omega

/-- Lists are equal when the common prefix is the whole of both. -/
theorem length_commonPrefix_eq_iff (as bs : List α) :
    (commonPrefix as bs).length = as.length ∧ as.length = bs.length ↔ as = bs := by
  constructor
  · rintro ⟨hleft, hlength⟩
    have has := (commonPrefix_isPrefix as bs).eq_of_length hleft
    have hbs := (commonPrefix_isPrefix_right as bs).eq_of_length (hleft.trans hlength)
    exact has.symm.trans hbs
  · rintro rfl
    refine ⟨?_, rfl⟩
    apply Nat.le_antisymm
    · exact (commonPrefix_isPrefix as as).length_le
    · exact (isPrefix_commonPrefix List.prefix_rfl List.prefix_rfl).length_le

end

end CapsuleMesh.Library
