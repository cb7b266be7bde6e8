import Mathlib.Data.Nat.Cast.Basic
import Mathlib.Logic.Function.Basic
import CapsuleMesh.Library.Runs

/-!
# Numbers that are taken before they are used

A service takes the next number of a key, builds a record with it and appends the record to a log.
When a step after the first one fails, the number is gone: the next record of the key skips it.
-/

namespace CapsuleMesh.Library

variable {σ ε κ ν ρ : Type*} [DecidableEq κ] [AddMonoidWithOne ν]

/-! ## Counters -/

/-- One more number taken for a key; `last` holds the last one of every key. -/
def bump (k : κ) (last : κ → Option ν) : κ → Option ν :=
  Function.update last k (some ((last k).getD 0 + 1))

@[simp] theorem bump_same (k : κ) (last : κ → Option ν) :
    bump k last k = some ((last k).getD 0 + 1) := Function.update_self ..

theorem bump_ne (last : κ → Option ν) {k k' : κ} (h : k' ≠ k) : bump k last k' = last k' :=
  Function.update_of_ne h ..

theorem bump_ne_self [IsLeftCancelAdd ν] [NeZero (1 : ν)] (k : κ) (last : κ → Option ν) :
    bump k last ≠ last := by
  intro h
  have hk := congrFun h k
  rw [bump_same] at hk
  rw [← hk, Option.getD_some] at hk
  have hone : (last k).getD 0 + 1 + 1 = (last k).getD 0 + 1 + 0 := by
    rw [add_zero]
    exact Option.some.inj hk
  exact NeZero.ne 1 (add_left_cancel hone)

/-- The last number after `n` of them. -/
def lastAfter (last : Option ν) : ℕ → Option ν
  | 0 => last
  | n + 1 => some (last.getD 0 + (n + 1 : ℕ))

theorem lastAfter_getD (last : Option ν) (n : ℕ) : (lastAfter last n).getD 0 = last.getD 0 + n := by
  cases n with
  | zero => simp [lastAfter]
  | succ n => rfl

theorem lastAfter_bump (last : κ → Option ν) (k : κ) (n : ℕ) :
    lastAfter (bump k last k) n = lastAfter (last k) (n + 1) := by
  have hone : ((1 + n : ℕ) : ν) = ((n + 1 : ℕ) : ν) := by rw [Nat.add_comm]
  cases n with
  | zero => simp [lastAfter]
  | succ n =>
      rw [lastAfter, lastAfter, bump_same, Option.getD_some, add_assoc, ← Nat.cast_one,
        ← Nat.cast_add, Nat.add_comm 1]

/-! ## Sealing -/

/-- A service that seals numbered records; `failed` says of a step that it took its number and
appended no record, `sealed` that it appended one. -/
structure Sealing (σ ε κ ν ρ : Type*) where
  step : σ → ε → σ
  last : σ → κ → Option ν
  log : σ → List ρ
  key : σ → ε → κ
  failed : σ → ε → Prop
  sealed : σ → ε → Prop
  /-- The number of a record, with the number that it claims to follow. -/
  number : ρ → Option (ν × Option ν)

namespace Sealing

/-- A number is used up by every step that takes it. -/
structure UsesUp (x : Sealing σ ε κ ν ρ) : Prop where
  failed : ∀ {s e}, x.failed s e →
    x.last (x.step s e) = bump (x.key s e) (x.last s) ∧ x.log (x.step s e) = x.log s
  sealed : ∀ {s e}, x.sealed s e → ∃ r, x.log (x.step s e) = x.log s ++ [r] ∧
    x.number r = some ((x.last s (x.key s e)).getD 0 + 1, x.last s (x.key s e))

/-- What that makes of failures: never are the counters as before, and the next record of the key
skips as many numbers as there were failures. -/
structure LosesNumbers (x : Sealing σ ε κ ν ρ) : Prop where
  changed : ∀ {s e}, x.failed s e → x.last (x.step s e) ≠ x.last s
  advanced : ∀ {s e}, x.failed s e → x.last (x.step s e) = bump (x.key s e) (x.last s)
  gap : ∀ {s e k} {es : List ε},
    Along x.step (fun s e => x.failed s e ∧ x.key s e = k) s es →
    x.sealed (es.foldl x.step s) e → x.key (es.foldl x.step s) e = k →
    ∃ r, x.log (x.step (es.foldl x.step s) e) = x.log s ++ [r] ∧
      x.number r = some ((x.last s k).getD 0 + es.length + 1, lastAfter (x.last s k) es.length)

theorem UsesUp.after_failures {x : Sealing σ ε κ ν ρ} (h : x.UsesUp) {s : σ} {k : κ} {es : List ε}
    (hfailed : Along x.step (fun s e => x.failed s e ∧ x.key s e = k) s es) :
    x.last (es.foldl x.step s) k = lastAfter (x.last s k) es.length ∧
      x.log (es.foldl x.step s) = x.log s := by
  induction es generalizing s with
  | nil => exact ⟨rfl, rfl⟩
  | cons e es ih =>
      obtain ⟨⟨hfail, rfl⟩, hrest⟩ := hfailed
      obtain ⟨hlast, hlog⟩ := h.failed hfail
      obtain ⟨hlasts, hlogs⟩ := ih hrest
      refine ⟨?_, hlogs.trans hlog⟩
      rw [List.foldl_cons, hlasts, hlast, lastAfter_bump, List.length_cons]

theorem UsesUp.losesNumbers [IsLeftCancelAdd ν] [NeZero (1 : ν)] {x : Sealing σ ε κ ν ρ}
    (h : x.UsesUp) : x.LosesNumbers where
  changed hfail := by
    rw [(h.failed hfail).1]
    exact bump_ne_self _ _
  advanced hfail := (h.failed hfail).1
  gap {s e k es} hfailed hsealed hkey := by
    obtain ⟨hlast, hlog⟩ := h.after_failures hfailed
    obtain ⟨r, hr, hnumber⟩ := h.sealed hsealed
    refine ⟨r, hr.trans (by rw [hlog]), ?_⟩
    rw [hnumber, hkey, hlast, lastAfter_getD]

end Sealing

end CapsuleMesh.Library
