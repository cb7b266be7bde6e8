import Mathlib.Data.List.Basic

/-!
# Accounts that count

An account of a list of records may be impossible to make.  Where it counts the records of one
kind, and records of no such kind do not show in it, appending records leaves it as it was
exactly when none of them is of that kind.
-/

namespace CapsuleMesh.Library

variable {ρ α ε : Type*}

/-- An account that could be made of the first records is the same over the second. -/
def Kept (account : List ρ → Except ε α) (before after : List ρ) : Prop :=
  ∀ a, account before = .ok a → account after = .ok a

/-- The record can be told, and is of the kind. -/
def marked (mark : ρ → Except ε Bool) (r : ρ) : Bool := (mark r).toOption.getD false

theorem marked_of_eq_ok {mark : ρ → Except ε Bool} {r : ρ} {b : Bool} (h : mark r = .ok b) :
    marked mark r = b := by
  rw [marked, h]
  rfl

theorem eq_ok_of_marked {mark : ρ → Except ε Bool} {r : ρ} (h : marked mark r = true) :
    mark r = .ok true := by
  rw [marked] at h
  cases hmark : mark r with
  | error e =>
      rw [hmark] at h
      cases h
  | ok b =>
      rw [hmark] at h
      exact congrArg Except.ok h

/-- A filter that may fail keeps the marked records, where all can be told. -/
theorem filterM_eq_ok {ρ ε : Type} {mark : ρ → Except ε Bool} {records kept : List ρ} :
    records.filterM mark = .ok kept ↔
      (∀ r ∈ records, ∃ b, mark r = .ok b) ∧ kept = records.filter (marked mark) := by
  have hloop : ∀ acc out, List.filterAuxM mark records acc = .ok out ↔
      (∀ r ∈ records, ∃ b, mark r = .ok b) ∧
        out = (records.filter (marked mark)).reverse ++ acc := by
    induction records with
    | nil =>
        intro acc out
        simp only [List.filterAuxM, pure, Except.pure, Except.ok.injEq, List.not_mem_nil,
          false_imp_iff, implies_true, true_and, List.filter_nil, List.reverse_nil, List.nil_append]
        exact eq_comm
    | cons r records ih =>
        intro acc out
        rw [List.filterAuxM, List.forall_mem_cons]
        cases hr : mark r with
        | error e =>
          refine iff_of_false (fun h => ?_) fun h => ?_
          · cases h
          · obtain ⟨b, hb⟩ := h.1.1
            cases hb
        | ok b =>
          have hmark : marked mark r = b := marked_of_eq_ok hr
          change List.filterAuxM mark records (cond b (r :: acc) acc) = .ok out ↔ _
          rw [ih]
          cases b with
          | true => simp [hmark]
          | false => simp [hmark]
  constructor
  · intro h
    cases hall : List.filterAuxM mark records [] with
    | error e =>
        rw [List.filterM, hall] at h
        cases h
    | ok out =>
        rw [List.filterM, hall] at h
        obtain ⟨htold, hout⟩ := (hloop [] out).mp hall
        refine ⟨htold, ?_⟩
        rw [← Except.ok.inj h, hout, List.append_nil, List.reverse_reverse]
  · rintro ⟨htold, rfl⟩
    rw [List.filterM, (hloop [] _).mpr ⟨htold, rfl⟩, List.append_nil]
    exact congrArg Except.ok (List.reverse_reverse _)

/-- The account counts the records of one kind and does not show others. -/
structure Tallies (account : List ρ → Except ε α) (size : α → ℕ) (mark : ρ → Except ε Bool) :
    Prop where
  told : ∀ {records a}, account records = .ok a → ∀ r ∈ records, ∃ b, mark r = .ok b
  size_eq : ∀ {records a}, account records = .ok a → size a = records.countP (marked mark)
  keeps : ∀ {records a more}, account records = .ok a → (∀ r ∈ more, mark r = .ok false) →
    account (records ++ more) = .ok a

variable {account : List ρ → Except ε α} {size : α → ℕ} {mark : ρ → Except ε Bool}

theorem Tallies.kept_append_iff (h : Tallies account size mark) (before more : List ρ) :
    Kept account before (before ++ more) ↔
      ((∃ a, account before = .ok a) → ∀ r ∈ more, mark r = .ok false) := by
  constructor
  · rintro hkept ⟨a, ha⟩ r hr
    have hafter := hkept a ha
    have hcount : more.countP (marked mark) = 0 := by
      have hsize := h.size_eq hafter
      rw [List.countP_append, ← h.size_eq ha] at hsize
      omega
    obtain ⟨b, hb⟩ := h.told hafter r (List.mem_append_right before hr)
    have hmark : marked mark r = b := marked_of_eq_ok hb
    rw [hb, ← hmark, Bool.eq_false_iff.mpr (List.countP_eq_zero.mp hcount r hr)]
  · intro hsilent a ha
    exact h.keeps ha (hsilent ⟨a, ha⟩)

end CapsuleMesh.Library
