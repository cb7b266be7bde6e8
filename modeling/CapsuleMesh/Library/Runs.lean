import Mathlib.Data.List.Basic

/-!
# Runs of a deterministic system under an arbitrary schedule

A schedule is a list of labels and a run folds a total step function over it,
so that "every interleaving" is "every list".  A condition on the state before
each step is carried along the run by `Along`; the last rule turns a one-step
equivalence into an equivalence over whole runs.
-/

namespace CapsuleMesh.Library

variable {σ ι : Type*}

/-- Every step of the run from `s` meets `cond` in the state it is taken in. -/
def Along (step : σ → ι → σ) (cond : σ → ι → Prop) : σ → List ι → Prop
  | _, [] => True
  | s, i :: is => cond s i ∧ Along step cond (step s i) is

variable {step : σ → ι → σ} {cond : σ → ι → Prop}

instance decidableAlong [∀ s i, Decidable (cond s i)] : ∀ s is, Decidable (Along step cond s is)
  | _, [] => .isTrue trivial
  | s, i :: is => @instDecidableAnd _ _ _ (decidableAlong (step s i) is)

theorem along_append (s : σ) (is js : List ι) :
    Along step cond s (is ++ js) ↔ Along step cond s is ∧ Along step cond (is.foldl step s) js := by
  induction is generalizing s with
  | nil => simp [Along]
  | cons i is ih => simp [Along, ih, and_assoc]

theorem along_concat (s : σ) (is : List ι) (i : ι) :
    Along step cond s (is ++ [i]) ↔ Along step cond s is ∧ cond (is.foldl step s) i := by
  simp [along_append, Along]

/-- What every step preserves holds at the end of every run. -/
theorem run_invariant (Inv : σ → Prop) (hstep : ∀ s i, Inv s → Inv (step s i))
    {s : σ} (hs : Inv s) (is : List ι) : Inv (is.foldl step s) := by
  induction is generalizing s with
  | nil => exact hs
  | cons i is ih => exact ih (hstep s i hs)

/-- What every step of a run preserves that meets the condition holds at its end. -/
theorem along_invariant (Inv : σ → Prop) {is : List ι}
    (hstep : ∀ s, ∀ i ∈ is, Inv s → cond s i → Inv (step s i)) {s : σ} (hs : Inv s)
    (h : Along step cond s is) : Inv (is.foldl step s) := by
  induction is generalizing s with
  | nil => exact hs
  | cons i is ih =>
      have hi := hstep s i List.mem_cons_self hs h.1
      exact ih (fun s j hj => hstep s j (List.mem_cons_of_mem i hj)) hi h.2

/-- A property that is never regained once lost holds at the end of a run
exactly when each step met the condition that keeps it.  `Base` holds in every
run, `Inv` only as long as the property does. -/
theorem good_run_iff (Base Inv Good : σ → Prop)
    (hbase : ∀ s i, Base s → Base (step s i))
    (hinv : ∀ s i, Base s → Inv s → Good s → cond s i → Inv (step s i))
    (hback : ∀ s i, Base s → Good (step s i) → Good s)
    (hiff : ∀ s i, Base s → Inv s → Good s → (Good (step s i) ↔ cond s i))
    {s : σ} (hb : Base s) (hs : Inv s) (hg : Good s) (is : List ι) :
    Good (is.foldl step s) ↔ Along step cond s is := by
  have hlost : ∀ (is : List ι) (s : σ), Base s → Good (is.foldl step s) → Good s := by
    intro is
    induction is with
    | nil => exact fun s _ h => h
    | cons i is ih => exact fun s hb h => hback s i hb (ih _ (hbase s i hb) h)
  induction is generalizing s with
  | nil => simpa [Along] using hg
  | cons i is ih =>
      simp only [List.foldl_cons, Along]
      have hb' := hbase s i hb
      constructor
      · intro h
        have hcond := (hiff s i hb hs hg).1 (hlost is _ hb' h)
        have hs' := hinv s i hb hs hg hcond
        exact ⟨hcond, (ih hb' hs' ((hiff s i hb hs hg).2 hcond)).1 h⟩
      · rintro ⟨hcond, hrest⟩
        have hs' := hinv s i hb hs hg hcond
        exact (ih hb' hs' ((hiff s i hb hs hg).2 hcond)).2 hrest

/-! ## Machines that answer -/

/-- The answers a machine gives to a list of inputs, and the state it is left in. -/
def answers {ω : Type*} (step : σ → ι → ω × σ) : σ → List ι → List ω × σ
  | s, [] => ([], s)
  | s, i :: is =>
      let (o, s) := step s i
      let (os, s) := answers step s is
      (o :: os, s)

section

variable {τ κ ω ω' : Type*} {stepS : σ → ι → ω × σ} {stepT : τ → κ → ω' × τ}

/-- Two machines in related states that keep the relation on related inputs give related answers. -/
theorem answers_related (R : σ → τ → Prop) (I : ι → κ → Prop) (S : ω → ω' → Prop)
    (hstep : ∀ s t i k, R s t → I i k →
      S (stepS s i).1 (stepT t k).1 ∧ R (stepS s i).2 (stepT t k).2)
    {is : List ι} {ks : List κ} (his : List.Forall₂ I is ks) {s : σ} {t : τ} (h : R s t) :
    List.Forall₂ S (answers stepS s is).1 (answers stepT t ks).1 ∧
      R (answers stepS s is).2 (answers stepT t ks).2 := by
  induction his generalizing s t with
  | nil => exact ⟨.nil, h⟩
  | @cons i k is ks hik _ ih =>
      obtain ⟨hanswer, hkept⟩ := hstep s t i k h hik
      obtain ⟨hanswers, hlast⟩ := ih hkept
      exact ⟨.cons hanswer hanswers, hlast⟩

/-- An answer of a machine is that of the state which the inputs before it lead to. -/
theorem answers_getElem? (s : σ) (before : List ι) (i : ι) (after : List ι) :
    (answers stepS s (before ++ i :: after)).1[before.length]? =
      some (stepS (answers stepS s before).2 i).1 := by
  induction before generalizing s with
  | nil => rfl
  | cons j before ih => exact ih _

/-- Each answer of a machine satisfies what every step gives. -/
theorem answers_forall (P : ι → ω → Prop) (hstep : ∀ s i, P i (stepS s i).1) (s : σ) (is : List ι) :
    List.Forall₂ P is (answers stepS s is).1 := by
  induction is generalizing s with
  | nil => exact .nil
  | cons i is ih => exact .cons (hstep s i) (ih _)

/-- A machine that answers from the input alone and appends to a log. -/
theorem answers_logging {α : Type*} {step : List α → ι → ω × List α} (f : ι → ω) (g : ι → List α)
    (hstep : ∀ log i, step log i = (f i, log ++ g i)) (log : List α) (is : List ι) :
    answers step log is = (is.map f, log ++ is.flatMap g) := by
  induction is generalizing log with
  | nil => simp [answers]
  | cons i is ih => simp [answers, hstep, ih]

end

end CapsuleMesh.Library
