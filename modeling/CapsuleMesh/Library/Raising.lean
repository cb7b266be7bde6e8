/-!
# Computations that may raise

What a sequence of such computations returns, and where it raises.
-/

namespace CapsuleMesh.Library.Raising

universe u v

variable {ε : Type v} {α β : Type u}

theorem bind_eq_ok {x : Except ε α} {f : α → Except ε β} {b : β} :
    x >>= f = .ok b ↔ ∃ a, x = .ok a ∧ f a = .ok b := by
  cases x with
  | error e => simp [bind, Except.bind]
  | ok a => simp [bind, Except.bind]

theorem mapError_eq_ok {ε' : Type v} {g : ε → ε'} {x : Except ε α} {a : α} :
    x.mapError g = .ok a ↔ x = .ok a := by
  cases x with
  | error e =>
      constructor
      · intro h
        cases h
      · intro h
        cases h
  | ok b =>
      constructor
      · intro h
        cases h
        rfl
      · intro h
        cases h
        rfl

theorem toOption_bind (x : Except ε α) (f : α → Except ε β) :
    (x >>= f).toOption = x.toOption.bind fun a => (f a).toOption := by
  cases x <;> rfl

@[simp] theorem toOption_ok (a : α) : (Except.ok a : Except ε α).toOption = some a := rfl

@[simp] theorem toOption_pure (a : α) : (pure a : Except ε α).toOption = some a := rfl

@[simp] theorem toOption_error (e : ε) : (Except.error e : Except ε α).toOption = none := rfl

theorem bind_eq_error {x : Except ε α} {f : α → Except ε β} {e : ε} :
    x >>= f = .error e ↔ x = .error e ∨ ∃ a, x = .ok a ∧ f a = .error e := by
  cases x with
  | error e' => simp [bind, Except.bind]
  | ok a => simp [bind, Except.bind]

/-! ## Which errors a computation raises -/

/-- Every error of the computation satisfies the predicate. -/
def RaisesOnly (p : ε → Prop) (x : Except ε α) : Prop := ∀ e, x = .error e → p e

namespace RaisesOnly

variable {p : ε → Prop}

theorem ok (a : α) : RaisesOnly p (.ok a : Except ε α) := by
  intro e h
  cases h

theorem error {e : ε} (h : p e) : RaisesOnly p (.error e : Except ε α) := by
  rintro e' ⟨⟩
  exact h

theorem bind {x : Except ε α} {f : α → Except ε β} (hx : RaisesOnly p x)
    (hf : ∀ a, x = .ok a → RaisesOnly p (f a)) : RaisesOnly p (x >>= f) := by
  intro e h
  obtain h | ⟨a, ha, h⟩ := bind_eq_error.mp h
  · exact hx e h
  · exact hf a ha e h

end RaisesOnly

/-! ## What holds of either outcome -/

/-- The result satisfies the one predicate, or the error the other. -/
def Ensures (post : α → Prop) (err : ε → Prop) : Except ε α → Prop
  | .ok a => post a
  | .error e => err e

namespace Ensures

variable {post : α → Prop} {err : ε → Prop}

@[simp] theorem ok_iff {a : α} : Ensures post err (.ok a) ↔ post a := Iff.rfl

@[simp] theorem pure_iff {a : α} : Ensures post err (pure a) ↔ post a := Iff.rfl

@[simp] theorem error_iff {e : ε} : Ensures post err (.error e) ↔ err e := Iff.rfl

/-- A sequence ensures what its first computation ensures of the rest. -/
theorem bind_iff {x : Except ε α} {f : α → Except ε β} {post : β → Prop} :
    Ensures post err (x >>= f) ↔ Ensures (fun a => Ensures post err (f a)) err x := by
  cases x <;> exact Iff.rfl

theorem mapError_iff {ε' : Type v} {g : ε → ε'} {err : ε' → Prop} {x : Except ε α} :
    Ensures post err (x.mapError g) ↔ Ensures post (fun e => err (g e)) x := by
  cases x <;> exact Iff.rfl

/-- Where no error is allowed, the computation returns. -/
theorem returns_iff {x : Except ε α} :
    Ensures post (fun _ => False) x ↔ ∃ a, x = .ok a ∧ post a := by
  cases x with
  | error e =>
      constructor
      · intro h
        exact h.elim
      · rintro ⟨a, h, -⟩
        cases h
  | ok a =>
      constructor
      · intro h
        exact ⟨a, rfl, h⟩
      · rintro ⟨a', h, hpost⟩
        cases h
        exact hpost

end Ensures

end CapsuleMesh.Library.Raising
