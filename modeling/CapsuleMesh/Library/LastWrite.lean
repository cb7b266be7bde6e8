import Mathlib.Data.List.Induction
import Mathlib.Data.List.ReduceOption

/-!
# The last item that satisfies a predicate

A store that is written under a key again and again keeps the last value of each key.  Along a
list of pages that value stands on the last page that has one.
-/

namespace CapsuleMesh.Library

variable {α : Type*} {p : α → Bool}

def lastWith (p : α → Bool) (items : List α) : Option α := items.reverse.find? p

@[simp] theorem lastWith_nil : lastWith p [] = none := rfl

theorem lastWith_concat (items : List α) (a : α) :
    lastWith p (items ++ [a]) = if p a then some a else lastWith p items := by
  rw [lastWith, List.reverse_append, List.reverse_singleton, List.singleton_append, List.find?_cons]
  cases p a <;> rfl

theorem lastWith_append (items more : List α) :
    lastWith p (items ++ more) = (lastWith p more).or (lastWith p items) := by
  simp only [lastWith, List.reverse_append, List.find?_append]

theorem lastWith_eq_none {items : List α} : lastWith p items = none ↔ ∀ a ∈ items, p a = false := by
  simp [lastWith]

theorem lastWith_mem {items : List α} {a : α} (h : lastWith p items = some a) :
    a ∈ items ∧ p a = true :=
  ⟨List.mem_reverse.mp (List.mem_of_find?_eq_some h), List.find?_some h⟩

theorem lastWith_isSome {items : List α} {a : α} (ha : a ∈ items) (hp : p a = true) :
    ∃ b, lastWith p items = some b := by
  cases h : lastWith p items with
  | none =>
      rw [lastWith_eq_none.mp h a ha] at hp
      cases hp
  | some b => exact ⟨b, rfl⟩

theorem lastWith_eq_some_iff {items : List α} {a : α} :
    lastWith p items = some a ↔
      ∃ before after, items = before ++ a :: after ∧ p a = true ∧ ∀ b ∈ after, p b = false := by
  rw [lastWith, List.find?_eq_some_iff_append]
  constructor
  · rintro ⟨hp, as, bs, hitems, hall⟩
    refine ⟨bs.reverse, as.reverse, ?_, hp, ?_⟩
    · rw [← List.reverse_reverse items, hitems]
      simp
    · intro b hb
      simpa using hall b (List.mem_reverse.mp hb)
  · rintro ⟨before, after, rfl, hp, hafter⟩
    refine ⟨hp, after.reverse, before.reverse, by simp, ?_⟩
    intro b hb
    simpa using hafter b (List.mem_reverse.mp hb)

theorem lastWith_eq_some_iff_getElem? {items : List α} {a : α} :
    lastWith p items = some a ↔ ∃ i : ℕ, items[i]? = some a ∧ p a = true ∧
      ∀ (j : ℕ) b, i < j → items[j]? = some b → p b = false := by
  rw [lastWith_eq_some_iff]
  constructor
  · rintro ⟨before, after, rfl, hp, hafter⟩
    refine ⟨before.length, by simp, hp, fun j b hj hb => hafter b ?_⟩
    rw [List.getElem?_append_right (by omega)] at hb
    obtain ⟨n, hn⟩ : ∃ n, j - before.length = n + 1 := ⟨j - before.length - 1, by omega⟩
    rw [hn, List.getElem?_cons_succ] at hb
    exact List.mem_of_getElem? hb
  · rintro ⟨i, hi, hp, hafter⟩
    obtain ⟨hlt, rfl⟩ := List.getElem?_eq_some_iff.mp hi
    refine ⟨items.take i, items.drop (i + 1), ?_, hp, fun b hb => ?_⟩
    · rw [← List.drop_eq_getElem_cons hlt, List.take_append_drop]
    · obtain ⟨n, hn⟩ := List.getElem?_of_mem hb
      rw [List.getElem?_drop] at hn
      exact hafter _ b (by omega) hn

theorem lastWith_reduceOption {items : List (Option α)} :
    lastWith p items.reduceOption = (lastWith (fun o => o.any p) items).join := by
  induction items using List.reverseRecOn with
  | nil => rfl
  | append_singleton items o ih =>
      rw [List.reduceOption_append, lastWith_concat]
      cases o with
      | none => simpa [List.reduceOption] using ih
      | some a =>
        rw [List.reduceOption_singleton, Option.toList_some, lastWith_concat, Option.any_some]
        cases p a with
        | true => rfl
        | false => exact ih

/-- A list that ends in `last` is split before its end or at it. -/
theorem concat_eq_append_cons {items before after : List α} {last a : α} :
    items ++ [last] = before ++ a :: after ↔ (after = [] ∧ items = before ∧ last = a) ∨
      ∃ more, after = more ++ [last] ∧ items = before ++ a :: more := by
  constructor
  · intro h
    induction after using List.reverseRecOn with
    | nil =>
        obtain ⟨hitems, hlast⟩ := List.append_inj' h rfl
        exact .inl ⟨rfl, hitems, List.singleton_inj.mp hlast⟩
    | append_singleton more b _ =>
        rw [← List.cons_append, ← List.append_assoc] at h
        obtain ⟨hitems, hlast⟩ := List.append_inj' h rfl
        rw [List.singleton_inj.mp hlast]
        exact .inr ⟨more, rfl, hitems⟩
  · rintro (⟨rfl, rfl, rfl⟩ | ⟨more, rfl, rfl⟩) <;> simp

/-- On pages one after the other it stands on the last page that has one. -/
theorem lastWith_flatten {pages : List (List α)} {a : α} :
    lastWith p pages.flatten = some a ↔ ∃ before page after, pages = before ++ page :: after ∧
      lastWith p page = some a ∧ ∀ later ∈ after, lastWith p later = none := by
  induction pages using List.reverseRecOn with
  | nil => simp
  | append_singleton pages last ih =>
      rw [List.flatten_concat, lastWith_append]
      cases hlast : lastWith p last with
      | some b =>
        simp only [Option.some_or, Option.some.injEq]
        constructor
        · rintro rfl
          exact ⟨pages, last, [], rfl, hlast, by simp⟩
        · rintro ⟨before, page, after, hpages, hpage, hafter⟩
          obtain ⟨rfl, rfl, rfl⟩ | ⟨more, rfl, -⟩ := concat_eq_append_cons.mp hpages
          · exact Option.some.inj (hlast.symm.trans hpage)
          · rw [hafter last (by simp)] at hlast
            cases hlast
      | none =>
        rw [Option.none_or, ih]
        constructor
        · rintro ⟨before, page, after, rfl, hpage, hafter⟩
          refine ⟨before, page, after ++ [last], by simp, hpage, ?_⟩
          intro later hlater
          obtain hlater | hlater := List.mem_append.mp hlater
          · exact hafter later hlater
          · rw [List.mem_singleton.mp hlater, hlast]
        · rintro ⟨before, page, after, hpages, hpage, hafter⟩
          obtain ⟨rfl, rfl, rfl⟩ | ⟨more, rfl, rfl⟩ := concat_eq_append_cons.mp hpages
          · rw [hlast] at hpage
            cases hpage
          · exact ⟨before, page, more, rfl, hpage, fun later hlater ↦ hafter later (by simp [hlater])⟩

end CapsuleMesh.Library
