import Mathlib.Data.List.Basic
import Mathlib.Data.List.Count
import Mathlib.Data.List.Nodup

/-!
# Joins by a key that need not be unique

Each item of a list owns at most one thing and has some number of copies in a second
list.  A join by key credits every copy with what the first item of the same key
owns.  It credits each copy with what its own item owns only under conditions on the
keys and the copies.
-/

namespace CapsuleMesh.Library

variable {α κ β : Type*} [DecidableEq κ] (key : α → Option κ) (owns : α → Option β)
  (copies : α → ℕ)

/-- What the first item of this key owns. -/
def firstOwned (items : List α) (k : κ) : Option β :=
  items.findSome? fun b => if key b = some k then owns b else none

def credit (items : List α) (a : α) : Option β := (key a).bind (firstOwned key owns items)

def credits (items : List α) : List (Option β) :=
  items.flatMap fun a => List.replicate (copies a) (credit key owns items a)

/-- The join credits each copy with what its item owns, nothing twice, and as many
copies with nothing as there are items that own nothing. -/
structure ExactJoin [DecidableEq β] (items : List α) : Prop where
  own : ∀ a ∈ items, 0 < copies a → credit key owns items a = owns a
  once : ((credits key owns copies items).filterMap id).Nodup
  count : (credits key owns copies items).count none = items.countP fun a => (owns a).isNone

/-- What the items before and after an item leave it. -/
structure Placed (before : List α) (a : α) (after : List α) : Prop where
  copied : owns a = none → copies a = 1
  single : owns a ≠ none → copies a ≤ 1
  keyed : owns a ≠ none → 0 < copies a → key a ≠ none
  first : 0 < copies a → ∀ b ∈ before, owns b ≠ none → key b = key a → key a = none
  unclaimed : owns a = none → ∀ b ∈ after, owns b ≠ none → key b = key a → key a = none

variable {key owns copies}

theorem firstOwned_eq_none {items : List α} {k : κ} :
    firstOwned key owns items k = none ↔ ∀ b ∈ items, key b = some k → owns b = none := by
  rw [firstOwned, List.findSome?_eq_none_iff]
  refine forall₂_congr fun b _ => ?_
  split
  · rename_i hkey
    simp [hkey]
  · rename_i hkey
    simp [hkey]

theorem firstOwned_append (before after : List α) (k : κ) :
    firstOwned key owns (before ++ after) k =
      (firstOwned key owns before k).or (firstOwned key owns after k) := by
  rw [firstOwned, List.findSome?_append]
  rfl

theorem firstOwned_mem {items : List α} {k : κ} {x : β} (h : firstOwned key owns items k = some x) :
    ∃ b ∈ items, key b = some k ∧ owns b = some x := by
  obtain ⟨b, hb, hx⟩ := List.exists_of_findSome?_eq_some h
  split at hx
  · rename_i hkey
    exact ⟨b, hb, hkey, hx⟩
  · cases hx

theorem firstOwned_cons_same {a : α} {k : κ} (hkey : key a = some k) (after : List α) :
    firstOwned key owns (a :: after) k = (owns a).or (firstOwned key owns after k) := by
  rw [firstOwned, List.findSome?_cons, if_pos hkey]
  cases owns a <;> rfl

/-- Distinct items own distinct things. -/
def Distinct (owns : α → Option β) (items : List α) : Prop :=
  items.Pairwise fun a b => ∀ x, owns a = some x → owns b ≠ some x

/-- When an item is credited with its own. -/
theorem credit_eq_iff {before after : List α} {a : α}
    (hdistinct : Distinct owns (before ++ a :: after)) :
    credit key owns (before ++ a :: after) a = owns a ↔
      (owns a ≠ none → key a ≠ none) ∧
        (∀ b ∈ before, owns b ≠ none → key b = key a → key a = none) ∧
        (owns a = none → ∀ b ∈ after, owns b ≠ none → key b = key a → key a = none) := by
  cases hkey : key a with
  | none =>
      simp only [credit, hkey, Option.bind_none]
      constructor
      · intro hown
        simp [← hown]
      · rintro ⟨hkeyed, -, -⟩
        by_contra hne
        exact hkeyed (Ne.symm hne) rfl
  | some k =>
      have hcredit : credit key owns (before ++ a :: after) a =
          (firstOwned key owns before k).or ((owns a).or (firstOwned key owns after k)) := by
        rw [credit, hkey, Option.bind_some, firstOwned_append, firstOwned_cons_same hkey]
      rw [hcredit]
      cases hbefore : firstOwned key owns before k with
      | some x =>
        -- The first owner comes before, and what it owns is not what the item owns.
        obtain ⟨b, hb, hbkey, hbowns⟩ := firstOwned_mem hbefore
        refine iff_of_false ?_ ?_
        · intro hown
          exact (List.pairwise_append.mp hdistinct).2.2 b hb a List.mem_cons_self x hbowns
            hown.symm
        · rintro ⟨-, hfirst, -⟩
          cases hfirst b hb (by simp [hbowns]) hbkey
      | none =>
        have hfirst : ∀ b ∈ before, owns b ≠ none → ¬key b = some k :=
          fun b hb howns hbkey => howns (firstOwned_eq_none.mp hbefore b hb hbkey)
        cases hown : owns a with
        | some x => simpa using hfirst
        | none =>
          rw [Option.none_or, Option.none_or, firstOwned_eq_none]
          simp only [ne_eq, not_true_eq_false, false_imp_iff, true_and, forall_const,
            reduceCtorEq, imp_false]
          constructor
          · intro hafter
            exact ⟨hfirst, fun b hb howns hbkey => howns (hafter b hb hbkey)⟩
          · rintro ⟨-, hafter⟩ b hb hbkey
            by_contra howns
            exact hafter b hb howns hbkey

/-! ## Copies of what the items own -/

/-- Every copy with what its item owns. -/
def ownCopies (owns : α → Option β) (copies : α → ℕ) (items : List α) : List (Option β) :=
  items.flatMap fun a => List.replicate (copies a) (owns a)

theorem credits_eq_ownCopies {items : List α}
    (h : ∀ a ∈ items, 0 < copies a → credit key owns items a = owns a) :
    credits key owns copies items = ownCopies owns copies items := by
  unfold credits ownCopies
  refine List.flatMap_congr fun a ha => ?_
  cases hn : copies a with
  | zero => rfl
  | succ n => rw [h a ha (by omega)]

theorem mem_ownCopies {items : List α} {x : β} (h : some x ∈ ownCopies owns copies items) :
    ∃ a ∈ items, owns a = some x := by
  obtain ⟨a, ha, hx⟩ := List.mem_flatMap.mp h
  exact ⟨a, ha, (List.eq_of_mem_replicate hx).symm⟩

theorem nodup_ownCopies_iff {items : List α} (hdistinct : Distinct owns items) :
    ((ownCopies owns copies items).filterMap id).Nodup ↔
      ∀ a ∈ items, owns a ≠ none → copies a ≤ 1 := by
  induction items with
  | nil => simp [ownCopies]
  | cons a items ih =>
      obtain ⟨hapart, hrest⟩ := List.pairwise_cons.mp hdistinct
      have hcons : ownCopies owns copies (a :: items) =
          List.replicate (copies a) (owns a) ++ ownCopies owns copies items := by
        simp [ownCopies]
      rw [hcons, List.filterMap_append, List.forall_mem_cons, ← ih hrest]
      cases hown : owns a with
      | none => simp
      | some x =>
        have hfresh : x ∉ (ownCopies owns copies items).filterMap id := by
          intro hx
          obtain ⟨o, ho, rfl⟩ := List.mem_filterMap.mp hx
          obtain ⟨b, hb, hbowns⟩ := mem_ownCopies ho
          exact hapart b hb x hown hbowns
        have hcopies : (List.replicate (copies a) (some x)).filterMap id =
            List.replicate (copies a) x := by
          exact List.filterMap_replicate_of_some rfl
        rw [hcopies, List.nodup_append, List.nodup_replicate]
        constructor
        · rintro ⟨hsingle, hnodup, -⟩
          exact ⟨fun _ => hsingle, hnodup⟩
        · rintro ⟨hsingle, hnodup⟩
          refine ⟨hsingle (by simp), hnodup, ?_⟩
          intro y hy z hz heq
          rw [List.eq_of_mem_replicate hy] at heq
          exact hfresh (heq ▸ hz)

theorem count_ownCopies_iff [DecidableEq β] {items : List α}
    (hcopies : ∀ a ∈ items, owns a = none → copies a ≤ 1) :
    ((ownCopies owns copies items).count none ≤ items.countP fun a => (owns a).isNone) ∧
      ((ownCopies owns copies items).count none = (items.countP fun a => (owns a).isNone) ↔
        ∀ a ∈ items, owns a = none → copies a = 1) := by
  induction items with
  | nil => simp [ownCopies]
  | cons a items ih =>
      obtain ⟨hle, hiff⟩ := ih fun b hb => hcopies b (List.mem_cons_of_mem _ hb)
      have hcons : ownCopies owns copies (a :: items) =
          List.replicate (copies a) (owns a) ++ ownCopies owns copies items := by
        simp [ownCopies]
      rw [hcons, List.count_append, List.count_replicate, List.countP_cons, List.forall_mem_cons,
        ← hiff]
      cases hown : owns a with
      | some x => simpa using hle
      | none =>
        have hsingle := hcopies a List.mem_cons_self hown
        simp only [BEq.rfl, if_true, Option.isNone_none, forall_const]
        omega

/-- A join by a key is exact exactly when each item is in its place. -/
theorem exactJoin_iff [DecidableEq β] {items : List α} (hdistinct : Distinct owns items)
    (hcopies : ∀ a ∈ items, owns a = none → copies a ≤ 1) :
    ExactJoin key owns copies items ↔
      ∀ before a after, items = before ++ a :: after → Placed key owns copies before a after := by
  constructor
  · rintro ⟨hown, honce, hcount⟩ before a after rfl
    have ha : a ∈ before ++ a :: after := by simp
    rw [credits_eq_ownCopies hown] at honce hcount
    have hcredit := fun h => (credit_eq_iff hdistinct).mp (hown a ha h)
    have hcopied := (count_ownCopies_iff hcopies).2.mp hcount a ha
    exact
      { copied := hcopied
        single := (nodup_ownCopies_iff hdistinct).mp honce a ha
        keyed := fun howns h => (hcredit h).1 howns
        first := fun h => (hcredit h).2.1
        unclaimed := fun hnone => (hcredit (by rw [hcopied hnone]; exact Nat.one_pos)).2.2 hnone }
  · intro hplaced
    have hplaced' : ∀ a ∈ items, ∃ before after, items = before ++ a :: after ∧
        Placed key owns copies before a after := by
      intro a ha
      obtain ⟨before, after, h⟩ := List.append_of_mem ha
      exact ⟨before, after, h, hplaced before a after h⟩
    have hown : ∀ a ∈ items, 0 < copies a → credit key owns items a = owns a := by
      intro a ha hpos
      obtain ⟨before, after, rfl, hp⟩ := hplaced' a ha
      exact (credit_eq_iff hdistinct).mpr
        ⟨fun howns => hp.keyed howns hpos, hp.first hpos, hp.unclaimed⟩
    refine ⟨hown, ?_, ?_⟩
    · rw [credits_eq_ownCopies hown, nodup_ownCopies_iff hdistinct]
      intro a ha
      obtain ⟨before, after, -, hp⟩ := hplaced' a ha
      exact hp.single
    · rw [credits_eq_ownCopies hown]
      refine (count_ownCopies_iff hcopies).2.mpr ?_
      intro a ha
      obtain ⟨before, after, -, hp⟩ := hplaced' a ha
      exact hp.copied

end CapsuleMesh.Library
