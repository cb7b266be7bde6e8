import Mathlib.Data.List.Dedup
import Mathlib.Data.List.Perm.Basic

/-!
# Grouping by key, whole and page by page

The elements of a list that carry a key are grouped by it.  Grouping each page of a
list on its own gives the groups of the whole list exactly when no key stands on two
pages.
-/

namespace CapsuleMesh.Library

variable {α κ : Type*} [DecidableEq κ]

/-- The keys of a list in the order in which they first appear. -/
def keysIn (key : α → Option κ) (as : List α) : List κ := (as.filterMap key).eraseDups

/-- The elements under one key. -/
def groupIn (key : α → Option κ) (as : List α) (k : κ) : List α :=
  as.filter fun a => decide (key a = some k)

variable {key : α → Option κ}

theorem mem_keysIn {as : List α} {k : κ} : k ∈ keysIn key as ↔ ∃ a ∈ as, key a = some k := by
  rw [keysIn, List.mem_eraseDups, List.mem_filterMap]

theorem nodup_eraseDups (ks : List κ) : ks.eraseDups.Nodup := by
  induction hn : ks.length using Nat.strongRecOn generalizing ks with
  | ind n ih =>
      cases ks with
      | nil => simp
      | cons k ks =>
        rw [List.eraseDups_cons, List.nodup_cons]
        refine ⟨?_, ih _ ?_ _ rfl⟩
        · rw [List.mem_eraseDups, List.mem_filter]
          simp
        · rw [← hn, List.length_cons]
          exact Nat.lt_succ_of_le (List.length_filter_le _ _)

theorem nodup_keysIn (as : List α) : (keysIn key as).Nodup := nodup_eraseDups _

/-- No key stands on two pages. -/
def Separate (key : α → Option κ) (pages : List (List α)) : Prop :=
  pages.Pairwise fun page page' => List.Disjoint (keysIn key page) (keysIn key page')

theorem separate_iff_nodup {pages : List (List α)} :
    Separate key pages ↔ (pages.flatMap (keysIn key)).Nodup := by
  rw [List.nodup_flatMap]
  constructor
  · intro h
    exact ⟨fun page _ => nodup_keysIn page, h⟩
  · exact And.right

theorem Separate.keys_perm {pages : List (List α)} (h : Separate key pages) :
    (pages.flatMap (keysIn key)).Perm (keysIn key pages.flatten) := by
  rw [List.perm_ext_iff_of_nodup (separate_iff_nodup.mp h) (nodup_keysIn _)]
  intro k
  simp only [List.mem_flatMap, mem_keysIn, List.mem_flatten]
  constructor
  · rintro ⟨page, hpage, a, ha, hk⟩
    exact ⟨a, ⟨page, hpage, ha⟩, hk⟩
  · rintro ⟨a, ⟨page, hpage, ha⟩, hk⟩
    exact ⟨page, hpage, a, ha, hk⟩

/-- A filter that only selects elements of one page selects them there. -/
theorem filter_flatten_of_page {p : α → Bool} {before after : List (List α)} (page : List α)
    (hbefore : ∀ page' ∈ before, ∀ a ∈ page', p a = false)
    (hafter : ∀ page' ∈ after, ∀ a ∈ page', p a = false) :
    (before ++ page :: after).flatten.filter p = page.filter p := by
  have hnone : ∀ pages : List (List α), (∀ page' ∈ pages, ∀ a ∈ page', p a = false) →
      pages.flatten.filter p = [] := by
    intro pages hpages
    rw [List.filter_eq_nil_iff]
    intro a ha
    obtain ⟨page', hpage', ha⟩ := List.mem_flatten.mp ha
    simp [hpages page' hpage' a ha]
  rw [List.flatten_append, List.flatten_cons, List.filter_append, List.filter_append,
    hnone before hbefore, hnone after hafter, List.nil_append, List.append_nil]

/-- What a pairwise condition says about one page and each of the others. -/
theorem pairwise_around {R : List α → List α → Prop} (hsymm : ∀ page page', R page page' → R page' page)
    {before after : List (List α)} {page : List α} (h : (before ++ page :: after).Pairwise R) :
    (∀ page' ∈ before, R page page') ∧ ∀ page' ∈ after, R page page' := by
  obtain ⟨-, hrest, hacross⟩ := List.pairwise_append.mp h
  refine ⟨fun page' hpage' => hsymm _ _ (hacross page' hpage' page (by simp)), ?_⟩
  exact (List.pairwise_cons.mp hrest).1

theorem Separate.group_eq {before after : List (List α)} {page : List α}
    (h : Separate key (before ++ page :: after)) {k : κ} (hk : k ∈ keysIn key page) :
    groupIn key (before ++ page :: after).flatten k = groupIn key page k := by
  obtain ⟨hbefore, hafter⟩ := pairwise_around (fun _ _ hd => hd.symm) h
  refine filter_flatten_of_page page ?_ ?_
  · intro page' hpage' a ha
    have hnot := hbefore page' hpage' hk
    rw [decide_eq_false_iff_not]
    exact fun ha' => hnot (mem_keysIn.mpr ⟨a, ha, ha'⟩)
  · intro page' hpage' a ha
    have hnot := hafter page' hpage' hk
    rw [decide_eq_false_iff_not]
    exact fun ha' => hnot (mem_keysIn.mpr ⟨a, ha, ha'⟩)

/-- Pages that are rearranged one by one are rearranged as a whole. -/
theorem perm_flatMap_of_forall₂ {β γ : Type*} {f : α → List γ} {g : β → γ} {as : List α}
    {bs : List (List β)} (h : List.Forall₂ (fun a b => (b.map g).Perm (f a)) as bs) :
    (bs.flatten.map g).Perm (as.flatMap f) := by
  induction h with
  | nil => exact List.Perm.refl _
  | cons hab _ ih =>
      rw [List.flatten_cons, List.map_append, List.flatMap_cons]
      exact hab.append ih

end CapsuleMesh.Library
