import Mathlib.Data.List.Basic

/-!
# Numbered logs and their pages

A log numbers its elements consecutively.  A reader that asks for the elements after a
cursor gets a bounded page and the cursor of the next one; following the cursors cuts
the log into consecutive blocks.
-/

namespace CapsuleMesh.Library

variable {α : Type*}

/-- The elements of a list under consecutive numbers. -/
def numbered : ℕ → List α → List (ℕ × α)
  | _, [] => []
  | first, a :: as => (first, a) :: numbered (first + 1) as

@[simp] theorem numbered_nil (first : ℕ) : numbered first ([] : List α) = [] := rfl

@[simp] theorem map_snd_numbered (first : ℕ) (as : List α) :
    (numbered first as).map Prod.snd = as := by
  induction as generalizing first with
  | nil => rfl
  | cons a as ih => simp [numbered, ih]

theorem numbered_append (first : ℕ) (as bs : List α) :
    numbered first (as ++ bs) = numbered first as ++ numbered (first + as.length) bs := by
  induction as generalizing first with
  | nil => simp
  | cons a as ih =>
      have hshift : first + 1 + as.length = first + (as.length + 1) := by omega
      simp [numbered, ih, hshift]

theorem mem_numbered {first : ℕ} {as : List α} {r : ℕ × α} (h : r ∈ numbered first as) :
    first ≤ r.1 ∧ r.1 < first + as.length := by
  induction as generalizing first with
  | nil => simp at h
  | cons a as ih =>
      rcases List.mem_cons.mp h with rfl | h
      · simp
      · have hr := ih h
        simp only [List.length_cons]
        omega

/-- The numbers of a log increase. -/
theorem pairwise_numbered (first : ℕ) (as : List α) :
    (numbered first as).Pairwise fun r s => r.1 < s.1 := by
  induction as generalizing first with
  | nil => exact .nil
  | cons a as ih =>
      refine List.pairwise_cons.mpr ⟨?_, ih (first + 1)⟩
      intro r hr
      have hbound := mem_numbered hr
      exact hbound.1

theorem filter_numbered_lt (first m : ℕ) (as : List α) :
    (numbered first as).filter (fun r ↦ decide (r.1 < first + m)) = (numbered first as).take m := by
  induction as generalizing first m with
  | nil => simp
  | cons a as ih =>
      cases m with
      | zero =>
        rw [List.take_zero, List.filter_eq_nil_iff]
        intro r hr
        have hbound := mem_numbered hr
        simp only [decide_eq_true_eq]
        omega
      | succ m =>
        have hshift : first + (m + 1) = first + 1 + m := by omega
        rw [numbered, List.filter_cons_of_pos (by simp), List.take_succ_cons, hshift, ih]

/-- A window that starts within or after the log keeps its first elements. -/
theorem filter_numbered_window {first lo : ℕ} (m : ℕ) (as : List α) (h : first ≤ lo) :
    (numbered first as).filter (fun r => decide (lo ≤ r.1 ∧ r.1 < lo + m)) =
      ((numbered first as).filter fun r => decide (lo ≤ r.1)).take m := by
  induction as generalizing first with
  | nil => simp
  | cons a as ih =>
      rcases Nat.lt_or_eq_of_le h with hlt | rfl
      · rw [numbered, List.filter_cons_of_neg (by simp; omega),
          List.filter_cons_of_neg (by simp; omega)]
        exact ih hlt
      · have hall : ∀ r ∈ numbered first (a :: as), first ≤ r.1 := fun r hr => (mem_numbered hr).1
        have hself : (numbered first (a :: as)).filter (fun r => decide (first ≤ r.1)) =
            numbered first (a :: as) := by
          rw [List.filter_eq_self]
          simpa using hall
        rw [hself, ← filter_numbered_lt]
        refine List.filter_congr fun r hr => ?_
        simp [hall r hr]

/-- At most this many elements, when there is a bound. -/
def capped : Option ℕ → List α → List α
  | none, as => as
  | some c, as => as.take c

/-! ## Following the cursors -/

/-- The consecutive blocks of a list, the last one possibly shorter. -/
def blocks (limit : ℕ) (as : List α) : List (List α) :=
  if limit = 0 ∨ as.length ≤ limit then [as] else as.take limit :: blocks limit (as.drop limit)
termination_by as.length
decreasing_by
  rw [List.length_drop]
  omega

theorem flatten_blocks (limit : ℕ) (as : List α) : (blocks limit as).flatten = as := by
  induction as using blocks.induct limit with
  | case1 as h => rw [blocks, if_pos h]; simp
  | case2 as h ih => rw [blocks, if_neg h]; simp [ih]

/-- The page after a cursor, with the next cursor when there is more. -/
def pageAfter (rows : List (ℕ × α)) (limit after : ℕ) : List α × Option ℕ :=
  let later := rows.filter fun r => decide (after < r.1)
  if limit < later.length then
    ((later.take limit).map Prod.snd, (later.take limit).getLast?.map Prod.fst)
  else (later.map Prod.snd, none)

/-- The pages from a cursor on. -/
def follow (page : ℕ → List α × Option ℕ) : ℕ → ℕ → List (List α)
  | 0, _ => []
  | fuel + 1, after =>
      match page after with
      | (as, none) => [as]
      | (as, some next) => as :: follow page fuel next

/-- The elements after the last one of a page are those that the page left out. -/
theorem filter_after_last {rows : List (ℕ × α)} (hrows : rows.Pairwise fun r s => r.1 < s.1)
    {m : ℕ} {last : ℕ × α} (hlast : (rows.take m).getLast? = some last) :
    rows.filter (fun r => decide (last.1 < r.1)) = rows.drop m := by
  obtain ⟨init, hinit⟩ := List.getLast?_eq_some_iff.mp hlast
  have hsplit : rows = (init ++ [last]) ++ rows.drop m := by rw [← hinit, List.take_append_drop]
  rw [hsplit] at hrows
  obtain ⟨hfirst, -, hacross⟩ := List.pairwise_append.mp hrows
  obtain ⟨-, -, hinitLast⟩ := List.pairwise_append.mp hfirst
  have hleft : (init ++ [last]).filter (fun r => decide (last.1 < r.1)) = [] := by
    rw [List.filter_eq_nil_iff]
    intro r hr
    rcases List.mem_append.mp hr with hr | hr
    · have := hinitLast r hr last (by simp)
      simp only [decide_eq_true_eq]
      omega
    · obtain rfl := List.mem_singleton.mp hr
      simp
  have hright : (rows.drop m).filter (fun r => decide (last.1 < r.1)) = rows.drop m := by
    rw [List.filter_eq_self]
    intro r hr
    simpa using hacross last (by simp) r hr
  conv_lhs => rw [hsplit]
  rw [List.filter_append, hleft, hright, List.nil_append]

/-- A page is the last one, or it is full and its last element is where the next one
starts. -/
theorem pageAfter_cases {rows : List (ℕ × α)} (hrows : rows.Pairwise fun r s => r.1 < s.1)
    {limit : ℕ} (hlimit : 0 < limit) (after : ℕ) :
    let later := rows.filter fun r => decide (after < r.1)
    (later.length ≤ limit ∧ pageAfter rows limit after = (later.map Prod.snd, none)) ∨
    (∃ last, limit < later.length ∧ (later.take limit).getLast? = some last ∧
      pageAfter rows limit after = ((later.take limit).map Prod.snd, some last.1) ∧
      rows.filter (fun r => decide (last.1 < r.1)) = later.drop limit) := by
  intro later
  have hordered : later.Pairwise fun r s => r.1 < s.1 := hrows.sublist List.filter_sublist
  by_cases hmore : limit < later.length
  · obtain ⟨last, hlast⟩ : ∃ last, (later.take limit).getLast? = some last := by
      rw [← Option.isSome_iff_exists, List.getLast?_isSome]
      rw [ne_eq, List.take_eq_nil_iff, not_or]
      exact ⟨by omega, by rintro h; simp [h] at hmore⟩
    have hafter : after < last.1 := by
      have hmem : last ∈ later := List.take_subset _ _ (List.mem_of_getLast? hlast)
      simpa using (List.mem_filter.mp hmem).2
    refine .inr ⟨last, hmore, hlast, ?_, ?_⟩
    · simp only [pageAfter, later, if_pos hmore, hlast, Option.map_some]
    · rw [← filter_after_last hordered hlast, List.filter_filter]
      refine List.filter_congr fun r _ => ?_
      by_cases hr : last.1 < r.1
      · simp [hr, Nat.lt_trans hafter hr]
      · simp [hr]
  · exact .inl ⟨by omega, by simp only [pageAfter, later, if_neg hmore]⟩

/-- Following the cursors through an ordered log gives its blocks. -/
theorem follow_pageAfter {rows : List (ℕ × α)} (hrows : rows.Pairwise fun r s => r.1 < s.1)
    {limit : ℕ} (hlimit : 0 < limit) {fuel after : ℕ}
    (hfuel : (rows.filter fun r => decide (after < r.1)).length < fuel) :
    follow (pageAfter rows limit) fuel after =
      blocks limit ((rows.filter fun r => decide (after < r.1)).map Prod.snd) := by
  induction fuel generalizing after with
  | zero => omega
  | succ fuel ih =>
      obtain ⟨hlast, hpage⟩ | ⟨last, hmore, -, hpage, hnext⟩ := pageAfter_cases hrows hlimit after
      · rw [follow, hpage, blocks, if_pos (.inr (by rwa [List.length_map]))]
      · set later := rows.filter fun r => decide (after < r.1)
        have hblocks : blocks limit (later.map Prod.snd) =
            (later.take limit).map Prod.snd :: blocks limit ((later.drop limit).map Prod.snd) := by
          rw [blocks, if_neg (by rw [List.length_map]; omega), List.map_take, List.map_drop]
        rw [follow, hpage, hblocks]
        simp only
        rw [ih (by rw [hnext, List.length_drop]; omega), hnext]

end CapsuleMesh.Library
