import Mathlib.Data.List.Basic
import Mathlib.Order.Lattice

/-!
# Windows between marks

Marks on a time line open and close windows.  A window is open from the last opening mark before a
closing one; an opening mark that finds a window open opens it anew, and what lies between the two
is in no window.
-/

namespace CapsuleMesh.Library

inductive Mark where
  | opens
  | closes
  | neither
deriving DecidableEq

section

variable {τ : Type*}

/-- The windows of a list of marks, given when the open one was opened. -/
def windowsFrom : Option τ → List (Mark × τ) → List (τ × Option τ)
  | start, [] => start.toList.map (·, none)
  | _, (.opens, t) :: marks => windowsFrom (some t) marks
  | some start, (.closes, t) :: marks => (start, some t) :: windowsFrom none marks
  | none, (.closes, _) :: marks => windowsFrom none marks
  | start, (.neither, _) :: marks => windowsFrom start marks

/-- The windows that are closed by the end of the list. -/
def closedFrom : Option τ → List (Mark × τ) → List (τ × Option τ)
  | _, [] => []
  | _, (.opens, t) :: marks => closedFrom (some t) marks
  | some start, (.closes, t) :: marks => (start, some t) :: closedFrom none marks
  | none, (.closes, _) :: marks => closedFrom none marks
  | start, (.neither, _) :: marks => closedFrom start marks

/-- When an open window ends. -/
def ownEnd (marks : List (Mark × τ)) : Option τ :=
  (marks.find? fun m => m.1 = .closes).map Prod.snd

/-- An opening mark starts the window anew, whatever was open. -/
theorem windowsFrom_append_opens (start : Option τ) (before : List (Mark × τ)) (t : τ)
    (after : List (Mark × τ)) :
    windowsFrom start (before ++ (.opens, t) :: after) =
      closedFrom start before ++ windowsFrom (some t) after := by
  induction before generalizing start with
  | nil => cases start <;> simp [windowsFrom, closedFrom]
  | cons m before ih =>
      obtain ⟨mark, u⟩ := m
      rw [List.cons_append]
      cases mark with
      | opens => cases start <;> exact ih _
      | closes =>
        cases start with
        | none => exact ih _
        | some b => exact congrArg _ (ih _)
      | neither => cases start <;> exact ih _

theorem closedFrom_of_no_closes {marks : List (Mark × τ)} (h : ∀ m ∈ marks, m.1 ≠ .closes)
    (start : Option τ) : closedFrom start marks = [] := by
  induction marks generalizing start with
  | nil => rfl
  | cons m marks ih =>
      obtain ⟨mark, u⟩ := m
      have hrest := ih fun m hm => h m (List.mem_cons_of_mem _ hm)
      cases mark with
      | opens => cases start <;> exact hrest _
      | closes => exact absurd rfl (h _ List.mem_cons_self)
      | neither => cases start <;> exact hrest _

/-- A closed window ends at a mark of the list. -/
theorem end_of_mem_closedFrom {start : Option τ} {marks : List (Mark × τ)} {w : τ × Option τ}
    (hw : w ∈ closedFrom start marks) : ∃ stop ∈ marks.map Prod.snd, w.2 = some stop := by
  induction marks generalizing start with
  | nil => cases hw
  | cons m marks ih =>
      obtain ⟨mark, u⟩ := m
      have hlater {start' : Option τ} (h : w ∈ closedFrom start' marks) :
          ∃ stop ∈ ((mark, u) :: marks).map Prod.snd, w.2 = some stop := by
        obtain ⟨stop, hstop, heq⟩ := ih h
        exact ⟨stop, List.mem_cons_of_mem _ hstop, heq⟩
      cases mark with
      | opens => cases start <;> exact hlater hw
      | closes =>
        cases start with
        | none => exact hlater hw
        | some b =>
          rcases List.mem_cons.mp hw with rfl | hw
          · exact ⟨u, List.mem_cons_self, rfl⟩
          · exact hlater hw
      | neither => cases start <;> exact hlater hw

/-- A window begins where the open one was opened or at a mark of the list. -/
theorem start_of_mem_windowsFrom {start : Option τ} {marks : List (Mark × τ)} {w : τ × Option τ}
    (hw : w ∈ windowsFrom start marks) : w.1 ∈ start.toList ++ marks.map Prod.snd := by
  induction marks generalizing start with
  | nil =>
      obtain ⟨b, hb, rfl⟩ := List.mem_map.mp hw
      exact List.mem_append_left _ hb
  | cons m marks ih =>
      obtain ⟨mark, u⟩ := m
      have hmark {start' : Option τ} (hstart : start'.toList ⊆ start.toList ++ [u])
          (h : w ∈ windowsFrom start' marks) :
          w.1 ∈ start.toList ++ ((mark, u) :: marks).map Prod.snd := by
        rcases List.mem_append.mp (ih h) with hold | hnew
        · have hold := hstart hold
          simp only [List.mem_append, List.map_cons, List.mem_cons] at hold ⊢
          tauto
        · simp only [List.mem_append, List.map_cons, List.mem_cons]
          exact .inr (.inr hnew)
      cases mark with
      | opens => cases start <;> exact hmark (by simp) hw
      | closes =>
        cases start with
        | none => exact hmark (by simp) hw
        | some b =>
          rcases List.mem_cons.mp hw with rfl | hw
          · simp
          · exact hmark (by simp) hw
      | neither => cases start <;> exact hmark (by simp) hw

/-- The open window ends at its own end, and it begins where it was opened or where it was opened
anew before that. -/
theorem exists_window_of_open (t : τ) (marks : List (Mark × τ)) :
    ∃ w ∈ windowsFrom (some t) marks, w.2 = ownEnd marks ∧
      (w.1 = t ∨ ∃ between after, marks = between ++ (.opens, w.1) :: after ∧
        ∀ m ∈ between, m.1 ≠ .closes) := by
  induction marks generalizing t with
  | nil => exact ⟨(t, none), by simp [windowsFrom], rfl, .inl rfl⟩
  | cons m marks ih =>
      obtain ⟨mark, u⟩ := m
      cases mark with
      | opens =>
        obtain ⟨w, hw, hend, hstart⟩ := ih u
        refine ⟨w, hw, hend, .inr ?_⟩
        obtain hsame | ⟨between, after, rfl, hbetween⟩ := hstart
        · exact ⟨[], marks, by rw [hsame]; rfl, by simp⟩
        · exact ⟨(.opens, u) :: between, after, rfl, by simpa using hbetween⟩
      | closes => exact ⟨(t, some u), by simp [windowsFrom], rfl, .inl rfl⟩
      | neither =>
        obtain ⟨w, hw, hend, hstart⟩ := ih t
        refine ⟨w, hw, hend, ?_⟩
        obtain hsame | ⟨between, after, rfl, hbetween⟩ := hstart
        · exact .inl hsame
        · exact .inr ⟨(.neither, u) :: between, after, rfl, by simpa using hbetween⟩

end

section

variable {τ : Type*} [LinearOrder τ]

def InWindow (t : τ) (w : τ × Option τ) : Prop := w.1 ≤ t ∧ ∀ stop ∈ w.2, t < stop

/-- Every opening mark has a window that holds all of the times from it to its own end. -/
def EachCovers (marks : List (Mark × τ)) (times : List τ) : Prop :=
  ∀ before t after, marks = before ++ (.opens, t) :: after →
    ∃ w ∈ windowsFrom none marks, ∀ r ∈ times, t ≤ r → (∀ stop ∈ ownEnd after, r < stop) →
      InWindow r w

/-- The time lies between an opening mark and another one that opens the same window anew. -/
def BetweenOpenings (marks : List (Mark × τ)) (r : τ) : Prop :=
  ∃ before t between t' after,
    marks = before ++ (.opens, t) :: (between ++ (.opens, t') :: after) ∧
      (∀ m ∈ between, m.1 ≠ .closes) ∧ t ≤ r ∧ r < t'

variable {marks : List (Mark × τ)} {times : List τ}

/-- Such a time is in no window. -/
theorem BetweenOpenings.not_inWindow (hsorted : (marks.map Prod.snd).Pairwise (· ≤ ·)) {r : τ}
    (h : BetweenOpenings marks r) {w : τ × Option τ} (hw : w ∈ windowsFrom none marks) :
    ¬InWindow r w := by
  obtain ⟨before, t, between, t', after, rfl, hbetween, hr, hr'⟩ := h
  rw [windowsFrom_append_opens, windowsFrom_append_opens, closedFrom_of_no_closes hbetween,
    List.nil_append] at hw
  rw [List.map_append, List.map_cons, List.map_append, List.map_cons, List.pairwise_append,
    List.pairwise_cons, List.pairwise_append, List.pairwise_cons] at hsorted
  obtain ⟨-, ⟨-, -, ⟨hafter, -⟩, -⟩, hbefore⟩ := hsorted
  rintro ⟨hstart, hend⟩
  rcases List.mem_append.mp hw with hw | hw
  · obtain ⟨stop, hstop, hclosed⟩ := end_of_mem_closedFrom hw
    have hle := hbefore stop hstop t List.mem_cons_self
    exact absurd (hend stop hclosed) (not_lt.mpr (hle.trans hr))
  · have hle : t' ≤ w.1 := by
      rcases List.mem_append.mp (start_of_mem_windowsFrom hw) with hsame | hlater
      · exact (List.mem_singleton.mp hsame).ge
      · exact hafter _ hlater
    exact absurd (hle.trans hstart) (not_le.mpr hr')

/-- The time before which a window is opened anew comes before the window's own end. -/
theorem BetweenOpenings.before_end (hsorted : (marks.map Prod.snd).Pairwise (· ≤ ·))
    {before between after : List (Mark × τ)} {t t' stop : τ}
    (hmarks : marks = before ++ (.opens, t) :: (between ++ (.opens, t') :: after))
    (hbetween : ∀ m ∈ between, m.1 ≠ .closes)
    (hstop : ownEnd (between ++ (.opens, t') :: after) = some stop) : t' ≤ stop := by
  have hnone : (between.find? fun m => m.1 = .closes) = none := by
    rw [List.find?_eq_none]
    simpa using hbetween
  rw [ownEnd, List.find?_append, hnone, Option.none_or, List.find?_cons] at hstop
  simp only [reduceCtorEq, decide_false] at hstop
  obtain ⟨m, hm, rfl⟩ := Option.map_eq_some_iff.mp hstop
  rw [hmarks, List.map_append, List.map_cons, List.map_append, List.map_cons,
    List.pairwise_append, List.pairwise_cons, List.pairwise_append, List.pairwise_cons] at hsorted
  obtain ⟨-, ⟨-, -, ⟨hafter, -⟩, -⟩, -⟩ := hsorted
  exact hafter _ (List.mem_map_of_mem (List.mem_of_find?_eq_some hm))

/-- Every opening mark covers its times exactly when none of them is before a second opening. -/
theorem eachCovers_iff (hsorted : (marks.map Prod.snd).Pairwise (· ≤ ·)) :
    EachCovers marks times ↔ ∀ r ∈ times, ¬BetweenOpenings marks r := by
  constructor
  · intro hcovers r hr hbetween
    obtain ⟨before, t, between, t', after, hmarks, hclosed, hle, hlt⟩ := id hbetween
    obtain ⟨w, hw, hin⟩ := hcovers before t _ hmarks
    apply hbetween.not_inWindow hsorted hw
    apply hin r hr hle
    intro stop hstop
    exact hlt.trans_le (BetweenOpenings.before_end hsorted hmarks hclosed hstop)
  · rintro hnone before t after rfl
    obtain ⟨w, hw, hend, hstart⟩ := exists_window_of_open t after
    refine ⟨w, ?_, ?_⟩
    · rw [windowsFrom_append_opens]
      exact List.mem_append_right _ hw
    · intro r hr hle hstop
      refine ⟨?_, by rw [hend]; exact hstop⟩
      obtain hsame | ⟨between, after, rfl, hclosed⟩ := hstart
      · exact hsame.le.trans hle
      · by_contra hbefore
        exact hnone r hr
          ⟨before, t, between, w.1, after, rfl, hclosed, hle, not_le.mp hbefore⟩

end

end CapsuleMesh.Library
