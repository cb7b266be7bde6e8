import Mathlib.Data.List.Nodup

/-!
# Drawing from a tie band

Candidates are scored; one is drawn from those within a width of the best score, and drawn again
from the rest while the drawn ones fail a check.  The scores are compared as floating-point numbers
are: what is not a number compares with nothing, itself included.
-/

namespace CapsuleMesh.Library

/-- Comparison and subtraction of scores. -/
structure ScoreOrder (F : Type*) where
  ge : F → F → Bool
  gt : F → F → Bool
  sub : F → F → F

variable {F : Type*}

/-- The laws on the scores that are numbers, those that compare with themselves, and for a width
that may be subtracted on both sides. -/
structure ScoreOrder.Lawful (O : ScoreOrder F) (width : F) : Prop where
  left_number : ∀ {a b}, O.ge a b = true → O.ge a a = true
  right_number : ∀ {a b}, O.ge a b = true → O.ge b b = true
  ge_trans : ∀ {a b c}, O.ge a b = true → O.ge b c = true → O.ge a c = true
  gt_iff : ∀ {a b}, O.gt a b = true ↔ O.ge a a = true ∧ O.ge b b = true ∧ O.ge b a = false
  ge_total : ∀ {a b}, O.ge a a = true → O.ge b b = true → O.ge a b = true ∨ O.ge b a = true
  sub_number : ∀ {a}, O.ge (O.sub a width) (O.sub a width) = true → O.ge a a = true
  sub_mono : ∀ {a b}, O.ge a b = true → O.ge (O.sub a width) (O.sub a width) = true →
    O.ge (O.sub a width) (O.sub b width) = true

namespace ScoreOrder

variable (O : ScoreOrder F)

/-- `max` of a list with a first element: a later element replaces the maximum if it is greater. -/
def max (first : F) (rest : List F) : F := rest.foldl (fun m x => if O.gt x m then x else m) first

theorem max_mem (first : F) (rest : List F) : O.max first rest ∈ first :: rest := by
  induction rest generalizing first with
  | nil => exact List.mem_cons_self
  | cons x rest ih =>
      rw [max, List.foldl_cons]
      rcases List.mem_cons.mp (ih (if O.gt x first then x else first)) with hfirst | hrest
      · rw [max] at hfirst
        rw [hfirst]
        split_ifs
        · exact List.mem_cons_of_mem _ List.mem_cons_self
        · exact List.mem_cons_self
      · exact List.mem_cons_of_mem _ (List.mem_cons_of_mem _ hrest)

/-- A maximum that is a number is above all the numbers, and the first element is one of them. -/
theorem ge_max {width : F} (hO : O.Lawful width) {first : F} {rest : List F}
    (h : O.ge (O.max first rest) (O.max first rest) = true) :
    O.ge (O.max first rest) first = true ∧
      ∀ x ∈ rest, O.ge x x = true → O.ge (O.max first rest) x = true := by
  induction rest generalizing first with
  | nil => exact ⟨h, fun x hx => absurd hx List.not_mem_nil⟩
  | cons x rest ih =>
      have hstep : O.max first (x :: rest) = O.max (if O.gt x first then x else first) rest := rfl
      rw [hstep] at h ⊢
      obtain ⟨hmax, hrest⟩ := ih h
      by_cases hgt : O.gt x first = true
      · rw [if_pos hgt] at hmax hrest ⊢
        obtain ⟨hx, hfirst, hlt⟩ := hO.gt_iff.mp hgt
        have hge : O.ge x first = true := by
          rcases hO.ge_total hx hfirst with hge | hle
          · exact hge
          · rw [hlt] at hle
            cases hle
        refine ⟨hO.ge_trans hmax hge, fun y hy hnumber => ?_⟩
        rcases List.mem_cons.mp hy with rfl | hy
        · exact hmax
        · exact hrest y hy hnumber
      · rw [if_neg hgt] at hmax hrest ⊢
        refine ⟨hmax, fun y hy hnumber => ?_⟩
        rcases List.mem_cons.mp hy with rfl | hy
        · have hfirst := hO.right_number hmax
          have hge : O.ge first y = true := by
            by_contra hne
            exact hgt (hO.gt_iff.mpr ⟨hnumber, hfirst, Bool.not_eq_true _ ▸ hne⟩)
          exact hO.ge_trans hmax hge
        · exact hrest y hy hnumber

end ScoreOrder

/-! ### The draw -/

section

variable {α κ : Type*} [DecidableEq κ] (key : α → κ) (O : ScoreOrder F) (score : α → F) (width : F)
  (choose : ℕ → (n : ℕ) → Fin (n + 1)) (check : Option (α → Bool))

/-- The best score of the candidates. -/
def topScore (c : α) (rest : List α) : F := O.max (score c) (rest.map score)

def tieBand : List α → List α
  | [] => []
  | c :: rest => (c :: rest).filter fun x => O.ge (score x) (O.sub (topScore O score c rest) width)

variable {key O score width choose check}

theorem mem_of_mem_tieBand {remaining : List α} {x : α} (hx : x ∈ tieBand O score width remaining) :
    x ∈ remaining := by
  cases remaining with
  | nil => exact hx
  | cons c rest => exact (List.mem_filter.mp hx).1

variable (key) in
/-- The candidates without the drawn one. -/
def rejecting (pick : α) (remaining : List α) : List α :=
  remaining.filter fun c => key c ≠ key pick

variable (key) in
theorem length_rejecting_lt {remaining : List α} {pick : α} (h : pick ∈ remaining) :
    (rejecting key pick remaining).length < remaining.length :=
  List.length_filter_lt_length_iff_exists.mpr ⟨pick, h, by simp⟩

theorem mem_rejecting {remaining : List α} {pick c : α} (hkeys : (remaining.map key).Nodup)
    (hpick : pick ∈ remaining) :
    c ∈ rejecting key pick remaining ↔ c ∈ remaining ∧ c ≠ pick := by
  rw [rejecting, List.mem_filter, decide_eq_true_eq]
  apply and_congr_right
  intro hc
  apply not_congr
  exact ⟨fun h => List.inj_on_of_nodup_map hkeys hc hpick h, fun h => congrArg key h⟩

theorem nodup_rejecting {remaining : List α} (pick : α) (hkeys : (remaining.map key).Nodup) :
    ((rejecting key pick remaining).map key).Nodup :=
  hkeys.sublist (List.filter_sublist.map key)

variable (key O score width choose check)

/-- The drawn candidate with its band, `none` when the candidates ran out; an empty band has
nothing to draw from.  `choose` gives the place that is drawn in each round. -/
def drawFrom (round : ℕ) (remaining : List α) : Except Unit (Option (α × List α)) :=
  if remaining = [] then .ok none
  else
    match _hband : tieBand O score width remaining with
    | [] => .error ()
    | b :: bs =>
        let pick := (b :: bs).get (choose round bs.length)
        match check with
        | none => .ok (some (pick, b :: bs))
        | some passes =>
          if passes pick then .ok (some (pick, b :: bs))
          else drawFrom (round + 1) (rejecting key pick remaining)
  termination_by remaining.length
  decreasing_by
    apply length_rejecting_lt
    have hpick : (b :: bs).get (choose round bs.length) ∈ tieBand O score width remaining := by
      rw [_hband]
      exact List.get_mem _ _
    exact mem_of_mem_tieBand hpick

variable {key O score width choose check}

/-- The candidate fails the check that is given. -/
def Fails (check : Option (α → Bool)) (c : α) : Prop := ∃ passes ∈ check, passes c = false

/-- The candidate passes the check, if one is given, and its score is within the width of the best
one of those that were not drawn and rejected before it. -/
structure DrawnFrom (O : ScoreOrder F) (score : α → F) (width : F) (check : Option (α → Bool))
    (remaining : List α) (pick : α) : Prop where
  mem : pick ∈ remaining
  passes : ∀ passes ∈ check, passes pick = true
  band : ∃ rejected : List α, pick ∉ rejected ∧ (∀ c ∈ rejected, Fails check c) ∧
    ∃ best ∈ remaining, best ∉ rejected ∧
      (∀ c ∈ remaining, c ∉ rejected → O.ge (score best) (score c) = true) ∧
      O.ge (score pick) (O.sub (score best) width) = true

/-- Each candidate is within the width of its own score. -/
def SelfBanded (O : ScoreOrder F) (score : α → F) (width : F) (remaining : List α) : Prop :=
  ∀ c ∈ remaining, O.ge (score c) (O.sub (score c) width) = true

variable (O score width) in
theorem exists_top (remaining : List α) (hne : remaining ≠ []) :
    ∃ best ∈ remaining, tieBand O score width remaining =
      remaining.filter (fun x => O.ge (score x) (O.sub (score best) width)) ∧
      ∀ {width' : F}, O.Lawful width' → O.ge (score best) (score best) = true →
        ∀ c ∈ remaining, O.ge (score c) (score c) = true → O.ge (score best) (score c) = true := by
  cases remaining with
  | nil => exact absurd rfl hne
  | cons c rest =>
      have htop := O.max_mem (score c) (rest.map score)
      rw [← List.map_cons, List.mem_map] at htop
      obtain ⟨best, hbest, heq⟩ := htop
      refine ⟨best, hbest, by rw [tieBand, topScore, heq], fun hO hnumber x hx hxnumber => ?_⟩
      rw [heq] at hnumber ⊢
      obtain ⟨hfirst, hrest⟩ := O.ge_max hO hnumber
      rcases List.mem_cons.mp hx with rfl | hx
      · exact hfirst
      · exact hrest _ (List.mem_map_of_mem hx) hxnumber

theorem drawFrom_of_band_nil {round : ℕ} {remaining : List α} (hne : remaining ≠ [])
    (hband : tieBand O score width remaining = []) :
    drawFrom key O score width choose check round remaining = .error () := by
  rw [drawFrom, if_neg hne]
  split
  · rfl
  · next h => cases hband.symm.trans h

variable (key choose check) in
/-- One round with candidates left and a band to draw from. -/
theorem drawFrom_round (round : ℕ) {remaining : List α} (hne : remaining ≠ [])
    (hband : tieBand O score width remaining ≠ []) :
    ∃ pick band, pick ∈ tieBand O score width remaining ∧
      (check = none → drawFrom key O score width choose check round remaining =
        .ok (some (pick, band))) ∧
      ∀ passes, check = some passes → drawFrom key O score width choose check round remaining =
        if passes pick then .ok (some (pick, band))
        else drawFrom key O score width choose check (round + 1)
          (rejecting key pick remaining) := by
  rw [drawFrom, if_neg hne]
  split
  · next h => exact absurd h hband
  · next b bs h =>
      refine ⟨(b :: bs).get (choose round bs.length), b :: bs, ?_, ?_, ?_⟩
      · rw [h]
        exact List.get_mem _ _
      · rintro rfl
        rfl
      · rintro passes rfl
        rfl

/-- What is drawn after a rejection is drawn from all the candidates, with one more rejected. -/
theorem drawnFrom_after_reject {remaining : List α} {pick later : α}
    (hkeys : (remaining.map key).Nodup) (hmem : pick ∈ remaining) (hfails : Fails check pick)
    (h : DrawnFrom O score width check (rejecting key pick remaining) later) :
    DrawnFrom O score width check remaining later := by
  obtain ⟨hlater, hpasses, rejected, hnotin, hrejected, best, hbest, hbestNot, hmax, hband⟩ := h
  obtain ⟨hlater, hne⟩ := (mem_rejecting hkeys hmem).mp hlater
  obtain ⟨hbest, hbestNe⟩ := (mem_rejecting hkeys hmem).mp hbest
  refine ⟨hlater, hpasses, pick :: rejected, ?_, ?_, best, hbest, ?_, ?_, hband⟩
  · rw [List.mem_cons, not_or]
    exact ⟨hne, hnotin⟩
  · intro c hc
    rcases List.mem_cons.mp hc with rfl | hc
    · exact hfails
    · exact hrejected c hc
  · rw [List.mem_cons, not_or]
    exact ⟨hbestNe, hbestNot⟩
  · intro c hc hcNot
    rw [List.mem_cons, not_or] at hcNot
    exact hmax c ((mem_rejecting hkeys hmem).mpr ⟨hc, hcNot.1⟩) hcNot.2

/-- The draw from candidates that are all within their own bands: it ends, with a candidate that
passes, or with none because none passes. -/
theorem drawFrom_spec (hO : O.Lawful width) {remaining : List α} (round : ℕ)
    (hkeys : (remaining.map key).Nodup) (hself : SelfBanded O score width remaining) :
    (∃ pick band, drawFrom key O score width choose check round remaining =
        .ok (some (pick, band)) ∧ DrawnFrom O score width check remaining pick) ∨
      drawFrom key O score width choose check round remaining = .ok none ∧
        ∀ c ∈ remaining, Fails check c := by
  induction hlength : remaining.length using Nat.strongRecOn generalizing remaining round with
  | ind n ih =>
    by_cases hne : remaining = []
    · right
      rw [hne, drawFrom, if_pos rfl]
      exact ⟨rfl, fun c hc => absurd hc List.not_mem_nil⟩
    obtain ⟨best, hbest, htieBand, hmax⟩ := exists_top O score width remaining hne
    have hnumbers : ∀ c ∈ remaining, O.ge (score c) (score c) = true :=
      fun c hc => hO.left_number (hself c hc)
    have hbestOf : ∀ c ∈ remaining, O.ge (score best) (score c) = true :=
      fun c hc => hmax hO (hnumbers best hbest) c hc (hnumbers c hc)
    have hband : tieBand O score width remaining ≠ [] := by
      rw [htieBand]
      exact List.ne_nil_of_mem (List.mem_filter.mpr ⟨hbest, hself best hbest⟩)
    obtain ⟨pick, band, hpick, hnone, hsome⟩ := drawFrom_round key choose check round hne hband
    have hmem := mem_of_mem_tieBand hpick
    rw [htieBand, List.mem_filter] at hpick
    have hfirst : (∀ passes ∈ check, passes pick = true) →
        DrawnFrom O score width check remaining pick := fun hpasses =>
      ⟨hmem, hpasses, [], List.not_mem_nil, fun c hc => absurd hc List.not_mem_nil, best, hbest,
        List.not_mem_nil, fun c hc _ => hbestOf c hc, hpick.2⟩
    cases hcheck : check with
    | none =>
        left
        refine ⟨pick, band, ?_, ?_⟩
        · rw [← hcheck]
          exact hnone hcheck
        · rw [← hcheck]
          apply hfirst
          intro passes hpasses
          cases hcheck.symm.trans hpasses
    | some passes =>
        rw [← hcheck]
        have hstep := hsome passes hcheck
        by_cases hpasses : passes pick = true
        · left
          rw [if_pos hpasses] at hstep
          refine ⟨pick, band, hstep, hfirst ?_⟩
          intro passes' hpasses'
          cases hcheck.symm.trans hpasses'
          exact hpasses
        · rw [if_neg hpasses] at hstep
          have hfails : Fails check pick := ⟨passes, hcheck, Bool.not_eq_true _ ▸ hpasses⟩
          have hless := length_rejecting_lt key hmem
          rw [hlength] at hless
          have hrest : SelfBanded O score width (rejecting key pick remaining) :=
            fun c hc => hself c ((mem_rejecting hkeys hmem).mp hc).1
          rw [hstep]
          rcases ih _ hless (round + 1) (nodup_rejecting pick hkeys) hrest rfl with
            ⟨later, band', hdraw, hlater⟩ | ⟨hdraw, hall⟩
          · exact .inl ⟨later, band', hdraw, drawnFrom_after_reject hkeys hmem hfails hlater⟩
          · refine .inr ⟨hdraw, fun c hc => ?_⟩
            by_cases hsame : c = pick
            · rw [hsame]
              exact hfails
            · exact hall c ((mem_rejecting hkeys hmem).mpr ⟨hc, hsame⟩)

/-- A candidate outside its own band is never drawn, so a check that always fails runs into an
empty band. -/
theorem drawFrom_error (hO : O.Lawful width) {remaining : List α} (round : ℕ)
    (hkeys : (remaining.map key).Nodup) {c : α} (hc : c ∈ remaining)
    (hout : ¬ O.ge (score c) (O.sub (score c) width) = true) :
    drawFrom key O score width choose (some fun _ => false) round remaining = .error () := by
  induction hlength : remaining.length using Nat.strongRecOn generalizing remaining round with
  | ind n ih =>
    have hne : remaining ≠ [] := List.ne_nil_of_mem hc
    by_cases hband : tieBand O score width remaining = []
    · exact drawFrom_of_band_nil hne hband
    obtain ⟨pick, band, hpick, -, hsome⟩ :=
      drawFrom_round key choose (some fun _ => false) round hne hband
    have hmem := mem_of_mem_tieBand hpick
    have hnotin : c ∉ tieBand O score width remaining := by
      obtain ⟨best, hbest, htieBand, hmax⟩ := exists_top O score width remaining hne
      rw [htieBand, List.mem_filter]
      rintro ⟨-, hge⟩
      have hsub := hO.right_number hge
      have hbestOf := hmax hO (hO.sub_number hsub) c hc (hO.left_number hge)
      exact hout (hO.ge_trans hge (hO.sub_mono hbestOf hsub))
    have hkeep : c ≠ pick := fun h => hnotin (h ▸ hpick)
    have hless := length_rejecting_lt key hmem
    rw [hlength] at hless
    rw [hsome _ rfl, if_neg Bool.false_ne_true]
    exact ih _ hless (round + 1) (nodup_rejecting pick hkeys)
      ((mem_rejecting hkeys hmem).mpr ⟨hc, hkeep⟩) rfl

end

end CapsuleMesh.Library
