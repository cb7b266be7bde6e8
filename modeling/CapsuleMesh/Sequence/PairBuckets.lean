import CapsuleMesh.Library.DoubledSeparator
import CapsuleMesh.Sequence.Counter

/-!
# The buckets of pairs

`pair_key` joins two ids by `::`, and `pair_counterparty_authenticated` reads the end of the joined
text.  Ids may hold the separator themselves.
-/

namespace CapsuleMesh.Sequence

open Library

/-- A missing or empty counterparty is the unknown party. -/
def IsUnknown (counterpartyId : Option String) : Prop :=
  orUnknown counterpartyId = UNKNOWN_COUNTERPARTY

/-- Two pairs of ids that are one text around `::`, the first of them split further to the left. -/
def Overlap (selfId counterpartyId selfId' counterpartyId' : String) : Prop :=
  (selfId' = selfId ++ ":" ∧ counterpartyId = ":" ++ counterpartyId') ∨
    ∃ t, selfId' = selfId ++ "::" ++ t ∧ counterpartyId = t ++ "::" ++ counterpartyId'

/-- An id that is not `unknown`, and makes a text that ends in `::unknown`. -/
def EndsLikeUnknown (counterpartyId : String) : Prop :=
  counterpartyId = ":" ++ UNKNOWN_COUNTERPARTY ∨
    ∃ t, counterpartyId = t ++ "::" ++ UNKNOWN_COUNTERPARTY

theorem pairKey_toList (selfId : String) (counterpartyId : Option String) :
    (pairKey selfId counterpartyId).toList =
      selfId.toList ++ ':' :: ':' :: (orUnknown counterpartyId).toList := by
  have hseparator : "::".toList = [':', ':'] := by decide
  rw [pairKey, String.toList_append, String.toList_append, hseparator, List.append_assoc]
  rfl

theorem shiftedRight_toList_iff (a b a' b' : String) :
    ShiftedRight ':' a.toList b.toList a'.toList b'.toList ↔ Overlap a b a' b' := by
  have hcolon : ":".toList = [':'] := by decide
  have hseparator : "::".toList = [':', ':'] := by decide
  have hjoin (s t : String) : (s ++ "::" ++ t).toList = s.toList ++ ':' :: ':' :: t.toList := by
    rw [String.toList_append, String.toList_append, hseparator, List.append_assoc]
    rfl
  unfold ShiftedRight Overlap
  refine or_congr (and_congr ?_ ?_) ?_
  · rw [← String.toList_inj, String.toList_append, hcolon]
  · rw [← String.toList_inj, String.toList_append, hcolon]
    rfl
  · constructor
    · rintro ⟨t, hself, hcounterparty⟩
      refine ⟨String.ofList t, ?_, ?_⟩
      · rw [← String.toList_inj, hjoin, String.toList_ofList, hself]
      · rw [← String.toList_inj, hjoin, String.toList_ofList, hcounterparty]
    · rintro ⟨t, rfl, rfl⟩
      exact ⟨t.toList, hjoin _ _, hjoin _ _⟩

/-- Two pairs share a bucket when they are the same or their ids overlap. -/
theorem pairKey_eq_iff (selfId selfId' : String) (c c' : Option String) :
    pairKey selfId c = pairKey selfId' c' ↔
      (selfId = selfId' ∧ orUnknown c = orUnknown c') ∨
        Overlap selfId (orUnknown c) selfId' (orUnknown c') ∨
        Overlap selfId' (orUnknown c') selfId (orUnknown c) := by
  rw [← String.toList_inj, pairKey_toList, pairKey_toList, append_doubled_eq_iff,
    shiftedRight_toList_iff, shiftedRight_toList_iff, String.toList_inj, String.toList_inj]

theorem Overlap.left_ne {a b a' b' : String} (h : Overlap a b a' b') : a ≠ a' := by
  intro heq
  exact ((shiftedRight_toList_iff a b a' b').mpr h).left_ne (congrArg String.toList heq)

/-- The tail `unknown` has no separator in it. -/
theorem not_overlap_unknown (a b b' : String) : ¬Overlap a UNKNOWN_COUNTERPARTY b b' := by
  have hcolon : ':' ∉ UNKNOWN_COUNTERPARTY.toList := by decide
  have hhead : ":".toList = [':'] := by decide
  have hseparator : "::".toList = [':', ':'] := by decide
  rintro (⟨-, h⟩ | ⟨t, -, h⟩)
  · apply hcolon
    rw [h, String.toList_append, hhead]
    exact List.mem_cons_self
  · apply hcolon
    rw [h, String.toList_append, String.toList_append, hseparator]
    simp

theorem pairCounterpartyAuthenticated_eq_false_iff (pair : String) :
    pairCounterpartyAuthenticated pair = false ↔ ∃ selfId, pair = pairKey selfId none := by
  have hend : ("::" ++ UNKNOWN_COUNTERPARTY).toList =
      ':' :: ':' :: UNKNOWN_COUNTERPARTY.toList := by decide
  rw [pairCounterpartyAuthenticated, Bool.not_eq_false', List.isSuffixOf_iff_suffix, hend]
  constructor
  · rintro ⟨before, h⟩
    refine ⟨String.ofList before, ?_⟩
    rw [← String.toList_inj, pairKey_toList, String.toList_ofList]
    exact h.symm
  · rintro ⟨selfId, rfl⟩
    rw [pairKey_toList]
    exact List.suffix_append _ _

/-- A bucket counts as unauthenticated when its counterparty is the unknown party or ends like
it. -/
theorem unauthenticated_pairKey_iff (selfId : String) (c : Option String) :
    pairCounterpartyAuthenticated (pairKey selfId c) = false ↔
      IsUnknown c ∨ EndsLikeUnknown (orUnknown c) := by
  have hunknown : orUnknown none = UNKNOWN_COUNTERPARTY := rfl
  rw [pairCounterpartyAuthenticated_eq_false_iff]
  simp only [pairKey_eq_iff, hunknown]
  constructor
  · rintro ⟨selfId', ⟨-, hsame⟩ | (⟨-, hhead⟩ | ⟨t, -, htail⟩) | h⟩
    · exact .inl hsame
    · exact .inr (.inl hhead)
    · exact .inr (.inr ⟨t, htail⟩)
    · exact absurd h (not_overlap_unknown _ _ _)
  · rintro (hsame | hhead | ⟨t, htail⟩)
    · exact ⟨selfId, .inl ⟨rfl, hsame⟩⟩
    · exact ⟨selfId ++ ":", .inr (.inl (.inl ⟨rfl, hhead⟩))⟩
    · exact ⟨selfId ++ "::" ++ t, .inr (.inl (.inr ⟨t, rfl, htail⟩))⟩

/-- The second pair has a bucket of its own unless it is the first, and the first pair's bucket
counts as unauthenticated exactly when its counterparty is the unknown party. -/
def Faithful (selfId : String) (c : Option String) (selfId' : String) (c' : Option String) : Prop :=
  (pairKey selfId c = pairKey selfId' c' → selfId = selfId' ∧ orUnknown c = orUnknown c') ∧
    (pairCounterpartyAuthenticated (pairKey selfId c) = false ↔ IsUnknown c)

theorem not_endsLikeUnknown_unknown : ¬EndsLikeUnknown UNKNOWN_COUNTERPARTY := by
  rintro (hhead | ⟨t, htail⟩)
  · exact not_overlap_unknown "" ":" UNKNOWN_COUNTERPARTY (.inl ⟨rfl, hhead⟩)
  · exact not_overlap_unknown "" _ UNKNOWN_COUNTERPARTY (.inr ⟨t, rfl, htail⟩)

/-- Buckets are faithful exactly for ids that do not overlap and a counterparty that does not end
like the unknown party. -/
theorem faithful_iff (selfId : String) (c : Option String) (selfId' : String) (c' : Option String) :
    Faithful selfId c selfId' c' ↔
      ¬Overlap selfId (orUnknown c) selfId' (orUnknown c') ∧
        ¬Overlap selfId' (orUnknown c') selfId (orUnknown c) ∧
        ¬EndsLikeUnknown (orUnknown c) := by
  unfold Faithful
  rw [pairKey_eq_iff, unauthenticated_pairKey_iff]
  constructor
  · rintro ⟨hinjective, hunknown⟩
    refine ⟨?_, ?_, ?_⟩
    · intro hoverlap
      exact hoverlap.left_ne (hinjective (.inr (.inl hoverlap))).1
    · intro hoverlap
      exact hoverlap.left_ne (hinjective (.inr (.inr hoverlap))).1.symm
    · intro hends
      have hsame : orUnknown c = UNKNOWN_COUNTERPARTY := hunknown.mp (.inr hends)
      rw [hsame] at hends
      exact not_endsLikeUnknown_unknown hends
  · rintro ⟨hright, hleft, hends⟩
    refine ⟨?_, ?_⟩
    · rintro (hsame | hoverlap | hoverlap)
      · exact hsame
      · exact absurd hoverlap hright
      · exact absurd hoverlap hleft
    · exact or_iff_left hends

/-- Two requesters share a bucket, and a named one is filed as unknown. -/
theorem buckets_not_faithful :
    (pairKey "node" (some "org::alice") = pairKey "node::org" (some "alice") ∧
      ¬Faithful "node" (some "org::alice") "node::org" (some "alice")) ∧
    (pairCounterpartyAuthenticated (pairKey "node" (some "alice::unknown")) = false ∧
      ¬IsUnknown (some "alice::unknown")) := by
  have hshared : pairKey "node" (some "org::alice") = pairKey "node::org" (some "alice") := by
    decide
  refine ⟨⟨hshared, ?_⟩, ?_, ?_⟩
  · intro h
    exact absurd (h.1 hshared).1 (by decide)
  · decide
  · unfold IsUnknown
    decide

end CapsuleMesh.Sequence
