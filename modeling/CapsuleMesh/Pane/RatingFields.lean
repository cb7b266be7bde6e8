import CapsuleMesh.Pane.Pages

/-!
# The guard against ratings

`assert_no_rating_fields` of `self_accountability.py`.  It skips the value of a disclaimer key with
the key, so that what stands below a disclaimer is not looked at.
-/

namespace CapsuleMesh.Pane

open Python

/-- The forbidden substring of a key.  Characters outside ASCII that `lower` turns into letters of
ASCII complete none of the four words. -/
def forbiddenIn (key : String) : Option String :=
  FORBIDDEN_RATING_KEYS.find? fun forbidden =>
    key.toLower.toList.tails.any forbidden.toList.isPrefixOf

def ratingFieldError (path key forbidden : String) : PyError :=
  .valueError (path ++ "." ++ key ++ " looks like a rating field (matches " ++ pyRepr forbidden ++ ")")

mutual

/-- `assert_no_rating_fields`. -/
def assertNoRatingFields (path : String) : Json → Py Unit
  | .obj members => assertMembers path members
  | .arr elems => assertElems path 0 elems
  | _ => .ok ()

def assertMembers (path : String) : List (String × Json) → Py Unit
  | [] => .ok ()
  | (key, sub) :: members =>
      if key ∈ SAFE_DISCLAIMER_KEYS then assertMembers path members
      else
        match forbiddenIn key with
        | some forbidden => .error (ratingFieldError path key forbidden)
        | none => do
          assertNoRatingFields (path ++ "." ++ key) sub
          assertMembers path members

def assertElems (path : String) : ℕ → List Json → Py Unit
  | _, [] => .ok ()
  | i, item :: items => do
      assertNoRatingFields (path ++ "[" ++ toString i ++ "]") item
      assertElems path (i + 1) items

end

/-! ## Keys at any depth -/

/-- The value holds the key below these keys, outermost first. -/
inductive KeyAt : Json → List String → String → Prop
  | here {members : List (String × Json)} {key : String} {value : Json}
      (h : (key, value) ∈ members) : KeyAt (.obj members) [] key
  | member {members : List (String × Json)} {outer : String} {value : Json} {path : List String}
      {key : String} (h : (outer, value) ∈ members) (hkey : KeyAt value path key) :
      KeyAt (.obj members) (outer :: path) key
  | elem {elems : List Json} {value : Json} {path : List String} {key : String} (h : value ∈ elems)
      (hkey : KeyAt value path key) : KeyAt (.arr elems) path key

/-- The key contains a forbidden text, in letters of any case. -/
def HoldsRating (key : String) : Prop :=
  ∃ forbidden ∈ FORBIDDEN_RATING_KEYS, ∃ before middle after,
    key.toList = before ++ (middle ++ after) ∧ middle.map Char.toLower = forbidden.toList

/-- A rating that is no disclaimer. -/
def RatingAt (value : Json) (path : List String) (key : String) : Prop :=
  KeyAt value path key ∧ key ∉ SAFE_DISCLAIMER_KEYS ∧ HoldsRating key

theorem contains_iff (key forbidden : String) :
    key.toLower.toList.tails.any forbidden.toList.isPrefixOf = true ↔
      ∃ before middle after, key.toList = before ++ (middle ++ after) ∧
        middle.map Char.toLower = forbidden.toList := by
  have hlower : key.toLower.toList = key.toList.map Char.toLower := String.toList_map
  rw [hlower, List.any_eq_true]
  constructor
  · rintro ⟨tail, htail, hprefix⟩
    obtain ⟨before, htail⟩ := (List.mem_tails ..).mp htail
    obtain ⟨after, rfl⟩ := List.isPrefixOf_iff_prefix.mp hprefix
    obtain ⟨before', rest, hkey, rfl, hrest⟩ := List.map_eq_append_iff.mp htail.symm
    obtain ⟨middle, after', rfl, hmiddle, rfl⟩ := List.map_eq_append_iff.mp hrest
    exact ⟨before', middle, after', hkey, hmiddle⟩
  · rintro ⟨before, middle, after, hkey, hmiddle⟩
    have hsuffix : middle ++ after <:+ key.toList := by
      rw [hkey]
      exact List.suffix_append _ _
    refine ⟨(middle ++ after).map Char.toLower, ?_, ?_⟩
    · rw [List.mem_tails]
      exact hsuffix.map Char.toLower
    · rw [List.isPrefixOf_iff_prefix, List.map_append, hmiddle]
      exact List.prefix_append _ _

theorem forbiddenIn_eq_none_iff (key : String) : forbiddenIn key = none ↔ ¬ HoldsRating key := by
  rw [forbiddenIn, List.find?_eq_none]
  simp only [contains_iff]
  exact ⟨fun h ⟨forbidden, hmem, hfound⟩ => h forbidden hmem hfound,
    fun h forbidden hmem hfound => h ⟨forbidden, hmem, hfound⟩⟩

/-- No rating stands in the value, but below a disclaimer. -/
def Unrated (value : Json) : Prop :=
  ∀ path key, RatingAt value path key → ∃ outer ∈ path, outer ∈ SAFE_DISCLAIMER_KEYS

theorem unrated_obj_cons {key : String} {value : Json} {members : List (String × Json)} :
    Unrated (.obj ((key, value) :: members)) ↔
      (key ∈ SAFE_DISCLAIMER_KEYS ∨ ¬ HoldsRating key ∧ Unrated value) ∧ Unrated (.obj members) := by
  constructor
  · intro h
    constructor
    · by_cases hsafe : key ∈ SAFE_DISCLAIMER_KEYS
      · exact .inl hsafe
      refine .inr ⟨?_, ?_⟩
      · intro hrating
        obtain ⟨outer, houter, -⟩ := h [] key ⟨.here List.mem_cons_self, hsafe, hrating⟩
        cases houter
      · rintro path inner ⟨hkey, hinner⟩
        obtain ⟨outer, houter, hdisclaimer⟩ := h (key :: path) inner
          ⟨.member List.mem_cons_self hkey, hinner⟩
        obtain rfl | houter := List.mem_cons.mp houter
        · exact absurd hdisclaimer hsafe
        · exact ⟨outer, houter, hdisclaimer⟩
    · rintro path inner ⟨hkey, hinner⟩
      apply h path inner
      refine ⟨?_, hinner⟩
      cases hkey with
      | here hmem => exact .here (List.mem_cons_of_mem _ hmem)
      | member hmem hkey => exact .member (List.mem_cons_of_mem _ hmem) hkey
  · rintro ⟨hfirst, hrest⟩ path inner ⟨hkey, hinner⟩
    cases hkey with
    | here hmem =>
        obtain heq | hmem := List.mem_cons.mp hmem
        · obtain ⟨rfl, rfl⟩ := Prod.mk.inj heq
          obtain hsafe | ⟨hclear, -⟩ := hfirst
          · exact absurd hsafe hinner.1
          · exact absurd hinner.2 hclear
        · exact hrest [] inner ⟨.here hmem, hinner⟩
    | @member _ outer sub path _ hmem hkey =>
        obtain heq | hmem := List.mem_cons.mp hmem
        · obtain ⟨rfl, rfl⟩ := Prod.mk.inj heq
          obtain hsafe | ⟨-, hbelow⟩ := hfirst
          · exact ⟨outer, List.mem_cons_self, hsafe⟩
          · obtain ⟨deeper, hdeeper, hdisclaimer⟩ := hbelow path inner ⟨hkey, hinner⟩
            exact ⟨deeper, List.mem_cons_of_mem _ hdeeper, hdisclaimer⟩
        · exact hrest (outer :: path) inner ⟨.member hmem hkey, hinner⟩

theorem unrated_arr_cons {item : Json} {items : List Json} :
    Unrated (.arr (item :: items)) ↔ Unrated item ∧ Unrated (.arr items) := by
  constructor
  · intro h
    constructor
    · rintro path key ⟨hkey, hrating⟩
      exact h path key ⟨.elem List.mem_cons_self hkey, hrating⟩
    · rintro path key ⟨hkey, hrating⟩
      apply h path key
      refine ⟨?_, hrating⟩
      cases hkey with
      | elem hmem hkey => exact .elem (List.mem_cons_of_mem _ hmem) hkey
  · rintro ⟨hitem, hitems⟩ path key ⟨hkey, hrating⟩
    cases hkey with
    | elem hmem hkey =>
        obtain rfl | hmem := List.mem_cons.mp hmem
        · exact hitem path key ⟨hkey, hrating⟩
        · exact hitems path key ⟨.elem hmem hkey, hrating⟩

theorem unrated_of_no_key {value : Json} (h : ∀ path key, ¬ KeyAt value path key) : Unrated value :=
  fun path key hrating => absurd hrating.1 (h path key)

mutual

theorem assertNoRatingFields_ok_iff : ∀ (value : Json) (path : String),
    assertNoRatingFields path value = .ok () ↔ Unrated value
  | .obj members, path => by
      rw [assertNoRatingFields]
      exact assertMembers_ok_iff members path
  | .arr elems, path => by
      rw [assertNoRatingFields]
      exact assertElems_ok_iff elems path 0
  | .null, path | .bool _, path | .int _, path | .float _, path | .str _, path => by
      rw [assertNoRatingFields]
      · apply iff_of_true rfl
        apply unrated_of_no_key
        intro _ _ hkey
        cases hkey
      all_goals simp

theorem assertMembers_ok_iff : ∀ (members : List (String × Json)) (path : String),
    assertMembers path members = .ok () ↔ Unrated (.obj members)
  | [], path => by
      rw [assertMembers]
      apply iff_of_true rfl
      apply unrated_of_no_key
      intro _ _ hkey
      cases hkey with
      | here hmem => cases hmem
      | member hmem _ => cases hmem
  | (key, sub) :: members, path => by
      rw [assertMembers, unrated_obj_cons]
      by_cases hsafe : key ∈ SAFE_DISCLAIMER_KEYS
      · rw [if_pos hsafe, assertMembers_ok_iff members path]
        simp [hsafe]
      · rw [if_neg hsafe]
        cases hforbidden : forbiddenIn key with
        | some forbidden =>
          have hrating : HoldsRating key := by
            by_contra hclear
            rw [(forbiddenIn_eq_none_iff key).mpr hclear] at hforbidden
            cases hforbidden
          simp [hsafe, hrating]
        | none =>
          have hclear := (forbiddenIn_eq_none_iff key).mp hforbidden
          simp only [Py.bind_eq_ok, assertNoRatingFields_ok_iff sub,
            assertMembers_ok_iff members path, hsafe, hclear, false_or, not_false_eq_true,
            true_and]
          exact ⟨fun ⟨_, hsub, hrest⟩ => ⟨hsub, hrest⟩, fun ⟨hsub, hrest⟩ => ⟨(), hsub, hrest⟩⟩

theorem assertElems_ok_iff : ∀ (elems : List Json) (path : String) (i : ℕ),
    assertElems path i elems = .ok () ↔ Unrated (.arr elems)
  | [], path, i => by
      rw [assertElems]
      apply iff_of_true rfl
      apply unrated_of_no_key
      intro _ _ hkey
      cases hkey with
      | elem hmem _ => cases hmem
  | item :: items, path, i => by
      rw [assertElems, unrated_arr_cons, Py.bind_eq_ok]
      constructor
      · rintro ⟨_, hitem, hitems⟩
        exact ⟨(assertNoRatingFields_ok_iff item _).mp hitem,
          (assertElems_ok_iff items path (i + 1)).mp hitems⟩
      · rintro ⟨hitem, hitems⟩
        exact ⟨(), (assertNoRatingFields_ok_iff item _).mpr hitem,
          (assertElems_ok_iff items path (i + 1)).mpr hitems⟩

end

/-- The guard is right about a value exactly when its ratings are not all below a disclaimer. -/
theorem rating_guard_iff (value : Json) :
    (assertNoRatingFields "$" value = .ok () ↔
      ∀ path key, KeyAt value path key → key ∉ SAFE_DISCLAIMER_KEYS → ¬ HoldsRating key) ↔
      ((∃ path key, RatingAt value path key) →
        ∃ path key, RatingAt value path key ∧ ∀ outer ∈ path, outer ∉ SAFE_DISCLAIMER_KEYS) := by
  rw [assertNoRatingFields_ok_iff]
  constructor
  · rintro hright ⟨path, key, hkey, hsafe, hrating⟩
    by_contra hnone
    push Not at hnone
    have hunrated : Unrated value := fun path key h => hnone path key h
    exact hright.mp hunrated path key hkey hsafe hrating
  · intro hplain
    constructor
    · intro hunrated path key hkey hsafe hrating
      obtain ⟨path', key', hrating', houter⟩ := hplain ⟨path, key, hkey, hsafe, hrating⟩
      obtain ⟨outer, hmem, hdisclaimer⟩ := hunrated path' key' hrating'
      exact houter outer hmem hdisclaimer
    · rintro hfree path key ⟨hkey, hsafe, hrating⟩
      exact absurd hrating (hfree path key hkey hsafe)

/-- A rating under the disclaimer. -/
def disclaimedRating : Json := .obj [("not_a_score", .obj [("trust_level", .int 3)])]

theorem disclaimed_rating_escapes : assertNoRatingFields "$" disclaimedRating = .ok () ∧
    KeyAt disclaimedRating ["not_a_score"] "trust_level" ∧
      "trust_level" ∉ SAFE_DISCLAIMER_KEYS ∧ HoldsRating "trust_level" := by
  refine ⟨rfl, ?_, by decide, ?_⟩
  · apply KeyAt.member List.mem_cons_self
    exact .here List.mem_cons_self
  · exact ⟨"trust_level", by decide, [], "trust_level".toList, [], by decide, by decide⟩

end CapsuleMesh.Pane
