import CapsuleMesh.Library.PrefixCodes

/-!
# Texts of trees

Trees of words, strings, lists and dictionaries are written with marks between their parts, as JSON
writes them.  Words hold no marks, and the escapes of a string can be read off its front; then a text
determines its tree.
-/

namespace CapsuleMesh.Library

inductive TextMark where
  | quote
  | comma
  | colon
  | openList
  | closeList
  | openDict
  | closeDict
deriving DecidableEq

inductive TextTree (A S : Type) where
  | word (a : A)
  | str (s : List S)
  | list (elems : List (TextTree A S))
  | dict (members : List (List S × TextTree A S))

/-- The mark that a text of this kind begins with; words begin with none. -/
def TextTree.kind {A S : Type} : TextTree A S → Option TextMark
  | word _ => none
  | str _ => some .quote
  | list _ => some .openList
  | dict _ => some .openDict

/-- How words, marks and the symbols of strings are written. -/
structure Script (A S : Type) where
  mark : TextMark → S
  word : A → List S
  escape : S → List S

/-- The words of the tree are all valid. -/
inductive TextTree.Valid {A S : Type} (valid : A → Prop) : TextTree A S → Prop
  | word {a : A} (h : valid a) : Valid valid (.word a)
  | str (s : List S) : Valid valid (.str s)
  | list {elems : List (TextTree A S)} (h : ∀ t ∈ elems, Valid valid t) : Valid valid (.list elems)
  | dict {members : List (List S × TextTree A S)} (h : ∀ m ∈ members, Valid valid m.2) :
      Valid valid (.dict members)

namespace Script

variable {A S : Type} (T : Script A S)

def quoted (s : List S) : List S :=
  T.mark .quote :: (s.flatMap T.escape ++ [T.mark .quote])

mutual

def text : TextTree A S → List S
  | .word a => T.word a
  | .str s => T.quoted s
  | .list [] => [T.mark .openList, T.mark .closeList]
  | .list (t :: ts) => T.mark .openList :: (text t ++ (laterElems ts ++ [T.mark .closeList]))
  | .dict [] => [T.mark .openDict, T.mark .closeDict]
  | .dict ((k, t) :: ms) => T.mark .openDict ::
      (T.quoted k ++ T.mark .colon :: (text t ++ (laterMembers ms ++ [T.mark .closeDict])))

/-- The elements after the first. -/
def laterElems : List (TextTree A S) → List S
  | [] => []
  | t :: ts => T.mark .comma :: (text t ++ laterElems ts)

/-- The members after the first. -/
def laterMembers : List (List S × TextTree A S) → List S
  | [] => []
  | (k, t) :: ms => T.mark .comma :: (T.quoted k ++ T.mark .colon :: (text t ++ laterMembers ms))

end

theorem laterElems_eq_flatMap (ts : List (TextTree A S)) :
    T.laterElems ts = (ts.map T.text).flatMap fun text => T.mark .comma :: text := by
  induction ts with
  | nil => rfl
  | cons t ts ih => rw [laterElems, ih, List.map_cons, List.flatMap_cons, List.cons_append]

/-- A member with its colon. -/
def memberText (m : List S × TextTree A S) : List S := T.quoted m.1 ++ T.mark .colon :: T.text m.2

theorem laterMembers_eq_flatMap (ms : List (List S × TextTree A S)) :
    T.laterMembers ms = (ms.map T.memberText).flatMap fun text => T.mark .comma :: text := by
  induction ms with
  | nil => rfl
  | cons m ms ih =>
      rw [laterMembers, ih, List.map_cons, List.flatMap_cons, memberText, List.cons_append,
        List.append_assoc, List.cons_append]

/-- Texts with a separator between them. -/
def joined (sep : S) : List (List S) → List S
  | [] => []
  | text :: texts => text ++ texts.flatMap fun later => sep :: later

theorem text_list (ts : List (TextTree A S)) : T.text (.list ts) =
    T.mark .openList :: (joined (T.mark .comma) (ts.map T.text) ++ [T.mark .closeList]) := by
  cases ts with
  | nil => rfl
  | cons t ts => rw [text, laterElems_eq_flatMap, List.map_cons, joined, List.append_assoc]

theorem text_dict (ms : List (List S × TextTree A S)) : T.text (.dict ms) =
    T.mark .openDict :: (joined (T.mark .comma) (ms.map T.memberText) ++ [T.mark .closeDict]) := by
  cases ms with
  | nil => rfl
  | cons m ms =>
      rw [text, laterMembers_eq_flatMap, List.map_cons, joined, memberText, List.append_assoc,
        List.append_assoc, List.cons_append]

/-- What such texts are read by. -/
structure Readable (valid : A → Prop) : Prop where
  mark_injective : Function.Injective T.mark
  word_ne_nil : ∀ a, valid a → T.word a ≠ []
  word_bare : ∀ a, valid a → ∀ c ∈ T.word a, ∀ m, c ≠ T.mark m
  word_injective : ∀ a b, valid a → valid b → T.word a = T.word b → a = b
  escape_delimits : SelfDelimiting fun c x => x = T.escape c
  escape_head : ∀ c, ∃ d ds, T.escape c = d :: ds ∧ d ≠ T.mark .quote

/-- The end of a text, or a mark. -/
def Ends (rest : List S) : Prop := ∀ c ∈ rest.head?, ∃ m, c = T.mark m

variable {T} {valid : A → Prop} (h : T.Readable valid)

theorem ends_nil : T.Ends [] := by
  intro c hc
  cases hc

theorem ends_mark (m : TextMark) (rest : List S) : T.Ends (T.mark m :: rest) := by
  intro c hc
  exact ⟨m, (Option.some.inj hc).symm⟩

include h

theorem Readable.escapes_eq {s s' rest rest' : List S}
    (heq : s.flatMap T.escape ++ T.mark .quote :: rest =
      s'.flatMap T.escape ++ T.mark .quote :: rest') : s = s' ∧ rest = rest' := by
  induction s generalizing s' with
  | nil =>
      cases s' with
      | nil => exact ⟨rfl, (List.cons.inj heq).2⟩
      | cons c' s' =>
        obtain ⟨d, ds, hescape, hne⟩ := h.escape_head c'
        rw [List.flatMap_cons, hescape] at heq
        exact absurd (List.cons.inj heq).1.symm hne
  | cons c s ih =>
      cases s' with
      | nil =>
        obtain ⟨d, ds, hescape, hne⟩ := h.escape_head c
        rw [List.flatMap_cons, hescape] at heq
        exact absurd (List.cons.inj heq).1 hne
      | cons c' s' =>
        rw [List.flatMap_cons, List.flatMap_cons, List.append_assoc, List.append_assoc] at heq
        obtain ⟨rfl, htail⟩ := h.escape_delimits rfl rfl heq
        obtain ⟨rfl, hrest⟩ := ih htail
        exact ⟨rfl, hrest⟩

theorem Readable.quoted_eq {s s' rest rest' : List S}
    (heq : T.quoted s ++ rest = T.quoted s' ++ rest') : s = s' ∧ rest = rest' := by
  rw [quoted, quoted, List.cons_append, List.cons_append, List.append_assoc, List.append_assoc] at heq
  exact h.escapes_eq (List.cons.inj heq).2

theorem Readable.word_eq {a b : A} (ha : valid a) (hb : valid b) {rest rest' : List S}
    (hrest : T.Ends rest) (hrest' : T.Ends rest') (heq : T.word a ++ rest = T.word b ++ rest') :
    a = b ∧ rest = rest' := by
  have hbare : ∀ {w w' : List S} {r r' : List S}, (∀ c ∈ w, ∀ m, c ≠ T.mark m) →
      (∀ c ∈ w', ∀ m, c ≠ T.mark m) → T.Ends r → T.Ends r' → w ++ r = w' ++ r' →
        w = w' ∧ r = r' := by
    intro w
    induction w with
    | nil =>
        intro w' r r' _ hw' hr _ hwords
        cases w' with
        | nil => exact ⟨rfl, hwords⟩
        | cons c' w' =>
          rw [List.nil_append] at hwords
          obtain ⟨m, hm⟩ := hr c' (by rw [hwords]; rfl)
          exact absurd hm (hw' c' List.mem_cons_self m)
    | cons c w ih =>
        intro w' r r' hw hw' hr hr' hwords
        cases w' with
        | nil =>
          rw [List.nil_append] at hwords
          obtain ⟨m, hm⟩ := hr' c (by rw [← hwords]; rfl)
          exact absurd hm (hw c List.mem_cons_self m)
        | cons c' w' =>
          obtain ⟨rfl, htail⟩ := List.cons.inj hwords
          obtain ⟨rfl, hrest⟩ := ih (List.forall_mem_cons.mp hw).2 (List.forall_mem_cons.mp hw').2
            hr hr' htail
          exact ⟨rfl, hrest⟩
  obtain ⟨hwords, hrest⟩ := hbare (h.word_bare a ha) (h.word_bare b hb) hrest hrest' heq
  exact ⟨h.word_injective a b ha hb hwords, hrest⟩

omit h in
theorem ends_laterElems (ts : List (TextTree A S)) (rest : List S) :
    T.Ends (T.laterElems ts ++ T.mark .closeList :: rest) := by
  cases ts with
  | nil => exact ends_mark _ _
  | cons t ts => exact ends_mark .comma _

omit h in
theorem ends_laterMembers (ms : List (List S × TextTree A S)) (rest : List S) :
    T.Ends (T.laterMembers ms ++ T.mark .closeDict :: rest) := by
  cases ms with
  | nil => exact ends_mark _ _
  | cons m ms => exact ends_mark .comma _

/-- The head of a text is the mark of its kind, and no mark for a word. -/
theorem Readable.head_iff {t : TextTree A S} (ht : t.Valid valid) :
    ∃ c cs, T.text t = c :: cs ∧ ∀ m, c = T.mark m ↔ t.kind = some m := by
  have hmark : ∀ m m', T.mark m = T.mark m' ↔ some m = some m' := by
    intro m m'
    rw [h.mark_injective.eq_iff, Option.some_inj]
  cases ht with
  | @word a ha =>
      obtain ⟨c, cs, hword⟩ := List.exists_cons_of_ne_nil (h.word_ne_nil a ha)
      refine ⟨c, cs, hword, ?_⟩
      intro m
      apply iff_of_false
      · apply h.word_bare a ha c
        rw [hword]
        exact List.mem_cons_self
      · intro hkind
        cases hkind
  | str s => exact ⟨_, _, rfl, hmark .quote⟩
  | @list elems _ =>
      cases elems with
      | nil => exact ⟨_, _, rfl, hmark .openList⟩
      | cons t ts => exact ⟨_, _, rfl, hmark .openList⟩
  | @dict members _ =>
      cases members with
      | nil => exact ⟨_, _, rfl, hmark .openDict⟩
      | cons m ms => exact ⟨_, _, rfl, hmark .openDict⟩

/-- No text begins with the end of a list. -/
theorem Readable.not_closeList {t : TextTree A S} (ht : t.Valid valid) {rest rest' : List S} :
    T.text t ++ rest ≠ T.mark .closeList :: rest' := by
  obtain ⟨c, cs, htext, hhead⟩ := h.head_iff ht
  rw [htext, List.cons_append]
  intro heq
  have hkind := (hhead .closeList).mp (List.cons.inj heq).1
  cases t with
  | word a => cases hkind
  | str s => cases hkind
  | list elems => cases hkind
  | dict members => cases hkind

/-- Trees whose texts begin alike are of one kind. -/
theorem Readable.kind_eq {t u : TextTree A S} (ht : t.Valid valid) (hu : u.Valid valid)
    {rest rest' : List S} (heq : T.text t ++ rest = T.text u ++ rest') : t.kind = u.kind := by
  obtain ⟨c, cs, htext, hhead⟩ := h.head_iff ht
  obtain ⟨c', cs', htext', hhead'⟩ := h.head_iff hu
  rw [htext, htext', List.cons_append, List.cons_append] at heq
  obtain ⟨rfl, -⟩ := List.cons.inj heq
  cases hkind : u.kind with
  | some m => exact (hhead m).mp ((hhead' m).mpr hkind)
  | none =>
      rw [Option.eq_none_iff_forall_ne_some]
      intro m hm
      rw [(hhead' m).mp ((hhead m).mpr hm)] at hkind
      cases hkind

/-- The text determines the tree, and where it ends. -/
def Determined (T : Script A S) (valid : A → Prop) (t : TextTree A S) : Prop :=
  ∀ u : TextTree A S, u.Valid valid → ∀ rest rest' : List S, T.Ends rest → T.Ends rest' →
    T.text t ++ rest = T.text u ++ rest' → t = u ∧ rest = rest'

theorem Readable.laterElems_eq {ts us : List (TextTree A S)}
    (hts : ∀ t ∈ ts, T.Determined valid t) (hus : ∀ u ∈ us, u.Valid valid) {rest rest' : List S}
    (heq : T.laterElems ts ++ T.mark .closeList :: rest =
      T.laterElems us ++ T.mark .closeList :: rest') : ts = us ∧ rest = rest' := by
  induction ts generalizing us with
  | nil =>
      cases us with
      | nil => exact ⟨rfl, (List.cons.inj heq).2⟩
      | cons u us => cases h.mark_injective (List.cons.inj heq).1
  | cons t ts ih =>
      cases us with
      | nil => cases h.mark_injective (List.cons.inj heq).1
      | cons u us =>
        obtain ⟨ht, hlater⟩ := List.forall_mem_cons.mp hts
        obtain ⟨hu, hlater'⟩ := List.forall_mem_cons.mp hus
        rw [laterElems, laterElems, List.cons_append, List.cons_append, List.append_assoc,
          List.append_assoc] at heq
        obtain ⟨rfl, htail⟩ := ht u hu _ _ (ends_laterElems ts rest) (ends_laterElems us rest')
          (List.cons.inj heq).2
        obtain ⟨rfl, hrest⟩ := ih hlater hlater' htail
        exact ⟨rfl, hrest⟩

theorem Readable.member_eq {k k' : List S} {t u : TextTree A S} (ht : T.Determined valid t)
    (hu : u.Valid valid) {rest rest' : List S} (hrest : T.Ends rest) (hrest' : T.Ends rest')
    (heq : T.quoted k ++ T.mark .colon :: (T.text t ++ rest) =
      T.quoted k' ++ T.mark .colon :: (T.text u ++ rest')) : (k, t) = (k', u) ∧ rest = rest' := by
  obtain ⟨rfl, hvalue⟩ := h.quoted_eq heq
  obtain ⟨rfl, hrest⟩ := ht u hu _ _ hrest hrest' (List.cons.inj hvalue).2
  exact ⟨rfl, hrest⟩

theorem Readable.laterMembers_eq {ms ns : List (List S × TextTree A S)}
    (hms : ∀ m ∈ ms, T.Determined valid m.2) (hns : ∀ n ∈ ns, n.2.Valid valid) {rest rest' : List S}
    (heq : T.laterMembers ms ++ T.mark .closeDict :: rest =
      T.laterMembers ns ++ T.mark .closeDict :: rest') : ms = ns ∧ rest = rest' := by
  induction ms generalizing ns with
  | nil =>
      cases ns with
      | nil => exact ⟨rfl, (List.cons.inj heq).2⟩
      | cons n ns => cases h.mark_injective (List.cons.inj heq).1
  | cons m ms ih =>
      cases ns with
      | nil => cases h.mark_injective (List.cons.inj heq).1
      | cons n ns =>
        obtain ⟨hm, hlater⟩ := List.forall_mem_cons.mp hms
        obtain ⟨hn, hlater'⟩ := List.forall_mem_cons.mp hns
        rw [laterMembers, laterMembers, List.cons_append, List.cons_append, List.append_assoc,
          List.append_assoc, List.cons_append, List.cons_append, List.append_assoc,
          List.append_assoc] at heq
        obtain ⟨hmember, htail⟩ := h.member_eq hm hn (ends_laterMembers ms rest)
          (ends_laterMembers ns rest') (List.cons.inj heq).2
        obtain ⟨rfl, hrest⟩ := ih hlater hlater' htail
        exact ⟨congrArg (· :: ms) hmember, hrest⟩

theorem Readable.elems_eq {ts us : List (TextTree A S)} (hvalid : ∀ t ∈ ts, t.Valid valid)
    (hts : ∀ t ∈ ts, T.Determined valid t) (hus : ∀ u ∈ us, u.Valid valid) {rest rest' : List S}
    (heq : T.text (.list ts) ++ rest = T.text (.list us) ++ rest') : ts = us ∧ rest = rest' := by
  cases ts with
  | nil =>
      cases us with
      | nil => exact ⟨rfl, (List.cons.inj (List.cons.inj heq).2).2⟩
      | cons u us =>
        rw [text, text, List.cons_append, List.cons_append] at heq
        have htail := (List.cons.inj heq).2.symm
        rw [List.append_eq, List.append_assoc] at htail
        exact absurd htail (h.not_closeList (hus u List.mem_cons_self))
  | cons t ts =>
      cases us with
      | nil =>
        rw [text, text, List.cons_append, List.cons_append] at heq
        have htail := (List.cons.inj heq).2
        rw [List.append_assoc] at htail
        exact absurd htail (h.not_closeList (hvalid t List.mem_cons_self))
      | cons u us =>
        obtain ⟨ht, hlater⟩ := List.forall_mem_cons.mp hts
        obtain ⟨hu, hlater'⟩ := List.forall_mem_cons.mp hus
        rw [text, text, List.cons_append, List.cons_append, List.append_assoc, List.append_assoc,
          List.append_assoc, List.append_assoc] at heq
        obtain ⟨rfl, htail⟩ := ht u hu _ _ (ends_laterElems ts rest) (ends_laterElems us rest')
          (List.cons.inj heq).2
        obtain ⟨rfl, hrest⟩ := h.laterElems_eq hlater hlater' htail
        exact ⟨rfl, hrest⟩

theorem Readable.members_eq {ms ns : List (List S × TextTree A S)}
    (hms : ∀ m ∈ ms, T.Determined valid m.2) (hns : ∀ n ∈ ns, n.2.Valid valid) {rest rest' : List S}
    (heq : T.text (.dict ms) ++ rest = T.text (.dict ns) ++ rest') : ms = ns ∧ rest = rest' := by
  cases ms with
  | nil =>
      cases ns with
      | nil => exact ⟨rfl, (List.cons.inj (List.cons.inj heq).2).2⟩
      | cons n ns => cases h.mark_injective (List.cons.inj (List.cons.inj heq).2).1
  | cons m ms =>
      cases ns with
      | nil => cases h.mark_injective (List.cons.inj (List.cons.inj heq).2).1
      | cons n ns =>
        obtain ⟨hm, hlater⟩ := List.forall_mem_cons.mp hms
        obtain ⟨hn, hlater'⟩ := List.forall_mem_cons.mp hns
        rw [text, text, List.cons_append, List.cons_append, List.append_assoc, List.append_assoc,
          List.cons_append, List.cons_append, List.append_assoc, List.append_assoc,
          List.append_assoc, List.append_assoc] at heq
        obtain ⟨hmember, htail⟩ := h.member_eq hm hn (ends_laterMembers ms rest)
          (ends_laterMembers ns rest') (List.cons.inj heq).2
        obtain ⟨rfl, hrest⟩ := h.laterMembers_eq hlater hlater' htail
        exact ⟨congrArg (· :: ms) hmember, hrest⟩

theorem Readable.determined {t : TextTree A S} (ht : t.Valid valid) : T.Determined valid t := by
  induction ht with
  | @word a ha =>
      intro u hu rest rest' hrest hrest' heq
      have hkind := h.kind_eq (.word ha) hu heq
      cases hu with
      | word hb =>
        rw [text, text] at heq
        obtain ⟨rfl, hrest⟩ := h.word_eq ha hb hrest hrest' heq
        exact ⟨rfl, hrest⟩
      | str s => cases hkind
      | list _ => cases hkind
      | dict _ => cases hkind
  | str s =>
      intro u hu rest rest' _ _ heq
      have hkind := h.kind_eq (.str s) hu heq
      cases hu with
      | word _ => cases hkind
      | str s' =>
        rw [text, text] at heq
        obtain ⟨rfl, hrest⟩ := h.quoted_eq heq
        exact ⟨rfl, hrest⟩
      | list _ => cases hkind
      | dict _ => cases hkind
  | @list elems helems ih =>
      intro u hu rest rest' _ _ heq
      have hkind := h.kind_eq (.list helems) hu heq
      cases hu with
      | word _ => cases hkind
      | str s => cases hkind
      | list hus =>
        obtain ⟨rfl, hrest⟩ := h.elems_eq helems ih hus heq
        exact ⟨rfl, hrest⟩
      | dict _ => cases hkind
  | @dict members hmembers ih =>
      intro u hu rest rest' _ _ heq
      have hkind := h.kind_eq (.dict hmembers) hu heq
      cases hu with
      | word _ => cases hkind
      | str s => cases hkind
      | list _ => cases hkind
      | dict hns =>
        obtain ⟨rfl, hrest⟩ := h.members_eq ih hns heq
        exact ⟨rfl, hrest⟩

/-- Trees of one text are equal. -/
theorem Readable.text_injective {t u : TextTree A S} (ht : t.Valid valid) (hu : u.Valid valid)
    (heq : T.text t = T.text u) : t = u :=
  (h.determined ht u hu [] [] ends_nil ends_nil (congrArg (· ++ []) heq)).1

end Script

end CapsuleMesh.Library
