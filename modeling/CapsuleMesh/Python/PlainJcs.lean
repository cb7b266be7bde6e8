import CapsuleMesh.Library.JcsTexts
import CapsuleMesh.Python.SortKeys

/-!
# Plain canonical texts

RFC 8785 without a rule for floats: the members of a dictionary stand in the order of their names in
UTF-16, and each float is written as it is told.  Values of one text are equal but for the order of
members.
-/

namespace CapsuleMesh.Python

open Library

/-- `s.encode("utf-16-be")`. -/
def utf16be (s : String) : List ℕ :=
  let unitBytes (unit : ℕ) := [unit / 256, unit % 256]
  s.toList.flatMap fun c =>
    if c.toNat < 65536 then unitBytes c.toNat
    else unitBytes (55296 + (c.toNat - 65536) / 1024) ++
      unitBytes (56320 + (c.toNat - 65536) % 1024)

/-- Members as `sorted(v.items(), key=lambda kv: kv[0].encode("utf-16-be"))` puts them. -/
def sortedItems {α : Type} (members : List (String × α)) : List (String × α) :=
  members.insertionSort fun m n => utf16be m.1 ≤ utf16be n.1

theorem sortedItems_perm {α : Type} (members : List (String × α)) :
    (sortedItems members).Perm members :=
  List.perm_insertionSort _ members

theorem map_sortedItems {α β : Type} (f : α → β) (members : List (String × α)) :
    (sortedItems members).map (fun m => (m.1, f m.2)) =
      sortedItems (members.map fun m => (m.1, f m.2)) :=
  List.map_insertionSort _ _ _ _ fun _ _ _ _ => Iff.rfl

/-- No key is twice in a dictionary, and the floats are of the given kind. -/
inductive Json.Distinct (float : String → Prop) : Json → Prop
  | null : Distinct float .null
  | bool (b : Bool) : Distinct float (.bool b)
  | int (n : Int) : Distinct float (.int n)
  | float {repr : String} (h : float repr) : Distinct float (.float repr)
  | str (s : String) : Distinct float (.str s)
  | arr {elems : List Json} (h : ∀ e ∈ elems, Distinct float e) : Distinct float (.arr elems)
  | obj {members : List (String × Json)} (hkeys : (members.map Prod.fst).Nodup)
      (h : ∀ m ∈ members, Distinct float m.2) : Distinct float (.obj members)

namespace Json

/-! ## The tree of a value -/

mutual

/-- The value with the members of every dictionary in the order of their names. -/
def arrange : Json → Json
  | .arr elems => .arr (arrangeElems elems)
  | .obj members => .obj (sortedItems (arrangeMembers members))
  | j => j

def arrangeElems : List Json → List Json
  | [] => []
  | e :: es => e.arrange :: arrangeElems es

def arrangeMembers : List (String × Json) → List (String × Json)
  | [] => []
  | (k, v) :: ms => (k, v.arrange) :: arrangeMembers ms

end

section

variable (floatText : String → List Char)

mutual

def tree : Json → TextTree JsonWord Char
  | .null => .word .null
  | .bool b => .word (.bool b)
  | .int n => .word (.int n)
  | .float repr => .word (.float (floatText repr))
  | .str s => .str s.toList
  | .arr elems => .list (treeElems elems)
  | .obj members => .dict (treeMembers members)

def treeElems : List Json → List (TextTree JsonWord Char)
  | [] => []
  | e :: es => tree e :: treeElems es

def treeMembers : List (String × Json) → List (List Char × TextTree JsonWord Char)
  | [] => []
  | (k, v) :: ms => (k.toList, tree v) :: treeMembers ms

end

def plainText (j : Json) : List Char := jcsScript.text (j.arrange.tree floatText)

end

theorem arrangeElems_eq_map (elems : List Json) : arrangeElems elems = elems.map arrange := by
  induction elems with
  | nil => rfl
  | cons e es ih => rw [arrangeElems, ih, List.map_cons]

theorem arrangeMembers_eq_map (members : List (String × Json)) :
    arrangeMembers members = members.map fun m => (m.1, m.2.arrange) := by
  induction members with
  | nil => rfl
  | cons m ms ih => rw [arrangeMembers, ih, List.map_cons]

theorem treeElems_eq_map (floatText : String → List Char) (elems : List Json) :
    treeElems floatText elems = elems.map (tree floatText) := by
  induction elems with
  | nil => rfl
  | cons e es ih => rw [treeElems, ih, List.map_cons]

theorem treeMembers_eq_map (floatText : String → List Char) (members : List (String × Json)) :
    treeMembers floatText members = members.map fun m => (m.1.toList, m.2.tree floatText) := by
  induction members with
  | nil => rfl
  | cons m ms ih => rw [treeMembers, ih, List.map_cons]

variable {float : String → Prop}

theorem Distinct.arrange {j : Json} (h : j.Distinct float) : j.arrange.Distinct float := by
  induction h with
  | null => exact .null
  | bool b => exact .bool b
  | int n => exact .int n
  | float h => exact .float h
  | str s => exact .str s
  | arr _ ih =>
      rw [Json.arrange, arrangeElems_eq_map]
      apply Distinct.arr
      intro e' he'
      obtain ⟨e, he, rfl⟩ := List.mem_map.mp he'
      exact ih e he
  | @obj members hkeys _ ih =>
      rw [Json.arrange, arrangeMembers_eq_map]
      apply Distinct.obj
      · have hperm := (sortedItems_perm (members.map fun m => (m.1, m.2.arrange))).map Prod.fst
        rw [hperm.nodup_iff, List.map_map]
        exact hkeys
      · intro m' hm'
        obtain ⟨m, hm, rfl⟩ := List.mem_map.mp ((sortedItems_perm _).mem_iff.mp hm')
        exact ih m hm

/-- Sorting forgets how the members were arranged. -/
theorem Distinct.sortKeys_arrange {j : Json} (h : j.Distinct float) :
    j.arrange.sortKeys = j.sortKeys := by
  induction h with
  | null => rfl
  | bool b => rfl
  | int n => rfl
  | float h => rfl
  | str s => rfl
  | arr _ ih =>
      rw [Json.arrange, sortKeys, sortKeys, arrangeElems_eq_map, sortElems_eq_map, sortElems_eq_map,
        List.map_map]
      exact congrArg Json.arr (List.map_congr_left ih)
  | @obj members hkeys _ ih =>
      have hvalues : (members.map fun m => (m.1, m.2.arrange)).map (fun m => (m.1, m.2.sortKeys)) =
          members.map fun m => (m.1, m.2.sortKeys) := by
        rw [List.map_map]
        apply List.map_congr_left
        intro m hm
        exact congrArg (m.1, ·) (ih m hm)
      rw [Json.arrange, sortKeys, sortKeys, arrangeMembers_eq_map, sortMembers_eq_map,
        sortMembers_eq_map, ← hvalues]
      apply congrArg Json.obj
      apply sortByKey_eq_of_perm ((sortedItems_perm _).map _)
      rw [map_sortedItems, ((sortedItems_perm _).map Prod.fst).nodup_iff, hvalues, List.map_map]
      exact hkeys

section

variable {floatText : String → List Char} (hfloat : ∀ repr, float repr → FloatText (floatText repr))

include hfloat

theorem Distinct.valid_tree {j : Json} (h : j.Distinct float) :
    (j.tree floatText).Valid JsonWord.Valid := by
  induction h with
  | null => exact .word trivial
  | bool b => exact .word trivial
  | int n => exact .word trivial
  | @float repr h => exact .word (hfloat repr h)
  | str s => exact .str s.toList
  | arr _ ih =>
      rw [tree, treeElems_eq_map]
      apply TextTree.Valid.list
      intro t ht
      obtain ⟨e, he, rfl⟩ := List.mem_map.mp ht
      exact ih e he
  | obj _ _ ih =>
      rw [tree, treeMembers_eq_map]
      apply TextTree.Valid.dict
      intro t ht
      obtain ⟨m, hm, rfl⟩ := List.mem_map.mp ht
      exact ih m hm

end

/-- On values without floats, how floats are written does not matter. -/
theorem Distinct.tree_eq {j : Json} (h : j.Distinct fun _ => False) (f g : String → List Char) :
    j.tree f = j.tree g := by
  induction h with
  | null => rfl
  | bool b => rfl
  | int n => rfl
  | float h => exact h.elim
  | str s => rfl
  | arr _ ih => rw [tree, tree, treeElems_eq_map, treeElems_eq_map, List.map_congr_left ih]
  | @obj members _ _ ih =>
      have hvalues : members.map (fun m => (m.1.toList, m.2.tree f)) =
          members.map fun m => (m.1.toList, m.2.tree g) := by
        apply List.map_congr_left
        intro m hm
        exact congrArg (m.1.toList, ·) (ih m hm)
      rw [tree, tree, treeMembers_eq_map, treeMembers_eq_map, hvalues]

theorem Distinct.mono {float' : String → Prop} (hle : ∀ repr, float repr → float' repr) {j : Json}
    (h : j.Distinct float) : j.Distinct float' := by
  induction h with
  | null => exact .null
  | bool b => exact .bool b
  | int n => exact .int n
  | float h => exact .float (hle _ h)
  | str s => exact .str s
  | arr _ ih => exact .arr ih
  | obj hkeys _ ih => exact .obj hkeys ih

/-- Lists of images are equal only when the lists are, where the images tell their elements apart. -/
theorem eq_of_map_eq {α β : Type} {f : α → β} {as bs : List α}
    (hinj : ∀ a ∈ as, ∀ b ∈ bs, f a = f b → a = b) (h : as.map f = bs.map f) : as = bs := by
  induction as generalizing bs with
  | nil => exact (List.map_eq_nil_iff.mp h.symm).symm
  | cons a as ih =>
      cases bs with
      | nil => cases h
      | cons b bs =>
        obtain ⟨hhead, htail⟩ := List.cons.inj h
        have hfirst := hinj a List.mem_cons_self b List.mem_cons_self hhead
        have hrest := ih (fun a' ha' b' hb' =>
          hinj a' (List.mem_cons_of_mem a ha') b' (List.mem_cons_of_mem b hb')) htail
        rw [hfirst, hrest]

theorem Distinct.tree_injective {floatText : String → List Char}
    (hinj : ∀ r s, float r → float s → floatText r = floatText s → r = s) {v w : Json}
    (hv : v.Distinct float) (hw : w.Distinct float) (h : v.tree floatText = w.tree floatText) :
    v = w := by
  induction hv generalizing w with
  | null =>
      cases hw with
      | null => rfl
      | _ => simp [tree] at h
  | bool b =>
      cases hw with
      | bool b' => simpa [tree] using h
      | _ => simp [tree] at h
  | int n =>
      cases hw with
      | int n' => simpa [tree] using h
      | _ => simp [tree] at h
  | @float r hr =>
      cases hw with
      | @float s hs =>
        rw [tree, tree, TextTree.word.injEq, JsonWord.float.injEq] at h
        rw [hinj r s hr hs h]
      | _ => simp [tree] at h
  | str s =>
      cases hw with
      | str s' =>
        rw [tree, tree, TextTree.str.injEq, String.toList_inj] at h
        rw [h]
      | _ => simp [tree] at h
  | arr _ ih =>
      cases hw with
      | arr hw =>
        rw [tree, tree, TextTree.list.injEq, treeElems_eq_map, treeElems_eq_map] at h
        exact congrArg Json.arr (eq_of_map_eq (fun e he e' he' => ih e he (hw e' he')) h)
      | _ => simp [tree] at h
  | obj _ _ ih =>
      cases hw with
      | obj _ hw =>
        rw [tree, tree, TextTree.dict.injEq, treeMembers_eq_map, treeMembers_eq_map] at h
        refine congrArg Json.obj (eq_of_map_eq ?_ h)
        intro m hm n hn heq
        obtain ⟨hkey, hvalue⟩ := Prod.mk.inj heq
        exact Prod.ext (String.toList_inj.mp hkey) (ih m hm (hw n hn) hvalue)
      | _ => simp [tree] at h

/-- Values of one text are equal but for the order of members. -/
theorem Distinct.sortKeys_eq_of_plainText {floatText : String → List Char}
    (hfloat : ∀ repr, float repr → FloatText (floatText repr))
    (hinj : ∀ r s, float r → float s → floatText r = floatText s → r = s) {v w : Json}
    (hv : v.Distinct float) (hw : w.Distinct float)
    (h : v.plainText floatText = w.plainText floatText) : v.sortKeys = w.sortKeys := by
  have htree := jcsScript_readable.text_injective (hv.arrange.valid_tree hfloat)
    (hw.arrange.valid_tree hfloat) h
  rw [← hv.sortKeys_arrange, ← hw.sortKeys_arrange, hv.arrange.tree_injective hinj hw.arrange htree]

end Json

end CapsuleMesh.Python
