import CapsuleMesh.Python.Loads

/-!
# The text of `json.dumps`

`json.loads(json.dumps(x))` is `x`.  The text has printable ASCII only and no blank at its ends, so
it fits in a line and stripping the line keeps it.
-/

namespace CapsuleMesh.Python

/-! ## Reading it back -/

theorem Json.dumpsElems_eq_map (elems : List Json) : dumpsElems elems = elems.map dumps := by
  induction elems with
  | nil => rfl
  | cons e es ih => rw [dumpsElems, ih, List.map_cons]

def dumpsMember (m : String × Json) : String := dumpsStr m.1 ++ ": " ++ m.2.dumps

theorem Json.dumpsMembers_eq_map (members : List (String × Json)) :
    dumpsMembers members = members.map dumpsMember := by
  induction members with
  | nil => rfl
  | cons m ms ih =>
      rw [dumpsMembers, ih, List.map_cons]
      rfl

theorem joins_commaBlank : Joins (", ".intercalate) [' '] where
  nil := rfl
  single _ := String.intercalate_singleton
  cons t t' ts := by
    rw [String.intercalate_cons_cons, String.toList_append, String.toList_append]
    simp
  skips _ := rfl

theorem writes_dumps : Writes Json.dumps id (", ".intercalate) [' '] id dumpsMember where
  joins := joins_commaBlank
  perm members := List.Perm.refl members
  member_toList m := by
    rw [dumpsMember, String.toList_append, String.toList_append, toList_dumpsStr]
    simp
  null := ⟨by rw [Json.dumps], rfl⟩
  bool b := ⟨by rw [Json.dumps], rfl⟩
  int n := ⟨by rw [Json.dumps], rfl⟩
  float repr := ⟨by rw [Json.dumps], rfl⟩
  str s := ⟨by rw [Json.dumps], rfl⟩
  arr elems := ⟨by rw [Json.dumps, Json.dumpsElems_eq_map], by simp⟩
  obj members := ⟨by rw [Json.dumps, Json.dumpsMembers_eq_map, id_eq], by simp⟩

theorem loads_dumps {floatRepr : String → String} {j : Json} (h : j.Proper floatRepr) :
    loads floatRepr j.dumps = .ok j :=
  writes_dumps.loads_text h

/-! ## Its characters -/

/-- A printable character of ASCII. -/
def Printable (c : Char) : Prop := 32 ≤ c.toNat ∧ c.toNat < 127

instance (c : Char) : Decidable (Printable c) := inferInstanceAs (Decidable (_ ∧ _))

theorem printable_of_all {s : String} (h : s.toList.all (fun c => decide (Printable c)) = true) :
    ∀ c ∈ s.toList, Printable c := by
  intro c hc
  exact of_decide_eq_true (List.all_eq_true.mp h c hc)

/-- A character of a numeral. -/
def Numeral (c : Char) : Prop := c.isDigit = true ∨ c ∈ ['-', '+', '.', 'e', 'E']

theorem Numeral.printable {c : Char} (h : Numeral c) : Printable c ∧ c ≠ ' ' := by
  obtain h | h := h
  · have hrange : 48 ≤ c.toNat ∧ c.toNat ≤ 57 := by
      simpa [Char.isDigit, UInt32.le_iff_toNat_le] using h
    refine ⟨⟨by omega, by omega⟩, ?_⟩
    rintro rfl
    revert hrange
    decide
  · simp only [List.mem_cons, List.not_mem_nil, or_false] at h
    obtain rfl | rfl | rfl | rfl | rfl := h
    all_goals decide

/-- What a scanner took from the front, in characters of a numeral. -/
def Takes (cs : List Char) (r : List Char × List Char) : Prop :=
  cs = r.1 ++ r.2 ∧ ∀ c ∈ r.1, Numeral c

theorem Takes.nil (cs : List Char) : Takes cs ([], cs) := ⟨rfl, by simp⟩

theorem numeral_takeWhile (cs : List Char) : ∀ c ∈ cs.takeWhile Char.isDigit, Numeral c :=
  fun _ hc => .inl (List.mem_takeWhile_imp hc)

theorem takes_scanSign (cs : List Char) : Takes cs (scanSign cs) := by
  cases cs with
  | nil => exact Takes.nil []
  | cons c cs =>
      rw [scanSign]
      split_ifs with hc
      · rw [hc]
        refine ⟨rfl, ?_⟩
        rintro c hc
        obtain rfl := List.mem_singleton.mp hc
        exact .inr (by decide)
      · exact Takes.nil _

theorem takes_scanInteger {cs : List Char} {r : List Char × List Char}
    (h : scanInteger cs = some r) : Takes cs r := by
  cases cs with
  | nil => cases h
  | cons c cs =>
      rw [scanInteger] at h
      split_ifs at h with hzero hdigit
      · obtain rfl := Option.some.inj h
        rw [hzero]
        refine ⟨rfl, ?_⟩
        intro c hc
        obtain rfl := List.mem_singleton.mp hc
        exact .inl (by decide)
      · obtain rfl := Option.some.inj h
        refine ⟨by rw [List.cons_append, List.takeWhile_append_dropWhile], ?_⟩
        intro d hd
        obtain rfl | hd := List.mem_cons.mp hd
        · exact .inl hdigit
        · exact numeral_takeWhile cs d hd

theorem takes_scanFraction (cs : List Char) : Takes cs (scanFraction cs) := by
  unfold scanFraction
  split
  · split_ifs with hdot
    · obtain ⟨rfl, hdigit⟩ := hdot
      refine ⟨by simp, ?_⟩
      intro c hc
      obtain rfl | hc := List.mem_cons.mp hc
      · exact .inr (by decide)
      · obtain rfl | hc := List.mem_cons.mp hc
        · exact .inl hdigit
        · exact numeral_takeWhile _ c hc
    · exact Takes.nil _
  · exact Takes.nil _

theorem takes_scanExponent (cs : List Char) : Takes cs (scanExponent cs) := by
  cases cs with
  | nil => exact Takes.nil []
  | cons a cs =>
      have hsign : ∀ sign ds : List Char, cs = sign ++ ds → (∀ c ∈ sign, c = '-' ∨ c = '+') →
          a = 'e' ∨ a = 'E' →
          Takes (a :: cs) (a :: sign ++ ds.takeWhile Char.isDigit, ds.dropWhile Char.isDigit) := by
        intro sign ds hcs hsign ha
        refine ⟨by rw [hcs]; simp, ?_⟩
        intro c hc
        obtain rfl | hc := List.mem_cons.mp hc
        · obtain rfl | rfl := ha
          all_goals exact .inr (by decide)
        · obtain hc | hc := List.mem_append.mp hc
          · obtain rfl | rfl := hsign c hc
            all_goals exact .inr (by decide)
          · exact numeral_takeWhile ds c hc
      unfold scanExponent
      cases cs with
      | nil =>
        dsimp only
        split_ifs with ha
        · exact hsign [] [] rfl (by simp) ha.1
        · exact Takes.nil _
      | cons b ds =>
        dsimp only
        split_ifs with hb ha ha
        · exact hsign [b] ds rfl (by simpa using hb) ha.1
        · exact Takes.nil _
        · exact hsign [] (b :: ds) rfl (by simp) ha.1
        · exact Takes.nil _

/-- A text that is read as a number has only characters of a numeral. -/
theorem numeral_of_scanned {floatRepr : String → String} {cs : List Char} {j : Json}
    (h : scanNumber floatRepr cs = some (j, [])) : ∀ c ∈ cs, Numeral c := by
  have hsign := takes_scanSign cs
  unfold scanNumber at h
  cases hdigits : scanInteger (scanSign cs).2 with
  | none => simp [hdigits] at h
  | some digits =>
      have hinteger := takes_scanInteger hdigits
      have hfraction := takes_scanFraction digits.2
      have hexponent := takes_scanExponent (scanFraction digits.2).2
      have hrest : (scanExponent (scanFraction digits.2).2).2 = [] := by
        simp only [hdigits, Option.bind_eq_bind, Option.bind_some, Option.pure_def] at h
        split_ifs at h
        all_goals exact congrArg Prod.snd (Option.some.inj h)
      rw [hsign.1, hinteger.1, hfraction.1, hexponent.1, hrest, List.append_nil]
      simp only [List.mem_append]
      rintro c (hc | hc | hc | hc)
      · exact hsign.2 c hc
      · exact hinteger.2 c hc
      · exact hfraction.2 c hc
      · exact hexponent.2 c hc

theorem printable_hexChar (n : ℕ) : Printable (hexChar (n % 16)) := by
  have hdigits : ∀ m < 16, 32 ≤ (hexChar m).toNat ∧ (hexChar m).toNat < 127 := by decide
  exact hdigits (n % 16) (Nat.mod_lt n (by decide))

theorem printable_unicodeEscape (unit : ℕ) : ∀ c ∈ (unicodeEscape unit).toList, Printable c := by
  intro c hc
  simp only [toList_unicodeEscape, List.mem_cons, List.not_mem_nil, or_false] at hc
  obtain rfl | rfl | rfl | rfl | rfl | rfl := hc
  · decide
  · decide
  all_goals apply printable_hexChar

theorem printable_escapeChar (c : Char) : ∀ d ∈ (escapeChar c).toList, Printable d := by
  have hpair : ∀ (e : Char) (s : String), s.toList = [backslash, e] → Printable e →
      ∀ d ∈ s.toList, Printable d := by
    intro e s hs he d hd
    simp only [hs, List.mem_cons, List.not_mem_nil, or_false] at hd
    obtain rfl | rfl := hd
    · decide
    · exact he
  unfold escapeChar
  split_ifs with hquote hn hr ht hb hf hascii hsmall
  · apply hpair c _ (by simp [backslash])
    obtain rfl | rfl := hquote
    all_goals decide
  · exact hpair 'n' _ rfl (by decide)
  · exact hpair 'r' _ rfl (by decide)
  · exact hpair 't' _ rfl (by decide)
  · exact hpair 'b' _ rfl (by decide)
  · exact hpair 'f' _ rfl (by decide)
  · intro d hd
    obtain rfl : d = c := by simpa using hd
    exact hascii
  · exact printable_unicodeEscape c.toNat
  · intro d hd
    rw [String.toList_append, List.mem_append] at hd
    obtain hd | hd := hd
    all_goals exact printable_unicodeEscape _ d hd

theorem printable_quote : Printable doubleQuote := (by decide)

theorem printable_dumpsStr (s : String) : ∀ c ∈ (dumpsStr s).toList, Printable c := by
  intro c hc
  rw [toList_dumpsStr, List.mem_cons, List.mem_append, List.mem_flatMap, List.mem_singleton] at hc
  obtain rfl | ⟨a, -, hc⟩ | rfl := hc
  · exact printable_quote
  · exact printable_escapeChar a c hc
  · exact printable_quote

theorem printable_join {texts : List String} (h : ∀ t ∈ texts, ∀ c ∈ t.toList, Printable c) :
    ∀ c ∈ (", ".intercalate texts).toList, Printable c := by
  induction texts with
  | nil => simp [joins_commaBlank.nil]
  | cons t ts ih =>
      cases ts with
      | nil =>
        rw [joins_commaBlank.single]
        exact h t List.mem_cons_self
      | cons t' ts =>
        intro c hc
        simp only [joins_commaBlank.cons, List.mem_append, List.mem_cons, List.not_mem_nil,
          or_false] at hc
        obtain hc | rfl | rfl | hc := hc
        · exact h t List.mem_cons_self c hc
        · decide
        · decide
        · exact ih (fun t ht => h t (List.mem_cons_of_mem _ ht)) c hc

section

variable {floatRepr : String → String}

theorem printable_dumps {j : Json} (h : j.Proper floatRepr) :
    ∀ c ∈ j.dumps.toList, Printable c := by
  have hbracket : ∀ a b : Char, Printable a → Printable b → ∀ s : String,
      (∀ c ∈ s.toList, Printable c) →
      ∀ c ∈ (a.toString ++ s ++ b.toString).toList, Printable c := by
    intro a b ha hb s hs c hc
    simp only [String.toList_append, Char.toString, String.toList_singleton, List.mem_append,
      List.mem_singleton] at hc
    obtain (rfl | hc) | rfl := hc
    · exact ha
    · exact hs c hc
    · exact hb
  have hliteral : ∀ s : String, (s.toList.all fun c => decide (Printable c)) →
      ∀ c ∈ s.toList, Printable c := by
    intro s hs c hc
    exact decide_eq_true_iff.mp (List.all_eq_true.mp hs c hc)
  induction h with
  | null =>
      rw [Json.dumps]
      exact hliteral "null" rfl
  | bool b =>
      rw [Json.dumps]
      cases b with
      | false => exact hliteral "false" rfl
      | true => exact hliteral "true" rfl
  | int n =>
      rw [Json.dumps]
      exact fun c hc => (numeral_of_scanned (scanNumber_int floatRepr n) c hc).printable.1
  | str s =>
      rw [Json.dumps]
      exact printable_dumpsStr s
  | nonfinite hrepr =>
      rw [Json.dumps]
      simp only [List.mem_cons, List.not_mem_nil, or_false] at hrepr
      obtain rfl | rfl | rfl := hrepr
      · exact hliteral "NaN" rfl
      · exact hliteral "Infinity" rfl
      · exact hliteral "-Infinity" rfl
  | finite hrepr hread =>
      rw [Json.dumps, dumpsFloat_finite hrepr]
      exact fun c hc => (numeral_of_scanned hread c hc).printable.1
  | @arr elems helems ih =>
      rw [Json.dumps, Json.dumpsElems_eq_map]
      apply hbracket '[' ']' (by decide) (by decide)
      apply printable_join
      intro t ht
      obtain ⟨e, he, rfl⟩ := List.mem_map.mp ht
      exact ih e he
  | @obj members hnodup hmembers ih =>
      rw [Json.dumps, Json.dumpsMembers_eq_map]
      apply hbracket '\x7b' '\x7d' (by decide) (by decide)
      apply printable_join
      intro t ht
      obtain ⟨m, hm, rfl⟩ := List.mem_map.mp ht
      intro c hc
      simp only [dumpsMember, String.toList_append, List.mem_append] at hc
      obtain (hc | hc) | hc := hc
      · exact printable_dumpsStr m.1 c hc
      · exact hliteral ": " rfl c hc
      · exact ih m hm c hc

/-- The text ends in no blank. -/
theorem last_dumps {j : Json} (h : j.Proper floatRepr) :
    ∃ cs c, j.dumps.toList = cs ++ [c] ∧ c ≠ ' ' := by
  have hnumber : ∀ {text : String} {j : Json}, scanNumber floatRepr text.toList = some (j, []) →
      ∃ cs c, text.toList = cs ++ [c] ∧ c ≠ ' ' := by
    intro text j hread
    obtain ⟨d, ds, htext, -⟩ := head_numeral hread
    have hne : text.toList ≠ [] := by simp [htext]
    refine ⟨_, _, (List.dropLast_append_getLast hne).symm, ?_⟩
    exact (numeral_of_scanned hread _ (List.getLast_mem hne)).printable.2
  cases h with
  | null => exact ⟨"nul".toList, 'l', by rw [Json.dumps]; rfl, by decide⟩
  | bool b =>
      rw [Json.dumps]
      cases b with
      | false => exact ⟨"fals".toList, 'e', rfl, by decide⟩
      | true => exact ⟨"tru".toList, 'e', rfl, by decide⟩
  | int n =>
      rw [Json.dumps]
      exact hnumber (scanNumber_int floatRepr n)
  | str s =>
      rw [Json.dumps, toList_dumpsStr]
      exact ⟨doubleQuote :: _, doubleQuote, rfl, by decide⟩
  | nonfinite hrepr =>
      rw [Json.dumps]
      simp only [List.mem_cons, List.not_mem_nil, or_false] at hrepr
      obtain rfl | rfl | rfl := hrepr
      · exact ⟨"Na".toList, 'N', rfl, by decide⟩
      · exact ⟨"Infinit".toList, 'y', rfl, by decide⟩
      · exact ⟨"-Infinit".toList, 'y', rfl, by decide⟩
  | finite hrepr hread =>
      rw [Json.dumps, dumpsFloat_finite hrepr]
      exact hnumber hread
  | arr _ =>
      rw [Json.dumps, String.toList_append]
      exact ⟨_, ']', rfl, by decide⟩
  | obj _ _ =>
      rw [Json.dumps, String.toList_append]
      exact ⟨_, '\x7d', rfl, by decide⟩

end

end CapsuleMesh.Python
