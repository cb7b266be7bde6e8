import CapsuleMesh.Library.Raising
import Mathlib.Algebra.Group.Int.Defs
import Mathlib.Algebra.Group.Nat.Defs
import Mathlib.Data.List.AList

/-!
# Python values as they come out of `json.loads`

Dictionaries are association lists, floats are carried by the text of their
`repr`, and every operation that may raise returns in the `Py` monad.  The
accessors follow the built-in ones: `d.get(k, default)` on anything but a
dictionary is an `AttributeError`, and `a or b` selects by truth value.
-/

namespace CapsuleMesh.Python

/-- The exceptions a modelled operation may raise; a `ValueError` carries its
text where the source puts that text into a record. -/
inductive PyError where
  | attributeError
  | typeError
  | valueError (text : String)
  | overflowError
  | keyError
  | indexError
  | runtimeError
  | osError
  | unsafeIntegerError
  | stopIteration
  | recursionError
  | integrityError
deriving DecidableEq

/-- A computation that returns a value or raises. -/
abbrev Py := Except PyError

theorem Py.bind_eq_ok {α β : Type} {x : Py α} {f : α → Py β} {b : β} :
    x >>= f = .ok b ↔ ∃ a, x = .ok a ∧ f a = .ok b :=
  Library.Raising.bind_eq_ok

@[simp] theorem Py.ok_bind {α β : Type} (a : α) (f : α → Py β) : (.ok a : Py α) >>= f = f a := rfl

@[simp] theorem Py.error_bind {α β : Type} (e : PyError) (f : α → Py β) :
    (.error e : Py α) >>= f = .error e := rfl

@[simp] theorem Py.pure_eq_ok {α : Type} (a : α) : (pure a : Py α) = .ok a := rfl

/-- A loop that collects its results returns when each of its steps does. -/
theorem Py.mapM_eq_ok {α β : Type} {f : α → Py β} {as : List α} {bs : List β} :
    as.mapM f = .ok bs ↔ as.map f = bs.map .ok := by
  induction as generalizing bs with
  | nil => cases bs <;> simp
  | cons a as ih =>
      rw [List.mapM_cons, Py.bind_eq_ok]
      cases bs with
      | nil => simp [Py.bind_eq_ok]
      | cons b bs =>
        simp only [Py.bind_eq_ok, Py.pure_eq_ok, Except.ok.injEq, List.cons.injEq, ih,
          List.map_cons]
        constructor
        · rintro ⟨b', hb, bs', hbs, rfl, rfl⟩
          exact ⟨hb, hbs⟩
        · rintro ⟨hb, hbs⟩
          exact ⟨b, hb, bs, hbs, rfl, rfl⟩

theorem Py.exists_map_eq_ok {α β : Type} {f : α → Py β} {R : α → β → Prop} {as : List α}
    (h : ∀ a ∈ as, ∃ b, f a = .ok b ∧ R a b) :
    ∃ bs, as.map f = bs.map .ok ∧ List.Forall₂ R as bs := by
  induction as with
  | nil => exact ⟨[], rfl, .nil⟩
  | cons a as ih =>
      obtain ⟨b, hb, hR⟩ := h a (by simp)
      obtain ⟨bs, hbs, hRs⟩ := ih fun a' ha' => h a' (by simp [ha'])
      exact ⟨b :: bs, by rw [List.map_cons, List.map_cons, hb, hbs], .cons hR hRs⟩

theorem Py.forall₂_of_map_eq {α β : Type} {f : α → Py β} {as : List α} {bs : List β}
    (h : as.map f = bs.map .ok) : List.Forall₂ (fun a b => f a = .ok b) as bs := by
  induction as generalizing bs with
  | nil =>
      obtain rfl : bs = [] := by simpa using h.symm
      exact .nil
  | cons a as ih =>
      cases bs with
      | nil => simp at h
      | cons b bs =>
        obtain ⟨hb, hbs⟩ := List.cons.inj h
        exact .cons hb (ih hbs)

theorem Py.mapM_returns {α β : Type} {f : α → Py β} {as : List α} :
    (∃ bs, as.mapM f = .ok bs) ↔ ∀ a ∈ as, ∃ b, f a = .ok b := by
  constructor
  · rintro ⟨bs, hbs⟩ a ha
    obtain ⟨b, -, hb⟩ := List.mem_map.mp (Py.mapM_eq_ok.mp hbs ▸ List.mem_map_of_mem ha)
    exact ⟨b, hb.symm⟩
  · intro h
    obtain ⟨bs, hbs, -⟩ := Py.exists_map_eq_ok (R := fun _ _ => True) fun a ha =>
      (h a ha).imp fun b hb => ⟨hb, trivial⟩
    exact ⟨bs, Py.mapM_eq_ok.mpr hbs⟩

theorem Py.getElem?_mapM {α β : Type} {f : α → Py β} {as : List α} {bs : List β} {i : ℕ} {a : α}
    (h : as.mapM f = .ok bs) (ha : as[i]? = some a) : ∃ b, bs[i]? = some b ∧ f a = .ok b := by
  have hat := congrArg (·[i]?) (Py.mapM_eq_ok.mp h)
  simp only [List.getElem?_map, ha, Option.map_some] at hat
  obtain ⟨b, hb, hfa⟩ := Option.map_eq_some_iff.mp hat.symm
  exact ⟨b, hb, hfa.symm⟩

theorem Py.mapM_getElem? {α β : Type} {f : α → Py β} {as : List α} {bs : List β} {i : ℕ} {b : β}
    (h : as.mapM f = .ok bs) (hb : bs[i]? = some b) : ∃ a, as[i]? = some a ∧ f a = .ok b := by
  have hat := congrArg (·[i]?) (Py.mapM_eq_ok.mp h)
  simp only [List.getElem?_map, hb, Option.map_some] at hat
  exact Option.map_eq_some_iff.mp hat

/-- The results of such a loop, when each step has only one possible result. -/
theorem Py.mapM_ok_eq_map {α β : Type} {f : α → Py β} {g : α → β}
    (hfg : ∀ a b, f a = .ok b → b = g a) {as : List α} {bs : List β} (h : as.mapM f = .ok bs) :
    bs = as.map g := by
  have hall := Py.forall₂_of_map_eq (Py.mapM_eq_ok.mp h)
  clear h
  induction hall with
  | nil => rfl
  | cons hb _ ih => rw [List.map_cons, ← hfg _ _ hb, ← ih]

/-- A dictionary whose values all have one type. -/
abbrev Dict (κ ν : Type) := AList (fun _ : κ => ν)

/-- The decimal digits at the front of a text, as a number, and what follows. -/
def takeDigits (cs : List Char) : ℕ × List Char :=
  ((cs.takeWhile Char.isDigit).foldl (fun n c => 10 * n + (c.toNat - '0'.toNat)) 0,
    cs.dropWhile Char.isDigit)

/-- The nearest double to a natural number, ties to even. -/
def roundDouble (n : ℕ) : ℕ :=
  let unit := 2 ^ (n.log2 + 1 - 53)
  let q := n / unit
  let up := 2 * (n % unit) > unit ∨ (2 * (n % unit) = unit ∧ q % 2 = 1 ∧ unit ≠ 1)
  (if up then q + 1 else q) * unit

/-- `int(x)` of a float, from its `repr`: truncation toward zero. -/
def intOfFloat (repr : String) : Py Int :=
  let (negative, digits) :=
    match repr.toList with
    | '-' :: cs => (true, cs)
    | cs => (false, cs)
  let signed (n : ℕ) : Int := if negative then -(n : Int) else n
  if digits = "inf".toList then .error .overflowError
  else if digits = "nan".toList then
    .error (.valueError "cannot convert float NaN to integer")
  else
    let (whole, rest) := takeDigits digits
    let fraction := match rest with
      | '.' :: cs => cs.takeWhile Char.isDigit
      | _ => []
    match rest.dropWhile (· ≠ 'e') with
    | 'e' :: '-' :: _ => .ok 0
    | 'e' :: '+' :: cs =>
        let mantissa := fraction.foldl (fun n c => 10 * n + (c.toNat - '0'.toNat)) whole
        .ok (signed (roundDouble (mantissa * 10 ^ ((takeDigits cs).1 - fraction.length))))
    | _ => .ok (signed whole)

/-- `c.isspace()`. -/
def isSpace (c : Char) : Bool :=
  let n := c.toNat
  (9 ≤ n && n ≤ 13) || (28 ≤ n && n ≤ 32) || n = 133 || n = 160 || n = 5760 ||
    (8192 ≤ n && n ≤ 8202) || n = 8232 || n = 8233 || n = 8239 || n = 8287 || n = 12288

/-- The zeros of the scripts with decimal digits. -/
def DECIMAL_ZEROS : List ℕ :=
  [0x660, 0x6f0, 0x7c0, 0x966, 0x9e6, 0xa66, 0xae6, 0xb66, 0xbe6, 0xc66, 0xce6, 0xd66, 0xde6, 0xe50,
   0xed0, 0xf20, 0x1040, 0x1090, 0x17e0, 0x1810, 0x1946, 0x19d0, 0x1a80, 0x1a90, 0x1b50, 0x1bb0,
   0x1c40, 0x1c50, 0xa620, 0xa8d0, 0xa900, 0xa9d0, 0xa9f0, 0xaa50, 0xabf0, 0xff10, 0x104a0, 0x10d30,
   0x11066, 0x110f0, 0x11136, 0x111d0, 0x112f0, 0x11450, 0x114d0, 0x11650, 0x116c0, 0x11730,
   0x118e0, 0x11950, 0x11c50, 0x11d50, 0x11da0, 0x16a60, 0x16ac0, 0x16b50, 0x1d7ce, 0x1d7d8,
   0x1d7e2, 0x1d7ec, 0x1d7f6, 0x1e140, 0x1e2f0, 0x1e950, 0x1fbf0]

/-- A character as `int` takes it: blanks and decimal digits of any script are those of ASCII. -/
def asciiOf (c : Char) : Char :=
  if c.toNat < 127 then c
  else if isSpace c then ' '
  else
    match DECIMAL_ZEROS.find? fun z => z ≤ c.toNat && c.toNat < z + 10 with
    | some z => Char.ofNat ('0'.toNat + (c.toNat - z))
    | none => '?'

/-- A blank of C. -/
def isBlank (c : Char) : Bool := (9 ≤ c.toNat && c.toNat ≤ 13) || c.toNat = 32

/-- `int(s)`, but for its limit: blanks around it and a sign are allowed, and single
underscores between digits. -/
def intOfStr (s : String) : Py Int :=
  let trimmed := (((s.toList.map asciiOf).dropWhile isBlank).reverse.dropWhile isBlank).reverse
  let (sign, digits) := match trimmed with
    | '-' :: cs => ((-1 : Int), cs)
    | '+' :: cs => (1, cs)
    | cs => (1, cs)
  let groups := digits.splitOn '_'
  if groups.all fun g => !g.isEmpty && g.all Char.isDigit then
    .ok (sign * (takeDigits groups.flatten).1)
  else .error (.valueError ("invalid literal for int() with base 10: '" ++ s ++ "'"))

def INT_MAX_STR_DIGITS : ℕ := 4300

inductive Json where
  | null
  | bool (b : Bool)
  | int (n : Int)
  | float (repr : String)
  | str (s : String)
  | arr (elems : List Json)
  | obj (members : List (String × Json))

/-- A dictionary key: numbers that compare equal are one key. -/
inductive Key where
  | null
  | int (n : Int)
  | float (repr : String)
  | str (s : String)
deriving DecidableEq

namespace Json

/-- `bool(x)`: the empty and the zero values are false. -/
def truthy : Json → Bool
  | null => false
  | bool b => b
  | int n => decide (n ≠ 0)
  | float repr => decide (repr ≠ "0.0") && decide (repr ≠ "-0.0")
  | str s => decide (s ≠ "")
  | arr elems => !elems.isEmpty
  | obj members => !members.isEmpty

/-- `a or b`. -/
def or (a b : Json) : Json := if a.truthy then a else b

def isNull : Json → Bool
  | null => true
  | _ => false

/-- `d.get(key, default)`. -/
def getD (j : Json) (key : String) (default : Json) : Py Json :=
  match j with
  | obj members => .ok ((members.lookup key).getD default)
  | _ => .error .attributeError

/-- `d.get(key)`. -/
def get (j : Json) (key : String) : Py Json := j.getD key null

/-- `d[key]`. -/
def item (j : Json) (key : String) : Py Json :=
  match j with
  | obj members =>
      match members.lookup key with
      | some value => .ok value
      | none => .error .keyError
  | _ => .error .typeError

/-- `isinstance(x, str)`, with the string. -/
def str? : Json → Option String
  | str s => some s
  | _ => none

/-- A value the source annotates as `str`. -/
def toStr : Json → Py String
  | str s => .ok s
  | _ => .error .typeError

/-- `int(x)`, which refuses a text of too many digits. -/
def toInt : Json → Py Int
  | int n => .ok n
  | bool b => .ok (if b then 1 else 0)
  | float repr => intOfFloat repr
  | str s =>
      if INT_MAX_STR_DIGITS < ((s.toList.map asciiOf).filter Char.isDigit).length then
        .error (.valueError "Exceeds the limit (4300 digits) for integer string conversion")
      else intOfStr s
  | _ => .error .typeError

/-- A value the source annotates as `int | None`. -/
def toIntOrNone : Json → Py (Option Int)
  | null => .ok none
  | int n => .ok (some n)
  | _ => .error .typeError

/-- The integer a number is equal to: `True` is 1, and a float counts when its
`repr` shows no fractional part. -/
def asInt : Json → Option Int
  | bool b => some (if b then 1 else 0)
  | int n => some n
  | float repr =>
      let integral := match repr.toList.dropWhile (fun c => c = '-' || c.isDigit) with
        | '.' :: cs =>
          match cs.dropWhile Char.isDigit with
          | 'e' :: '+' :: _ => true
          | 'e' :: _ => false
          | _ => cs.all (· = '0')
        | 'e' :: '+' :: _ => true
        | _ => false
      if integral then (intOfFloat repr).toOption else none
  | _ => none

/-- A value as a dictionary key; lists and dictionaries are unhashable. -/
def key (j : Json) : Py Key :=
  match j.asInt, j with
  | some n, _ => .ok (.int n)
  | none, null => .ok .null
  | none, float repr => .ok (.float repr)
  | none, str s => .ok (.str s)
  | none, _ => .error .typeError

/-- The elements a `for` loop runs through. -/
def iter : Json → Py (List Json)
  | arr elems => .ok elems
  | str s => .ok (s.toList.map fun c => str c.toString)
  | obj members => .ok (members.map fun m => str m.1)
  | _ => .error .typeError

/-- `x[0]`. -/
def first : Json → Py Json
  | arr [] => .error .indexError
  | arr (e :: _) => .ok e
  | str s =>
      match s.toList with
      | [] => .error .indexError
      | c :: _ => .ok (str c.toString)
  | obj _ => .error .keyError
  | _ => .error .typeError

/-- `d[key] = value` on the members of a dictionary. -/
def setMember (key : String) (value : Json) : List (String × Json) → List (String × Json)
  | [] => [(key, value)]
  | (k, v) :: ms => if k = key then (k, value) :: ms else (k, v) :: setMember key value ms

def numEq (a b : Json) : Bool :=
  match a.asInt, b.asInt with
  | some m, some n => m = n
  | none, none =>
      match a, b with
      | float r, float s => r = s && r ≠ "nan"
      | _, _ => false
  | _, _ => false

mutual

/-- `a == b`.  A NaN is equal to nothing; Python finds it in a list or a dictionary equal to the
same object. -/
def pyEq : Json → Json → Bool
  | null, null => true
  | str s, str t => s = t
  | arr as, arr bs => pyEqElems as bs
  | obj ms, obj ns => ms.length = ns.length && pyEqMembers ms ns
  | a, b => numEq a b

def pyEqElems : List Json → List Json → Bool
  | [], [] => true
  | a :: as, b :: bs => pyEq a b && pyEqElems as bs
  | _, _ => false

def pyEqMembers : List (String × Json) → List (String × Json) → Bool
  | [], _ => true
  | (k, a) :: ms, ns =>
      (match ns.lookup k with
        | some b => pyEq a b
        | none => false) && pyEqMembers ms ns

end

/-- An optional string as a JSON value, `None` becoming `null`. -/
def ofStr? : Option String → Json
  | some s => str s
  | none => null

def ofInt? : Option Int → Json
  | some n => int n
  | none => null

@[simp] theorem truthy_null : null.truthy = false := rfl

@[simp] theorem truthy_str (s : String) : (str s).truthy = decide (s ≠ "") := rfl

@[simp] theorem truthy_obj (members : List (String × Json)) :
    (obj members).truthy = !members.isEmpty := rfl

@[simp] theorem truthy_arr (elems : List Json) : (arr elems).truthy = !elems.isEmpty := rfl

theorem or_of_truthy {a : Json} (h : a.truthy = true) (b : Json) : a.or b = a := by
  simp [or, h]

theorem or_of_falsy {a : Json} (h : a.truthy = false) (b : Json) : a.or b = b := by
  simp [or, h]

theorem truthy_or {a b : Json} : (a.or b).truthy = true ↔ a.truthy = true ∨ b.truthy = true := by
  cases h : a.truthy <;> simp [or, h]

/-- `d or {}` is `d` for a dictionary, empty or not. -/
@[simp] theorem obj_or_empty (members : List (String × Json)) :
    (obj members).or (obj []) = obj members := by
  cases members <;> rfl

@[simp] theorem getD_obj (members : List (String × Json)) (key : String) (default : Json) :
    (obj members).getD key default = .ok ((members.lookup key).getD default) := rfl

@[simp] theorem get_obj (members : List (String × Json)) (key : String) :
    (obj members).get key = .ok ((members.lookup key).getD null) := rfl

theorem lookup_setMember_self (key : String) (value : Json) (members : List (String × Json)) :
    (setMember key value members).lookup key = some value := by
  induction members with
  | nil => simp [setMember]
  | cons m ms ih =>
      obtain ⟨k, v⟩ := m
      by_cases hk : k = key
      · simp [setMember, hk]
      · simp [setMember, hk, List.lookup_cons, beq_eq_false_iff_ne.mpr (Ne.symm hk), ih]

theorem lookup_setMember_ne {key other : String} (h : other ≠ key) (value : Json)
    (members : List (String × Json)) :
    (setMember key value members).lookup other = members.lookup other := by
  induction members with
  | nil => simp [setMember, List.lookup_cons, beq_eq_false_iff_ne.mpr h]
  | cons m ms ih =>
      obtain ⟨k, v⟩ := m
      by_cases hk : k = key
      · simp [setMember, hk, List.lookup_cons, beq_eq_false_iff_ne.mpr h]
      · simp [setMember, hk, List.lookup_cons, ih]

@[simp] theorem toStr_str (s : String) : (str s).toStr = .ok s := rfl

@[simp] theorem key_str (s : String) : (str s).key = .ok (.str s) := rfl

@[simp] theorem toInt_int (n : Int) : (int n).toInt = .ok n := rfl

@[simp] theorem toIntOrNone_ofInt? (o : Option Int) : (ofInt? o).toIntOrNone = .ok o := by
  cases o <;> rfl

end Json

end CapsuleMesh.Python
