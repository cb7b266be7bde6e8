import CapsuleMesh.Python.Json

/-!
# Bytes and texts

The built-ins that the certificate and attestation code relies on:
`bytes.fromhex`, `int.to_bytes(_, "little")`, UTF-8 encoding and `repr` of a
string.
-/

namespace CapsuleMesh.Python

abbrev Bytes := List UInt8

def utf8 (s : String) : Bytes := s.toUTF8.toList

def hexDigit? (c : Char) : Option ℕ :=
  if '0' ≤ c ∧ c ≤ '9' then some (c.toNat - '0'.toNat)
  else if 'a' ≤ c ∧ c ≤ 'f' then some (c.toNat - 'a'.toNat + 10)
  else if 'A' ≤ c ∧ c ≤ 'F' then some (c.toNat - 'A'.toNat + 10)
  else none

/-- The ASCII whitespace that `bytes.fromhex` skips between two bytes. -/
def isHexSpace (c : Char) : Bool :=
  c ∈ [' ', '\t', '\n', '\r', Char.ofNat 11, Char.ofNat 12]

def nonHexText (position : ℕ) : String :=
  "non-hexadecimal number found in fromhex() arg at position " ++ toString position

/-- `bytes.fromhex` on the characters that start at `position`. -/
def fromHexFrom : ℕ → List Char → Py Bytes
  | _, [] => .ok []
  | position, c :: cs =>
      if isHexSpace c then fromHexFrom (position + 1) cs
      else
        match hexDigit? c, cs with
        | none, _ => .error (.valueError (nonHexText position))
        | some _, [] => .error (.valueError (nonHexText (position + 1)))
        | some hi, d :: ds =>
          match hexDigit? d with
          | none => .error (.valueError (nonHexText (position + 1)))
          | some lo => do
            let rest ← fromHexFrom (position + 2) ds
            return UInt8.ofNat (16 * hi + lo) :: rest

/-- `bytes.fromhex(s)`. -/
def bytesFromHex (s : String) : Py Bytes := fromHexFrom 0 s.toList

/-- `n.to_bytes(width, "little")`. -/
def toBytesLittle (n : Int) (width : ℕ) : Py Bytes :=
  if 0 ≤ n ∧ n < 256 ^ width then
    .ok ((List.range width).map fun i => UInt8.ofNat (n.toNat / 256 ^ i % 256))
  else .error .overflowError

def singleQuote : Char := Char.ofNat 39

def doubleQuote : Char := Char.ofNat 34

def reprChar (quote c : Char) : String :=
  if c = quote ∨ c = Char.ofNat 92 then "\\" ++ c.toString
  else if c = '\n' then "\\n"
  else if c = '\r' then "\\r"
  else if c = '\t' then "\\t"
  else c.toString

/-- `repr` of a string of printable characters, tabs and line ends. -/
def pyRepr (s : String) : String :=
  let quote := if singleQuote ∈ s.toList ∧ doubleQuote ∉ s.toList then doubleQuote else singleQuote
  quote.toString ++ String.join (s.toList.map (reprChar quote)) ++ quote.toString

/-- A text without the separator ends where the separator first stands. -/
theorem append_sep_inj {sep : Char} {a b r r' : List Char} (ha : sep ∉ a) (hb : sep ∉ b)
    (h : a ++ sep :: r = b ++ sep :: r') : a = b ∧ r = r' := by
  induction a generalizing b with
  | nil =>
      cases b with
      | nil => exact ⟨rfl, (List.cons.inj h).2⟩
      | cons y b =>
        rw [← (List.cons.inj h).1] at hb
        exact absurd List.mem_cons_self hb
  | cons x a ih =>
      cases b with
      | nil =>
        rw [(List.cons.inj h).1] at ha
        exact absurd List.mem_cons_self ha
      | cons y b =>
        rw [List.cons_append, List.cons_append] at h
        obtain ⟨rfl, htail⟩ := List.cons.inj h
        obtain ⟨rfl, hr⟩ :=
          ih (List.not_mem_of_not_mem_cons ha) (List.not_mem_of_not_mem_cons hb) htail
        exact ⟨rfl, hr⟩

/-- The words that `s.split()` cuts the rest of a text into, with the word begun so far. -/
def splitFrom : List Char → List Char → List String
  | word, [] => if word.isEmpty then [] else [String.ofList word.reverse]
  | word, c :: cs =>
      if isSpace c then
        if word.isEmpty then splitFrom [] cs else String.ofList word.reverse :: splitFrom [] cs
      else splitFrom (c :: word) cs

/-- `s.split()`. -/
def split (s : String) : List String := splitFrom [] s.toList

mutual

/-- `repr` of a value that came out of `json.loads`. -/
def Json.pyRepr : Json → String
  | .null => "None"
  | .bool b => if b then "True" else "False"
  | .int n => toString n
  | .float repr => repr
  | .str s => Python.pyRepr s
  | .arr elems => "[" ++ ", ".intercalate (Json.pyReprElems elems) ++ "]"
  | .obj members => "\x7b" ++ ", ".intercalate (Json.pyReprMembers members) ++ "\x7d"

def Json.pyReprElems : List Json → List String
  | [] => []
  | e :: es => e.pyRepr :: Json.pyReprElems es

def Json.pyReprMembers : List (String × Json) → List String
  | [] => []
  | (k, v) :: ms => (Python.pyRepr k ++ ": " ++ v.pyRepr) :: Json.pyReprMembers ms

end

def hexChar (n : ℕ) : Char := "0123456789abcdef".toList.getD n '0'

/-- A UTF-16 code unit as `json.dumps` escapes it. -/
def unicodeEscape (unit : ℕ) : String :=
  "\\u" ++ String.ofList
    [hexChar (unit / 4096 % 16), hexChar (unit / 256 % 16), hexChar (unit / 16 % 16),
     hexChar (unit % 16)]

def escapeChar (c : Char) : String :=
  if c = doubleQuote ∨ c = Char.ofNat 92 then "\\" ++ c.toString
  else if c = '\n' then "\\n"
  else if c = '\r' then "\\r"
  else if c = '\t' then "\\t"
  else if c = Char.ofNat 8 then "\\b"
  else if c = Char.ofNat 12 then "\\f"
  else if 32 ≤ c.toNat ∧ c.toNat < 127 then c.toString
  else if c.toNat < 65536 then unicodeEscape c.toNat
  else
    unicodeEscape (55296 + (c.toNat - 65536) / 1024) ++
      unicodeEscape (56320 + (c.toNat - 65536) % 1024)

def dumpsStr (s : String) : String :=
  doubleQuote.toString ++ String.join (s.toList.map escapeChar) ++ doubleQuote.toString

/-- A float as `json.dumps` writes it. -/
def dumpsFloat (repr : String) : String :=
  if repr = "nan" then "NaN"
  else if repr = "inf" then "Infinity"
  else if repr = "-inf" then "-Infinity"
  else repr

mutual

/-- `json.dumps(x)`. -/
def Json.dumps : Json → String
  | .null => "null"
  | .bool b => if b then "true" else "false"
  | .int n => toString n
  | .float repr => dumpsFloat repr
  | .str s => dumpsStr s
  | .arr elems => "[" ++ ", ".intercalate (Json.dumpsElems elems) ++ "]"
  | .obj members => "\x7b" ++ ", ".intercalate (Json.dumpsMembers members) ++ "\x7d"

def Json.dumpsElems : List Json → List String
  | [] => []
  | e :: es => e.dumps :: Json.dumpsElems es

def Json.dumpsMembers : List (String × Json) → List String
  | [] => []
  | (k, v) :: ms => (dumpsStr k ++ ": " ++ v.dumps) :: Json.dumpsMembers ms

end

/-- `str(x)`. -/
def Json.pyStr : Json → String
  | .str s => s
  | j => j.pyRepr

end CapsuleMesh.Python
