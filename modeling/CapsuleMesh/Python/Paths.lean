import CapsuleMesh.Python.Lines

/-!
# Request paths and file paths

`urllib.parse.unquote` and the join of `pathlib.PurePosixPath`.  A percent sign with two digits
stands for an octet, so a segment of a request path reads as any text; a joined text that begins
with a slash takes the place of the path before it.
-/

namespace CapsuleMesh.Python

/-! ## Malformed UTF-8 -/

def replacement : Char := Char.ofNat 0xFFFD

/-- How many octets follow a lead octet, and the range of the first of them. -/
def followers (lead : ℕ) : Option (ℕ × ℕ × ℕ) :=
  if 0xC2 ≤ lead ∧ lead ≤ 0xDF then some (1, 0x80, 0xBF)
  else if lead = 0xE0 then some (2, 0xA0, 0xBF)
  else if lead = 0xED then some (2, 0x80, 0x9F)
  else if 0xE1 ≤ lead ∧ lead ≤ 0xEF then some (2, 0x80, 0xBF)
  else if lead = 0xF0 then some (3, 0x90, 0xBF)
  else if lead = 0xF4 then some (3, 0x80, 0x8F)
  else if 0xF1 ≤ lead ∧ lead ≤ 0xF3 then some (3, 0x80, 0xBF)
  else none

/-- The rest of a sequence; the first octet out of its range ends it and is read again. -/
def follow : ℕ → ℕ × ℕ → ℕ → Bytes → Char × Bytes
  | 0, _, value, data => (Char.ofNat value, data)
  | _ + 1, _, _, [] => (replacement, [])
  | count + 1, (low, high), value, b :: bs =>
      if low ≤ b.toNat ∧ b.toNat ≤ high then
        follow count (0x80, 0xBF) (64 * value + b.toNat % 64) bs
      else (replacement, b :: bs)

/-- `errors="replace"`, on as many octets as the fuel. -/
def replaceFrom : ℕ → Bytes → List Char
  | 0, _ => []
  | _ + 1, [] => []
  | fuel + 1, b :: bs =>
      if b.toNat < 0x80 then Char.ofNat b.toNat :: replaceFrom fuel bs
      else
        match followers b.toNat with
        | none => replacement :: replaceFrom fuel bs
        | some (count, range) =>
          let (c, rest) := follow count range (b.toNat % 2 ^ (6 - count)) bs
          c :: replaceFrom fuel rest

def replaceMalformed (data : Bytes) : String := String.ofList (replaceFrom data.length data)

/-! ## Percent signs -/

/-- The octet that three characters stand for. -/
def octet? (c hi lo : Char) : Option UInt8 := do
  guard (c = '%')
  return UInt8.ofNat (16 * (← hexDigit? hi) + (← hexDigit? lo))

/-- `unquote_to_bytes`, on ASCII. -/
def unquoteToBytes : List Char → Bytes
  | [] => []
  | [c] => [UInt8.ofNat c.toNat]
  | [c, d] => [UInt8.ofNat c.toNat, UInt8.ofNat d.toNat]
  | c :: hi :: lo :: cs =>
      match octet? c hi lo with
      | some b => b :: unquoteToBytes cs
      | none => UInt8.ofNat c.toNat :: unquoteToBytes (hi :: lo :: cs)

def unquoteRun (run : List Char) : List Char :=
  (decodeReplace replaceMalformed (unquoteToBytes run)).toList

/-- `_generate_unquoted_parts`, with the ASCII run begun so far. -/
def unquoteFrom : List Char → List Char → List Char
  | run, [] => unquoteRun run.reverse
  | run, c :: cs =>
      if c.toNat < 128 then unquoteFrom (c :: run) cs
      else unquoteRun run.reverse ++ c :: unquoteFrom [] cs

/-- `unquote(text)`. -/
def unquote (text : String) : String :=
  if '%' ∈ text.toList then String.ofList (unquoteFrom [] text.toList) else text

theorem hexChar_plain (n : Fin 16) :
    (hexChar n).toNat < 128 ∧ hexChar n ≠ '/' ∧ hexChar n ≠ '%' := by
  revert n
  decide

/-- A `PurePosixPath`. -/
structure PurePath where
  root : String
  parts : List String
deriving DecidableEq

/-- `PurePosixPath(text)`. -/
def PurePath.parse (text : String) : PurePath where
  root :=
    match (text.toList.takeWhile (· = '/')).length with
    | 0 => ""
    | 2 => "//"
    | _ => "/"
  parts := ((text.toList.splitOn '/').map String.ofList).filter fun part =>
    part ≠ "" ∧ part ≠ "."

/-- `path / text`. -/
def PurePath.join (path : PurePath) (text : String) : PurePath :=
  let joined := PurePath.parse text
  if joined.root = "" then { path with parts := path.parts ++ joined.parts } else joined

end CapsuleMesh.Python
