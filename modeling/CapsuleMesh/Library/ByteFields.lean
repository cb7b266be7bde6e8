import Mathlib.Data.Vector.Basic
import Mathlib.Tactic.Ring

/-!
# Fields of a byte string

Little-endian words, and what stands at an offset of a list that is laid out field by field.
-/

namespace CapsuleMesh.Library

/-- The number that a little-endian byte string stands for. -/
def leNat : List UInt8 → ℕ
  | [] => 0
  | b :: bs => b.toNat + 256 * leNat bs

/-- The last `width` bytes of a number, the lowest first. -/
def leBytes : (width n : ℕ) → List UInt8
  | 0, _ => []
  | width + 1, n => UInt8.ofNat n :: leBytes width (n / 256)

@[simp] theorem length_leBytes (width n : ℕ) : (leBytes width n).length = width := by
  induction width generalizing n with
  | zero => rfl
  | succ width ih => rw [leBytes, List.length_cons, ih]

theorem leNat_lt (bs : List UInt8) : leNat bs < 256 ^ bs.length := by
  induction bs with
  | nil => exact Nat.one_pos
  | cons b bs ih =>
      have hb : b.toNat < 256 := b.toNat_lt
      rw [leNat, List.length_cons, Nat.pow_succ]
      omega

theorem leNat_leBytes {width n : ℕ} (hn : n < 256 ^ width) : leNat (leBytes width n) = n := by
  induction width generalizing n with
  | zero =>
      rw [Nat.pow_zero] at hn
      exact (Nat.lt_one_iff.mp hn).symm
  | succ width ih =>
      rw [Nat.pow_succ] at hn
      have hrest : leNat (leBytes width (n / 256)) = n / 256 := ih (by omega)
      have hfirst : (UInt8.ofNat n).toNat = n % 256 := UInt8.toNat_ofNat'
      rw [leBytes, leNat, hrest, hfirst]
      omega

theorem leBytes_leNat (bs : List UInt8) : leBytes bs.length (leNat bs) = bs := by
  induction bs with
  | nil => rfl
  | cons b bs ih =>
      have hb : b.toNat < 256 := b.toNat_lt
      have hrest : (b.toNat + 256 * leNat bs) / 256 = leNat bs := by omega
      have hfirst : UInt8.ofNat (b.toNat + 256 * leNat bs) = b := by
        apply UInt8.toNat_inj.mp
        rw [UInt8.toNat_ofNat']
        omega
      rw [List.length_cons, leNat, leBytes, hrest, hfirst, ih]

section

variable {α : Type*} {b field rest : List α} {off n : ℕ}

/-- `rest` is what the list `b` holds from the offset on. -/
structure ReadsAt (b : List α) (off : ℕ) (rest : List α) : Prop where
  le : off ≤ b.length
  drop : b.drop off = rest

theorem ReadsAt.start (b : List α) : ReadsAt b 0 b := ⟨Nat.zero_le _, rfl⟩

theorem ReadsAt.length_eq (h : ReadsAt b off rest) : b.length = off + rest.length := by
  have hlength : (b.drop off).length = rest.length := congrArg List.length h.drop
  rw [List.length_drop] at hlength
  have hle := h.le
  omega

/-- Behind a field of `n` elements stands the rest. -/
theorem ReadsAt.next (h : ReadsAt b off (field ++ rest)) (hn : field.length = n) :
    ReadsAt b (off + n) rest := by
  have hlength := h.length_eq
  rw [List.length_append, hn] at hlength
  refine ⟨by omega, ?_⟩
  rw [← List.drop_drop, h.drop]
  exact List.drop_left' hn

theorem ReadsAt.take (h : ReadsAt b off (field ++ rest)) (hn : field.length = n) :
    (b.drop off).take n = field := by
  rw [h.drop]
  exact List.take_left' hn

/-- A list that is long enough starts with a field of `n` elements. -/
theorem exists_field (n m : ℕ) (h : b.length = n + m) :
    ∃ field : List.Vector α n, ∃ rest, b = field.toList ++ rest ∧ rest.length = m := by
  have hn : n ≤ b.length := h ▸ Nat.le_add_right n m
  refine ⟨⟨b.take n, List.length_take_of_le hn⟩, b.drop n, (List.take_append_drop n b).symm, ?_⟩
  rw [List.length_drop, h, Nat.add_sub_cancel_left]

end

/-- A byte string that is long enough starts with a word of `n` bytes. -/
theorem exists_word (n m : ℕ) {b : List UInt8} (h : b.length = n + m) :
    ∃ w rest, w < 256 ^ n ∧ b = leBytes n w ++ rest ∧ rest.length = m := by
  obtain ⟨field, rest, hb, hrest⟩ := exists_field n m h
  have hlength : field.toList.length = n := field.toList_length
  have hword := leBytes_leNat field.toList
  have hlt := leNat_lt field.toList
  rw [hlength] at hword hlt
  exact ⟨leNat field.toList, rest, hlt, by rw [hword, hb], hrest⟩

/-- The word of `n` bytes at an offset. -/
def wordAt (b : List UInt8) (off n : ℕ) : ℕ := leNat ((b.drop off).take n)

theorem ReadsAt.wordAt_eq {b rest : List UInt8} {off n w : ℕ}
    (h : ReadsAt b off (leBytes n w ++ rest)) (hw : w < 256 ^ n) : wordAt b off n = w := by
  rw [wordAt, h.take (length_leBytes n w), leNat_leBytes hw]

end CapsuleMesh.Library
