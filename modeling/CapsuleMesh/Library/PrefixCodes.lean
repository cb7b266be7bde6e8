import CapsuleMesh.Library.ByteFields

/-!
# Encodings that can be read off the front of a list

An encoding relates a value with the words it may be written as.  It is self-delimiting when,
whatever stands behind a word, the word and the rest determine the value and where the word
ends.  Such encodings compose, and no word of one is a proper prefix of another.
-/

namespace CapsuleMesh.Library

variable {α β γ : Type*}

/-- The front of a list holds at most one value, and one end of it. -/
def SelfDelimiting (encodes : α → List β → Prop) : Prop :=
  ∀ ⦃a b : α⦄ ⦃x y rest rest' : List β⦄, encodes a x → encodes b y → x ++ rest = y ++ rest' →
    a = b ∧ rest = rest'

/-- Two values, one behind the other. -/
def AndThen (encodes : α → List β → Prop) (encodes' : γ → List β → Prop) (p : α × γ)
    (z : List β) : Prop :=
  ∃ x y, z = x ++ y ∧ encodes p.1 x ∧ encodes' p.2 y

/-- An optional value behind a tag. -/
def Tagged (absent present : β) (encodes : α → List β → Prop) (value : Option α) (z : List β) :
    Prop :=
  (value = none ∧ z = [absent]) ∨ ∃ a x, value = some a ∧ z = present :: x ∧ encodes a x

namespace SelfDelimiting

variable {encodes : α → List β → Prop}

/-- Words of one length. -/
theorem of_length {n : ℕ} (hlength : ∀ ⦃a x⦄, encodes a x → x.length = n)
    (hinj : ∀ ⦃a b x⦄, encodes a x → encodes b x → a = b) : SelfDelimiting encodes := by
  intro a b x y rest rest' ha hb heq
  have hsame : x.length = y.length := (hlength ha).trans (hlength hb).symm
  obtain ⟨rfl, hrest⟩ := List.append_inj heq hsame
  exact ⟨hinj ha hb, hrest⟩

/-- A value in front of another one, whose encoding it may determine. -/
theorem seq {encodes' : α → γ → List β → Prop} (h : SelfDelimiting encodes)
    (h' : ∀ a, SelfDelimiting (encodes' a)) :
    SelfDelimiting fun (p : α × γ) z =>
      ∃ x y, z = x ++ y ∧ encodes p.1 x ∧ encodes' p.1 p.2 y := by
  rintro ⟨a, c⟩ ⟨a', c'⟩ _ _ rest rest' ⟨x, y, rfl, hx, hy⟩ ⟨x', y', rfl, hx', hy'⟩ heq
  rw [List.append_assoc, List.append_assoc] at heq
  obtain ⟨rfl, heq⟩ := h hx hx' heq
  obtain ⟨rfl, hrest⟩ := h' a hy hy' heq
  exact ⟨rfl, hrest⟩

/-- One value behind another. -/
theorem andThen {encodes' : γ → List β → Prop} (h : SelfDelimiting encodes)
    (h' : SelfDelimiting encodes') : SelfDelimiting (AndThen encodes encodes') :=
  h.seq fun _ => h'

/-- Values that are encoded through another type. -/
theorem comap (h : SelfDelimiting encodes) {f : γ → α} (hf : Function.Injective f) :
    SelfDelimiting fun c x => encodes (f c) x := by
  intro c c' x y rest rest' hx hy heq
  obtain ⟨hvalue, hrest⟩ := h hx hy heq
  exact ⟨hf hvalue, hrest⟩

/-- Fewer words. -/
theorem mono {fewer : α → List β → Prop} (h : SelfDelimiting encodes)
    (hle : ∀ ⦃a x⦄, fewer a x → encodes a x) : SelfDelimiting fewer :=
  fun _ _ _ _ _ _ hx hy heq => h (hle hx) (hle hy) heq

theorem tagged (h : SelfDelimiting encodes) {absent present : β} (hne : absent ≠ present) :
    SelfDelimiting (Tagged absent present encodes) := by
  rintro _ _ _ _ rest rest' (⟨rfl, rfl⟩ | ⟨a, x, rfl, rfl, hx⟩) (⟨rfl, rfl⟩ | ⟨b, y, rfl, rfl, hy⟩)
    heq
  · exact ⟨rfl, (List.cons.inj heq).2⟩
  · exact absurd (List.cons.inj heq).1 hne
  · exact absurd (List.cons.inj heq).1 hne.symm
  · obtain ⟨rfl, hrest⟩ := h hx hy (List.cons.inj heq).2
    exact ⟨rfl, hrest⟩

end SelfDelimiting

/-- A list of known length stands for itself. -/
def EncodesRaw (n : ℕ) (payload x : List β) : Prop := x = payload ∧ payload.length = n

theorem selfDelimiting_raw (n : ℕ) : SelfDelimiting (@EncodesRaw β n) := by
  apply SelfDelimiting.of_length
  · rintro payload x ⟨rfl, hlength⟩
    exact hlength
  · rintro payload payload' x ⟨rfl, -⟩ ⟨rfl, -⟩
    rfl

/-- A number in a little-endian word of `width` bytes. -/
def EncodesWord (width : ℕ) (n : ℕ) (word : List UInt8) : Prop :=
  n < 256 ^ width ∧ word = leBytes width n

theorem selfDelimiting_word (width : ℕ) : SelfDelimiting (EncodesWord width) := by
  apply SelfDelimiting.of_length
  · rintro n _ ⟨-, rfl⟩
    exact length_leBytes width n
  · rintro n m word ⟨hn, rfl⟩ ⟨hm, heq⟩
    rw [← leNat_leBytes hn, heq, leNat_leBytes hm]

/-- A byte string behind its length. -/
def EncodesPrefixed (width : ℕ) (payload z : List UInt8) : Prop :=
  payload.length < 256 ^ width ∧ z = leBytes width payload.length ++ payload

theorem selfDelimiting_prefixed (width : ℕ) : SelfDelimiting (EncodesPrefixed width) := by
  have hseq := (selfDelimiting_word width).seq fun n => selfDelimiting_raw n
  have hlength : Function.Injective fun payload : List UInt8 => (payload.length, payload) :=
    fun _ _ h => (Prod.mk.inj h).2
  apply (hseq.comap hlength).mono
  rintro payload z ⟨hlt, rfl⟩
  exact ⟨_, _, rfl, ⟨hlt, rfl⟩, rfl, rfl⟩

end CapsuleMesh.Library
