import CapsuleMesh.Adjudication.Twin
import CapsuleMesh.Library.Bisection
import CapsuleMesh.Sidecar.SafeNumbers
import Mathlib.Tactic.NormNum

/-!
# Comparing two transcripts

`compare_transcripts` looks for the first token in which two texts differ by bisection on the
length of the prefix that they share.
-/

namespace CapsuleMesh.Adjudication

open Python Sidecar Library

/-- The document whose digest is the `prefix_digest`. -/
def prefixDocument (tokens : List String) : Json :=
  .obj [("prefix_tokens", .arr (tokens.map Json.str))]

theorem matchedLen_eq_bisect (as bs : List String) (fuel lo hi : ℕ) :
    matchedLen as bs fuel lo hi = bisect (fun k => as.take k = bs.take k) fuel lo hi := by
  induction fuel generalizing lo hi with
  | zero => rfl
  | succ fuel ih =>
      rw [matchedLen, bisect]
      simp only [ih]

/-- The loop of `compare_transcripts` ends at the length of the longest common prefix. -/
theorem bisects_commonPrefix (as bs : List String) :
    Bisects (fun k => as.take k = bs.take k) 0 (min as.length bs.length)
      (commonPrefix as bs).length := by
  apply LastUpTo.bisects
  · exact lastUpTo_commonPrefix as bs
  · exact Nat.zero_le _

theorem matchedLen_eq (as bs : List String) {fuel : ℕ} (hfuel : min as.length bs.length ≤ fuel) :
    matchedLen as bs fuel 0 (min as.length bs.length) = (commonPrefix as bs).length := by
  rw [matchedLen_eq_bisect]
  apply (bisects_commonPrefix as bs).bisect_eq
  omega

theorem digestible_prefixDocument (tokens : List String) :
    digestible (prefixDocument tokens) = true := by
  rw [prefixDocument, digestible_obj]
  intro m hm
  obtain rfl := List.mem_singleton.mp hm
  rw [digestible_arr]
  intro e he
  obtain ⟨token, -, rfl⟩ := List.mem_map.mp he
  exact digestible_str token

theorem stringifyFloats_prefixDocument (tokens : List String) :
    stringifyFloats (prefixDocument tokens) = prefixDocument tokens := by
  have helems : stringifyElems (tokens.map Json.str) = tokens.map Json.str := by
    induction tokens with
    | nil => rfl
    | cons token tokens ih => simp only [List.map_cons, stringifyElems, stringifyFloats, ih]
  simp only [prefixDocument, stringifyFloats, stringifyMembers, helems]

/-- A list of tokens always has a digest. -/
theorem digestJson_prefixDocument {digests : Digests}
    (hdigest : ∀ value, (digests.jsonDigest value).isSome = digestible value)
    (tokens : List String) : ∃ digest, digestJson digests (prefixDocument tokens) = .ok digest := by
  have hsome := hdigest (prefixDocument tokens)
  rw [digestible_prefixDocument] at hsome
  obtain ⟨digest, hdigest⟩ := Option.isSome_iff_exists.mp hsome
  refine ⟨digest, ?_⟩
  rw [digestJson, safeDigestJson, stringifyFloats_prefixDocument, hdigest]

/-- What `compare_transcripts` measures, by the longest common prefix of the two token lists. -/
def comparisonOf (as bs : List String) (prefixDigest : Option String) : ComparisonResult where
  divergenceIndex := if as = bs then none else some (commonPrefix as bs).length
  margin := ((commonPrefix as bs).length : ℚ) / max (max as.length bs.length) 1
  lenA := as.length
  lenB := bs.length
  prefixDigest := prefixDigest

theorem compareTranscripts_str (digests : Digests) (textA textB : String) :
    compareTranscripts digests (.str textA) (.str textB) = do
      let shared := commonPrefix (split textA) (split textB)
      let prefixDigest ←
        if shared = [] then pure none
        else some <$> digestJson digests (prefixDocument shared)
      return comparisonOf (split textA) (split textB) prefixDigest := by
  have hmatched := matchedLen_eq (split textA) (split textB) le_rfl
  have hshared := take_length_commonPrefix (split textA) (split textB)
  have hsame := length_commonPrefix_eq_iff (split textA) (split textB)
  simp only [compareTranscripts, tokenize, Py.ok_bind, hmatched, hshared, hsame, ne_eq,
    List.length_eq_zero_iff, ite_not]
  rfl

/-- The bisection agrees with the linear definition: it ends, and the comparison is the one by the
longest common prefix of the token lists. -/
theorem compareTranscripts_eq_commonPrefix {digests : Digests}
    (hdigest : ∀ value, (digests.jsonDigest value).isSome = digestible value)
    (textA textB : String) :
    let as := split textA
    let bs := split textB
    let shared := commonPrefix as bs
    Bisects (fun k => as.take k = bs.take k) 0 (min as.length bs.length) shared.length ∧
      ∃ result, compareTranscripts digests (.str textA) (.str textB) = .ok result ∧
        (result.divergenceIndex = none ↔ as = bs) ∧
        (as ≠ bs → result.divergenceIndex = some shared.length) ∧
        (shared = [] → result.prefixDigest = none) ∧
        (shared ≠ [] → ∃ digest, digestJson digests (prefixDocument shared) = .ok digest ∧
          result.prefixDigest = some digest) ∧
        result.margin = (shared.length : ℚ) / max (max as.length bs.length) 1 := by
  intro as bs shared
  refine ⟨bisects_commonPrefix as bs, ?_⟩
  rw [compareTranscripts_str]
  by_cases hempty : shared = []
  · refine ⟨comparisonOf as bs none, ?_, ?_, ?_, ?_, ?_, rfl⟩
    · simp only [as, bs, shared, hempty, if_true]
      rfl
    · simp [comparisonOf]
    · intro hne
      exact if_neg hne
    · exact fun _ => rfl
    · exact fun hne => absurd hempty hne
  · obtain ⟨digest, hshared⟩ := digestJson_prefixDocument hdigest shared
    refine ⟨comparisonOf as bs (some digest), ?_, ?_, ?_, ?_, ?_, rfl⟩
    · simp only [as, bs, shared, if_neg hempty, hshared]
      rfl
    · simp [comparisonOf]
    · intro hne
      exact if_neg hne
    · exact fun heq => absurd heq hempty
    · exact fun _ => ⟨digest, hshared, rfl⟩

/-- Two texts that share their first two words. -/
theorem compareTranscripts_eq_commonPrefix_lastWord :
    ∃ result, compareTranscripts numberDigests (.str "the cat sat") (.str "the cat ran") =
        .ok result ∧ result.divergenceIndex = some 2 ∧ result.margin = 2 / 3 := by
  have has : split "the cat sat" = ["the", "cat", "sat"] := by decide
  have hbs : split "the cat ran" = ["the", "cat", "ran"] := by decide
  have hshared : commonPrefix ["the", "cat", "sat"] ["the", "cat", "ran"] = ["the", "cat"] := by
    decide
  have h := compareTranscripts_eq_commonPrefix numberEmit_refuses.digest "the cat sat" "the cat ran"
  simp only [has, hbs, hshared] at h
  obtain ⟨-, result, hresult, -, hindex, -, -, hmargin⟩ := h
  refine ⟨result, hresult, hindex (by decide), ?_⟩
  rw [hmargin]
  norm_num

end CapsuleMesh.Adjudication
