import Mathlib.Data.List.Chain
import Mathlib.Data.List.Sort
import CapsuleMesh.History.Card

/-!
# What an unbroken card says about its range

The walk covers the lines above the boundary and links them to the first line at
the boundary size.  Lines above the boundary that fork, repeat or stand out of
order break the walk; other lines at the boundary size are never looked at.
-/

namespace CapsuleMesh.History

open Python

/-- `b` chains from `a` and is larger. -/
def Extends (a b : CheckpointLine) : Prop := b.prevSize = a.mmrSize ∧ a.mmrSize < b.mmrSize

/-- The lines in the closed range. -/
def closedRange (lines : List CheckpointLine) (sinceSize latestSize : Int) : List CheckpointLine :=
  lines.filter fun line => decide (sinceSize ≤ line.mmrSize ∧ line.mmrSize ≤ latestSize)

/-- One root for each size, and one strictly increasing chain of all the lines. -/
def OneChain (range : List CheckpointLine) : Prop :=
  (∀ a ∈ range, ∀ b ∈ range, a.mmrSize = b.mmrSize → a.root = b.root) ∧
    ∃ chain : List CheckpointLine, chain.Perm range ∧ chain.IsChain Extends

/-! ## The walk -/

theorem verifyLink_none {lib : Library} {prev cur : CheckpointLine} {cose : Option String}
    (h : verifyLink lib prev cur cose = none) : Extends prev cur := by
  by_cases hlog : cur.logId ≠ prev.logId
  · rw [verifyLink, if_pos hlog] at h
    cases h
  · by_cases hsize : cur.prevSize ≠ prev.mmrSize ∨ cur.mmrSize ≤ prev.mmrSize
    · rw [verifyLink, if_neg hlog, if_pos hsize] at h
      cases h
    · rw [not_or, not_not, not_le] at hsize
      exact hsize

theorem head?_append_text {s t : String} {c : Char} (h : s.toList.head? = some c) :
    (s ++ t).toList.head? = some c := by
  rw [String.toList_append, List.head?_append, h]
  rfl

theorem brokenAt_ne_unbroken (cp : CheckpointLine) (reason : String) :
    brokenAt cp reason ≠ "unbroken" := by
  have hfirst : "broken at mmr_size=".toList.head? = some 'b' := by decide
  have hhead : (brokenAt cp reason).toList.head? = some 'b' :=
    head?_append_text (head?_append_text (head?_append_text hfirst))
  intro h
  rw [h] at hhead
  exact absurd hhead (by decide)

/-- A walk that ends unbroken passed a chain, which starts at zero when there is no
boundary. -/
theorem walkFrom_unbroken {lib : Library} {cose : Int → Option String}
    {prev : Option CheckpointLine} {verified rest : List CheckpointLine}
    (h : (walkFrom lib cose prev verified rest).continuity = "unbroken") :
    (prev.toList ++ rest).IsChain Extends ∧ (prev = none → ∀ cp ∈ rest.head?, cp.prevSize = 0) := by
  induction rest generalizing prev verified with
  | nil => cases prev <;> simp
  | cons cp rest ih =>
      cases prev with
      | none =>
        rw [walkFrom] at h
        split_ifs at h with hgenesis
        · exact absurd h (brokenAt_ne_unbroken _ _)
        · rw [not_not] at hgenesis
          exact ⟨(ih h).1, by simpa using hgenesis⟩
      | some prev =>
        rw [walkFrom] at h
        split at h
        · exact absurd h (brokenAt_ne_unbroken _ _)
        · next hlink =>
            refine ⟨?_, by simp⟩
            exact List.isChain_cons_cons.mpr ⟨verifyLink_none hlink, (ih h).1⟩

theorem isChain_extends_pairwise {chain : List CheckpointLine} (h : chain.IsChain Extends) :
    chain.Pairwise fun a b => a.mmrSize < b.mmrSize := by
  have hlt : chain.IsChain fun a b => a.mmrSize < b.mmrSize := h.imp fun _ _ hab => hab.2
  have htrans : IsTrans CheckpointLine fun a b => a.mmrSize < b.mmrSize := ⟨fun _ _ _ => lt_trans⟩
  exact hlt.pairwise

/-- What an unbroken card was built from. -/
theorem unbroken_inv {lib : Library} {nodeId logId : Json} {lines : List CheckpointLine}
    {sinceSize : Int} {card : HistoryCard}
    (hcard : buildHistoryCard lib nodeId logId lines sinceSize = .ok card)
    (hunbroken : card.properties.continuity = "unbroken") :
    inRange lines sinceSize ≠ [] ∧
    (0 < sinceSize → boundaryOf lines sinceSize ≠ none) ∧
    ((boundaryOf lines sinceSize).toList ++ inRange lines sinceSize).IsChain Extends ∧
    (boundaryOf lines sinceSize = none → ∀ cp ∈ (inRange lines sinceSize).head?,
      cp.prevSize = 0) := by
  unfold buildHistoryCard at hcard
  dsimp only at hcard
  split_ifs at hcard with hmissing hempty
  · obtain rfl := Except.ok.inj hcard
    have hnone : NO_CHECKPOINTS = "unbroken" := hunbroken
    exact absurd hnone (by decide)
  · obtain ⟨stats, -, hcard⟩ := Py.bind_eq_ok.mp hcard
    obtain rfl := Except.ok.inj hcard
    have hwalk : (walkChain lib (inRange lines sinceSize) (coseBySize lines)
        (boundaryOf lines sinceSize)).continuity = "unbroken" := hunbroken
    unfold walkChain at hwalk
    split_ifs at hwalk with hnone
    · exact absurd hwalk (by decide)
    · refine ⟨by simpa using hnone, ?_, walkFrom_unbroken hwalk⟩
      intro hpos hboundary
      exact hmissing ⟨hpos, hboundary⟩

/-! ## The lines at the boundary -/

/-- Up to order, the closed range is the boundary's lines and the walked ones. -/
theorem closedRange_perm {lines : List CheckpointLine} {sinceSize latestSize : Int}
    (hle : sinceSize ≤ latestSize)
    (hlatest : ∀ line ∈ inRange lines sinceSize, line.mmrSize ≤ latestSize) :
    (closedRange lines sinceSize latestSize).Perm
      (atBoundary lines sinceSize ++ inRange lines sinceSize) := by
  induction lines with
  | nil => exact List.Perm.refl _
  | cons line lines ih =>
      have ih := ih fun l hl => hlatest l
        (List.mem_filter.mpr ⟨List.mem_cons_of_mem _ (List.mem_of_mem_filter hl),
          (List.mem_filter.mp hl).2⟩)
      unfold closedRange atBoundary inRange at *
      rcases lt_trichotomy line.mmrSize sinceSize with hlt | heq | hgt
      · rw [List.filter_cons_of_neg (by simp; omega), List.filter_cons_of_neg (by simp; omega),
          List.filter_cons_of_neg (by simp; omega)]
        exact ih
      · rw [List.filter_cons_of_pos (by simp; omega), List.filter_cons_of_pos (by simpa using heq),
          List.filter_cons_of_neg (by simp; omega)]
        exact ih.cons line
      · have hbound := hlatest line (List.mem_filter.mpr ⟨by simp, by simpa using hgt⟩)
        rw [List.filter_cons_of_pos (by simp; omega), List.filter_cons_of_neg (by simp; omega),
          List.filter_cons_of_pos (by simpa using hgt)]
        exact (ih.cons line).trans List.perm_middle.symm

/-- Lines of one size that stand in an increasing chain are one line at most. -/
theorem length_atBoundary_le_one {lines : List CheckpointLine} {sinceSize : Int}
    (h : ((atBoundary lines sinceSize).map CheckpointLine.mmrSize).Nodup) :
    (atBoundary lines sinceSize).length ≤ 1 := by
  have hall : (atBoundary lines sinceSize).map CheckpointLine.mmrSize =
      List.replicate (atBoundary lines sinceSize).length sinceSize := by
    rw [List.eq_replicate_iff, List.length_map]
    refine ⟨rfl, ?_⟩
    intro size hsize
    obtain ⟨line, hline, rfl⟩ := List.mem_map.mp hsize
    simpa using (List.mem_filter.mp hline).2
  rw [hall] at h
  exact List.nodup_replicate.mp h

/-- The boundary's one line and the walked ones form a chain. -/
theorem isChain_boundary {lines : List CheckpointLine} {sinceSize : Int}
    (hone : (atBoundary lines sinceSize).length ≤ 1)
    (hsign : 0 ≤ sinceSize ∨ atBoundary lines sinceSize = [])
    (hchain : ((boundaryOf lines sinceSize).toList ++ inRange lines sinceSize).IsChain Extends)
    (hgenesis : boundaryOf lines sinceSize = none → ∀ cp ∈ (inRange lines sinceSize).head?,
      cp.prevSize = 0) :
    (atBoundary lines sinceSize ++ inRange lines sinceSize).IsChain Extends := by
  cases hat : atBoundary lines sinceSize with
  | nil =>
      have hnone : boundaryOf lines sinceSize = none := by simp [boundaryOf, hat]
      rw [hnone] at hchain
      simpa using hchain
  | cons b bs =>
      obtain rfl : bs = [] := by
        rw [hat, List.length_cons] at hone
        exact List.length_eq_zero_iff.mp (by omega)
      have hsize : b.mmrSize = sinceSize := by
        have hb : b ∈ atBoundary lines sinceSize := by rw [hat]; simp
        simpa using (List.mem_filter.mp hb).2
      have hnonneg : 0 ≤ sinceSize := hsign.resolve_right (by rw [hat]; simp)
      by_cases hpos : 0 < sinceSize
      · simpa [boundaryOf, hat, hpos] using hchain
      · -- from genesis on: the first walked line follows size zero
        have hnone : boundaryOf lines sinceSize = none := by simp [boundaryOf, hpos]
        rw [hnone] at hchain
        refine List.isChain_cons.mpr ⟨?_, by simpa using hchain⟩
        intro cp hcp
        have hin : cp ∈ inRange lines sinceSize := List.mem_of_mem_head? hcp
        have hgt : sinceSize < cp.mmrSize := by simpa using (List.mem_filter.mp hin).2
        exact ⟨by rw [hgenesis hnone cp hcp]; omega, by omega⟩

/-- A chain of the boundary's lines and the walked ones in some order has one
boundary line at most, and none below zero. -/
theorem single_boundary_of_chain {lines chain : List CheckpointLine} {sinceSize : Int}
    (hne : inRange lines sinceSize ≠ [])
    (hperm : chain.Perm (atBoundary lines sinceSize ++ inRange lines sinceSize))
    (hchain : chain.IsChain Extends)
    (hwalked : ((boundaryOf lines sinceSize).toList ++ inRange lines sinceSize).IsChain Extends)
    (hgenesis : boundaryOf lines sinceSize = none → ∀ cp ∈ (inRange lines sinceSize).head?,
      cp.prevSize = 0) :
    (atBoundary lines sinceSize).length ≤ 1 ∧
      (0 ≤ sinceSize ∨ atBoundary lines sinceSize = []) := by
  have hsorted := isChain_extends_pairwise hchain
  have hnodup : (chain.map CheckpointLine.mmrSize).Nodup :=
    (List.pairwise_map.mpr hsorted).imp fun h => ne_of_lt h
  have hone : (atBoundary lines sinceSize).length ≤ 1 := by
    have hmap := (hperm.map CheckpointLine.mmrSize).nodup_iff.mp hnodup
    rw [List.map_append] at hmap
    exact length_atBoundary_le_one (List.nodup_append.mp hmap).1
  refine ⟨hone, ?_⟩
  by_contra hneg
  rw [not_or, not_le] at hneg
  obtain ⟨hneg, hsome⟩ := hneg
  obtain ⟨b, bs, hat⟩ := List.exists_cons_of_ne_nil hsome
  obtain rfl : bs = [] := by
    rw [hat, List.length_cons] at hone
    exact List.length_eq_zero_iff.mp (by omega)
  obtain ⟨cp, rest, hin⟩ := List.exists_cons_of_ne_nil hne
  have hb : b.mmrSize = sinceSize := by
    have hmem : b ∈ atBoundary lines sinceSize := by rw [hat]; simp
    simpa using (List.mem_filter.mp hmem).2
  have hnone : boundaryOf lines sinceSize = none := by simp [boundaryOf, not_lt_of_gt hneg]
  rw [hnone] at hwalked
  -- in increasing order the negative boundary comes first, right before the first walked line
  have hordered : (b :: inRange lines sinceSize).Pairwise fun a c => a.mmrSize < c.mmrSize := by
    refine List.pairwise_cons.mpr ⟨?_, isChain_extends_pairwise (by simpa using hwalked)⟩
    intro c hc
    have hgt : sinceSize < c.mmrSize := by simpa using (List.mem_filter.mp hc).2
    omega
  rw [hat] at hperm
  have hasymm : ∀ a c : CheckpointLine, a ∈ chain → c ∈ b :: inRange lines sinceSize →
      a.mmrSize < c.mmrSize → c.mmrSize < a.mmrSize → a = c := by
    intro a c _ _ h h'
    omega
  have heq : chain = b :: inRange lines sinceSize :=
    List.Perm.eq_of_pairwise hasymm hsorted hordered hperm
  rw [heq, hin] at hchain
  have hprev : cp.prevSize = b.mmrSize := (List.isChain_cons_cons.mp hchain).1.1
  have hzero : cp.prevSize = 0 := hgenesis hnone cp (by rw [hin]; simp)
  omega

theorem oneChain_of_isChain {chain range : List CheckpointLine} (hperm : chain.Perm range)
    (hchain : chain.IsChain Extends) : OneChain range := by
  refine ⟨?_, chain, hperm, hchain⟩
  have hnodup : (chain.map CheckpointLine.mmrSize).Nodup :=
    (List.pairwise_map.mpr (isChain_extends_pairwise hchain)).imp fun h => ne_of_lt h
  intro a ha b hb hsize
  have hab : a = b := List.inj_on_of_nodup_map hnodup (hperm.mem_iff.mpr ha)
    (hperm.mem_iff.mpr hb) hsize
  rw [hab]

/-- An unbroken card's range is one chain exactly when the boundary size names at
most one line. -/
theorem oneChain_iff_single_boundary {lib : Library} {nodeId logId : Json}
    {lines : List CheckpointLine} {sinceSize : Int} {card : HistoryCard}
    (hcard : buildHistoryCard lib nodeId logId lines sinceSize = .ok card)
    (hunbroken : card.properties.continuity = "unbroken" ∧ card.properties.unforked = true) :
    ∃ latest, (inRange lines sinceSize).getLast? = some latest ∧
      (OneChain (closedRange lines sinceSize latest.mmrSize) ↔
        (atBoundary lines sinceSize).length ≤ 1 ∧
          (0 ≤ sinceSize ∨ atBoundary lines sinceSize = [])) := by
  obtain ⟨hne, -, hchain, hgenesis⟩ := unbroken_inv hcard hunbroken.1
  refine ⟨(inRange lines sinceSize).getLast hne, List.getLast?_eq_some_getLast hne, ?_⟩
  have hwalked : (inRange lines sinceSize).Pairwise fun a b => a.mmrSize < b.mmrSize :=
    isChain_extends_pairwise hchain.right_of_append
  have hlatest : ∀ line ∈ inRange lines sinceSize,
      line.mmrSize ≤ ((inRange lines sinceSize).getLast hne).mmrSize := by
    intro line hline
    have hsplit := List.dropLast_append_getLast hne
    rw [← hsplit] at hline hwalked
    rcases List.mem_append.mp hline with hline | hline
    · exact le_of_lt ((List.pairwise_append.mp hwalked).2.2 line hline _ (by simp))
    · exact le_of_eq (congrArg _ (List.mem_singleton.mp hline))
  have hle : sinceSize ≤ ((inRange lines sinceSize).getLast hne).mmrSize := by
    have hlast := (List.mem_filter.mp (List.getLast_mem hne)).2
    exact le_of_lt (by simpa using hlast)
  have hperm := closedRange_perm hle hlatest
  constructor
  · rintro ⟨-, chain, hchainPerm, hchain'⟩
    exact single_boundary_of_chain hne (hchainPerm.trans hperm) hchain' hchain hgenesis
  · rintro ⟨hone, hsign⟩
    exact oneChain_of_isChain hperm.symm (isChain_boundary hone hsign hchain hgenesis)

/-! ## Concrete chains -/

/-- A library that reads every statement as the one of `size`, signed by `key` over
the predecessor of size `prevSize`. -/
def plainLibrary (decoded : DecodedCheckpoint) : Library where
  verifyCheckpointCoseOffline := fun _ => .ok decoded
  entryDigest := CheckpointLine.root
  definitionDigest := "definition"
  verifyAccount := fun _ _ _ => true
  cadenceStats := fun _ => .ok ⟨"60", "60", "60", "60"⟩

def plainLine (mmrSize prevSize : Int) (root : String) (checkpointCose : Option String) :
    CheckpointLine where
  mmrSize := mmrSize
  root := root
  prevSize := prevSize
  prevRoot := ""
  timestamp := "2026-09-07T00:00:00Z"
  logId := "log"
  keyId := some "key"
  witnesses := []
  checkpointCose := checkpointCose

/-- A statement for each of two checkpoints over a boundary of size 1. -/
def extendedLibrary : Library :=
  { plainLibrary ⟨3, "r3", 1, "r1", "key"⟩ with
    verifyCheckpointCoseOffline := fun bytes =>
      .ok (if bytes = [0] then ⟨3, "r3", 1, "r1", "key"⟩ else ⟨4, "r4", 3, "r3", "key"⟩) }

def extendedLines : List CheckpointLine :=
  [plainLine 1 0 "r1" none, plainLine 3 1 "r3" (some "00"), plainLine 4 3 "r4" (some "01")]

/-- A log with its genesis checkpoint at the boundary and two that extend it. -/
theorem oneChain_iff_single_boundary_genesis : OneChain (closedRange extendedLines 1 4) := by
  obtain ⟨card, hcard, hunbroken⟩ : ∃ card,
      buildHistoryCard extendedLibrary (.str "node:key") (.str "log") extendedLines 1 = .ok card ∧
      card.properties.continuity = "unbroken" ∧ card.properties.unforked = true :=
    ⟨_, rfl, rfl, rfl⟩
  obtain ⟨latest, hlatest, hiff⟩ := oneChain_iff_single_boundary hcard hunbroken
  obtain rfl := Option.some.inj hlatest
  exact hiff.mpr (by decide)

/-- Two lines at the boundary size with different roots, and a third that extends
the first of them. -/
theorem boundary_fork_unreported :
    ∃ card, buildHistoryCard (plainLibrary ⟨3, "r3", 1, "r1", "key"⟩) (.str "node:key")
        (.str "log")
        [plainLine 1 0 "r1" none, plainLine 1 0 "forked" none, plainLine 3 1 "r3" (some "00")] 1 =
        .ok card ∧
      card.properties.continuity = "unbroken" ∧ card.properties.unforked = true ∧
      ¬ OneChain (closedRange [plainLine 1 0 "r1" none, plainLine 1 0 "forked" none,
        plainLine 3 1 "r3" (some "00")] 1 3) := by
  refine ⟨_, rfl, rfl, rfl, ?_⟩
  rintro ⟨hroots, -⟩
  exact absurd (hroots (plainLine 1 0 "r1" none) (by decide) (plainLine 1 0 "forked" none)
    (by decide) rfl) (by decide)

end CapsuleMesh.History
