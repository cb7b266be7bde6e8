import CapsuleMesh.Library.Eviction
import Mathlib.Data.List.Sort
import Mathlib.Data.List.Nodup

/-!
# Retention of disclosures

`prune_disclosures` of `capsule_sidecar.py`.  Times are compared only; `elapsed` is the clock
reading minus a file's modification time.
-/

namespace CapsuleMesh.Sidecar

open Library

/-- A file of the disclosures directory; `stats` and `unlinks` say whether these calls go through
on it. -/
structure DisclosureFile (T : Type) where
  name : String
  mtime : T
  size : ℕ
  stats : Bool
  unlinks : Bool
  deriving DecidableEq

/-- The files that `glob("*.json")` lists, each with a name of its own. -/
structure Directory (T : Type) where
  files : List (DisclosureFile T)
  nodup : (files.map DisclosureFile.name).Nodup

inductive PurgeReason
  | ttl
  | maxBytes
  deriving DecidableEq

/-- `PurePath.stem` of a file name. -/
def stem (name : String) : String :=
  let back := name.toList.reverse
  match back.dropWhile (· ≠ '.') with
  | '.' :: front =>
      if front.isEmpty || (back.takeWhile (· ≠ '.')).isEmpty then name
      else String.ofList front.reverse
  | _ => name

section

variable {T A : Type} [LinearOrder T] [LinearOrder A] (elapsed : T → A) (ttlSeconds : Option A)
  (maxBytes : Option Int)

def Expired (f : DisclosureFile T) : Prop := ∃ ttl ∈ ttlSeconds, ttl ≤ elapsed f.mtime

instance (f : DisclosureFile T) : Decidable (Expired elapsed ttlSeconds f) :=
  match ttlSeconds with
  | none => .isFalse fun h => nomatch h
  | some ttl => decidable_of_iff (ttl ≤ elapsed f.mtime)
      ⟨fun h => ⟨ttl, rfl, h⟩, fun ⟨_, hmem, h⟩ => Option.some.inj hmem ▸ h⟩

/-- The files that `stat` reads, the oldest first. -/
def Directory.entries (dir : Directory T) : List (DisclosureFile T) :=
  (dir.files.filter DisclosureFile.stats).insertionSort fun f g => f.mtime ≤ g.mtime

def Directory.kept (dir : Directory T) : List (DisclosureFile T) :=
  dir.entries.filter fun f => ¬ Expired elapsed ttlSeconds f

/-- What the second pass adds to the removals. -/
def Directory.oversize (dir : Directory T) : List (DisclosureFile T) :=
  match maxBytes with
  | none => []
  | some maxBytes =>
      evicted DisclosureFile.size maxBytes
        (totalSize DisclosureFile.size (dir.kept elapsed ttlSeconds)) (dir.kept elapsed ttlSeconds)

def Directory.removed (dir : Directory T) : List (DisclosureFile T × PurgeReason) :=
  (dir.entries.filter (Expired elapsed ttlSeconds ·)).map (·, .ttl) ++
    (dir.oversize elapsed ttlSeconds maxBytes).map (·, .maxBytes)

/-- The directory after a pass that unlinks the given files. -/
def Directory.unlinkAll (dir : Directory T) (names : List String) : Directory T where
  files := dir.files.filter fun f => ¬ (f.name ∈ names ∧ f.unlinks)
  nodup := dir.nodup.sublist (List.filter_sublist.map _)

/-- The reported ids, the lines of the purge log and the directory afterwards; `logOpens` says
whether the log can be written. -/
def pruneDisclosures (logOpens : Bool) (dir : Directory T) :
    List String × List (String × PurgeReason) × Directory T :=
  let removed := dir.removed elapsed ttlSeconds maxBytes
  (removed.map (stem ·.1.name),
    if logOpens then removed.map fun r => (stem r.1.name, r.2) else [],
    dir.unlinkAll (removed.map (·.1.name)))

end

section

variable {T A : Type} [LinearOrder T] [LinearOrder A] {elapsed : T → A} {ttlSeconds : Option A}
  {maxBytes : Option Int} {dir : Directory T}

instance mtime_total : Std.Total fun f g : DisclosureFile T => f.mtime ≤ g.mtime :=
  ⟨fun f g => le_total f.mtime g.mtime⟩

instance mtime_trans : IsTrans (DisclosureFile T) fun f g => f.mtime ≤ g.mtime :=
  ⟨fun _ _ _ => le_trans⟩

/-- The kept files in front of which the oversize ones stood. -/
theorem exists_remaining (elapsed : T → A) (ttlSeconds : Option A) (maxBytes : Option Int)
    (dir : Directory T) : ∃ remaining, dir.kept elapsed ttlSeconds =
      dir.oversize elapsed ttlSeconds maxBytes ++ remaining := by
  cases maxBytes with
  | none => exact ⟨_, rfl⟩
  | some budget =>
      obtain ⟨remaining, h⟩ := evicted_prefix DisclosureFile.size budget
        (totalSize DisclosureFile.size (dir.kept elapsed ttlSeconds)) (dir.kept elapsed ttlSeconds)
      exact ⟨remaining, h.symm⟩

variable (elapsed ttlSeconds) in
/-- The files are the expired ones and the kept ones. -/
theorem files_perm (hstats : ∀ f ∈ dir.files, f.stats = true) :
    dir.files.Perm (dir.entries.filter (Expired elapsed ttlSeconds ·) ++
      dir.kept elapsed ttlSeconds) := by
  have hall : dir.files.filter DisclosureFile.stats = dir.files := List.filter_eq_self.mpr hstats
  have hsort : dir.entries.Perm dir.files := by
    rw [Directory.entries, hall]
    exact List.perm_insertionSort _ _
  have hsplit := List.filter_append_perm (Expired elapsed ttlSeconds ·) dir.entries
  rw [Directory.kept]
  simp only [decide_not]
  exact hsort.symm.trans hsplit.symm

theorem names_removed : (dir.removed elapsed ttlSeconds maxBytes).map (·.1.name) =
    (dir.entries.filter (Expired elapsed ttlSeconds ·) ++
      dir.oversize elapsed ttlSeconds maxBytes).map DisclosureFile.name := by
  rw [Directory.removed, List.map_append, List.map_append, List.map_map, List.map_map]
  rfl

/-- Where every file can be read and removed, the files afterwards are what is left of the kept
ones. -/
theorem files_after {remaining : List (DisclosureFile T)}
    (hstats : ∀ f ∈ dir.files, f.stats = true) (hunlinks : ∀ f ∈ dir.files, f.unlinks = true)
    (hremaining : dir.kept elapsed ttlSeconds =
      dir.oversize elapsed ttlSeconds maxBytes ++ remaining) :
    (dir.unlinkAll ((dir.removed elapsed ttlSeconds maxBytes).map (·.1.name))).files.Perm
      remaining := by
  have hperm := files_perm elapsed ttlSeconds hstats
  rw [hremaining, ← List.append_assoc] at hperm
  have hnodup := (hperm.map DisclosureFile.name).nodup_iff.mp dir.nodup
  rw [List.map_append, List.nodup_append] at hnodup
  rw [names_removed]
  generalize dir.entries.filter (Expired elapsed ttlSeconds ·) ++
    dir.oversize elapsed ttlSeconds maxBytes = removed at *
  have hfilter := hperm.filter fun f => ¬ (f.name ∈ removed.map DisclosureFile.name ∧ f.unlinks)
  refine hfilter.trans (List.Perm.of_eq ?_)
  have hgone : removed.filter
      (fun f => ¬ (f.name ∈ removed.map DisclosureFile.name ∧ f.unlinks)) = [] := by
    rw [List.filter_eq_nil_iff]
    intro f hf
    have hfile : f ∈ dir.files := hperm.mem_iff.mpr (List.mem_append_left _ hf)
    simpa [hunlinks f hfile] using ⟨f, hf, rfl⟩
  have hstay : remaining.filter
      (fun f => ¬ (f.name ∈ removed.map DisclosureFile.name ∧ f.unlinks)) = remaining := by
    rw [List.filter_eq_self]
    intro f hf
    rw [decide_eq_true_eq]
    rintro ⟨hname, -⟩
    exact hnodup.2.2 _ hname _ (List.mem_map_of_mem hf) rfl
  rw [List.filter_append, hgone, hstay]
  rfl

variable (dir elapsed ttlSeconds) in
theorem pairwise_kept : (dir.kept elapsed ttlSeconds).Pairwise fun f g => f.mtime ≤ g.mtime :=
  (List.pairwise_insertionSort _ _).filter _

theorem not_expired_of_kept {f : DisclosureFile T} (hf : f ∈ dir.kept elapsed ttlSeconds) :
    ¬ Expired elapsed ttlSeconds f :=
  of_decide_eq_true (List.mem_filter.mp hf).2

/-- Files that can be read and removed, and a bound that is not negative: afterwards every file is
younger than the time to live, all fit under the bound, and the files that went for their size were
the oldest that had not expired, none of them too many; no file is reported twice. -/
theorem pruneDisclosures_spec (elapsed : T → A) (ttlSeconds : Option A) (maxBytes : Option Int)
    (logOpens : Bool) (dir : Directory T) (hstats : ∀ f ∈ dir.files, f.stats = true)
    (hunlinks : ∀ f ∈ dir.files, f.unlinks = true) (hbound : ∀ bound ∈ maxBytes, 0 ≤ bound) :
    let after := (pruneDisclosures elapsed ttlSeconds maxBytes logOpens dir).2.2
    let oversize := dir.oversize elapsed ttlSeconds maxBytes
    (∀ f ∈ after.files, ∀ ttl ∈ ttlSeconds, elapsed f.mtime < ttl) ∧
    (∀ bound ∈ maxBytes, totalSize DisclosureFile.size after.files ≤ bound) ∧
    (∀ f ∈ oversize, ¬ Expired elapsed ttlSeconds f ∧ ∀ g ∈ after.files, f.mtime ≤ g.mtime) ∧
    (∀ bound ∈ maxBytes, ∀ p q, oversize = p ++ q → q ≠ [] →
      bound < totalSize DisclosureFile.size after.files + totalSize DisclosureFile.size q) ∧
    ((dir.removed elapsed ttlSeconds maxBytes).map (·.1.name)).Nodup ∧
    (pruneDisclosures elapsed ttlSeconds maxBytes logOpens dir).1 =
      (dir.removed elapsed ttlSeconds maxBytes).map (stem ·.1.name) := by
  intro after oversize
  obtain ⟨remaining, hremaining⟩ := exists_remaining elapsed ttlSeconds maxBytes dir
  have hafter : after.files.Perm remaining := files_after hstats hunlinks hremaining
  have htotal : totalSize DisclosureFile.size after.files =
      totalSize DisclosureFile.size remaining := totalSize_perm _ hafter
  have hkept : ∀ f ∈ remaining, f ∈ dir.kept elapsed ttlSeconds := by
    intro f hf
    rw [hremaining]
    exact List.mem_append_right _ hf
  refine ⟨?_, ?_, ?_, ?_, ?_, rfl⟩
  · intro f hf ttl httl
    have hfresh := not_expired_of_kept (hkept f (hafter.mem_iff.mp hf))
    exact not_le.mp fun hle => hfresh ⟨ttl, httl, hle⟩
  · intro bound hmem
    cases hmem
    rw [htotal]
    exact totalSize_le_budget _ _ (hbound bound rfl) rfl hremaining
  · intro f hf
    have hold : f ∈ dir.kept elapsed ttlSeconds := by
      rw [hremaining]
      exact List.mem_append_left _ hf
    have hpairwise := pairwise_kept elapsed ttlSeconds dir
    rw [hremaining] at hpairwise
    refine ⟨not_expired_of_kept hold, fun g hg => ?_⟩
    exact (List.pairwise_append.mp hpairwise).2.2 f hf g (hafter.mem_iff.mp hg)
  · intro bound hmem p q hpq hq
    cases hmem
    have hlt := budget_lt_of_evicted _ _ hpq hq
    rw [hremaining, show dir.oversize elapsed ttlSeconds (some bound) = p ++ q from hpq,
      totalSize_append, totalSize_append] at hlt
    push_cast at hlt
    omega
  · rw [names_removed]
    have hperm := files_perm elapsed ttlSeconds hstats
    rw [hremaining, ← List.append_assoc] at hperm
    have hnodup := (hperm.map DisclosureFile.name).nodup_iff.mp dir.nodup
    rw [List.map_append] at hnodup
    exact hnodup.of_append_left

end

/-! ### A directory of three files -/

def ageAt100 (mtime : Int) : Int := 100 - mtime

def threeFiles : Directory Int where
  files := [⟨"c.json", 80, 5, true, true⟩, ⟨"a.json", 0, 7, true, true⟩,
    ⟨"b.json", 80, 6, true, true⟩]
  nodup := by decide

theorem threeFiles_spec :
    let after := (pruneDisclosures ageAt100 (some 50) (some 8) true threeFiles).2.2
    let oversize := threeFiles.oversize ageAt100 (some 50) (some 8)
    (∀ f ∈ after.files, ∀ ttl ∈ some (50 : Int), ageAt100 f.mtime < ttl) ∧
    (∀ bound ∈ some (8 : Int), totalSize DisclosureFile.size after.files ≤ bound) ∧
    (∀ f ∈ oversize, ¬ Expired ageAt100 (some 50) f ∧ ∀ g ∈ after.files, f.mtime ≤ g.mtime) ∧
    (∀ bound ∈ some (8 : Int), ∀ p q, oversize = p ++ q → q ≠ [] →
      bound < totalSize DisclosureFile.size after.files + totalSize DisclosureFile.size q) ∧
    ((threeFiles.removed ageAt100 (some 50) (some 8)).map (·.1.name)).Nodup ∧
    (pruneDisclosures ageAt100 (some 50) (some 8) true threeFiles).1 =
      (threeFiles.removed ageAt100 (some 50) (some 8)).map (stem ·.1.name) :=
  pruneDisclosures_spec ageAt100 (some 50) (some 8) true threeFiles (by decide) (by decide)
    (by decide)

/-- A file that cannot be removed stays although it has expired, and no directory fits under a
negative bound. -/
theorem locked_file_stays :
    (∃ dir : Directory Int, ∃ f ∈ (pruneDisclosures ageAt100 (some 50) none true dir).2.2.files,
      50 ≤ ageAt100 f.mtime) ∧
    ∃ dir : Directory Int, ¬ (totalSize DisclosureFile.size
      (pruneDisclosures ageAt100 none (some (-1)) true dir).2.2.files : Int) ≤ -1 := by
  constructor
  · refine ⟨⟨[⟨"a.json", 0, 7, true, false⟩], by decide⟩, ⟨"a.json", 0, 7, true, false⟩, ?_, ?_⟩
    · decide
    · decide
  · exact ⟨⟨[], by decide⟩, by decide⟩

end CapsuleMesh.Sidecar
