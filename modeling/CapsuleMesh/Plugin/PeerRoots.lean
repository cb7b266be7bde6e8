import Mathlib
import CapsuleMesh.Library.FirstSeen
import CapsuleMesh.Python.Canonical

/-!
# Checkpoint heads of peers

`peer_root_ledger.rs`.  The ledger keeps the first head that it is shown for a peer, a log
and a size, and seals a fork for every later head with another root.  It looks neither at
signatures nor at the forks it has sealed, and its key is one text for the three.
-/

namespace CapsuleMesh.Plugin

open Python Library

/-! ## Heads and forks -/

structure CheckpointHead where
  logId : String
  mmrSize : UInt64
  root : String
  timestampUnixMs : UInt64
  signature : String
deriving DecidableEq

/-- The `hex` crate, which reads back what it writes and reads nothing but digits. -/
structure HexCrate where
  encode : Bytes → String
  decode : String → Option Bytes
  decode_encode : ∀ bytes, decode (encode bytes) = some bytes
  digits : ∀ {text bytes}, decode text = some bytes → ∀ c ∈ text.toList, (hexDigit? c).isSome = true

/-- `ed25519_dalek`, `hex` and the crate's canonical JSON. -/
structure HeadCrypto where
  hex : HexCrate
  VerifyingKey : Type
  fromBytes : Bytes → Option VerifyingKey
  verify : VerifyingKey → (message signature : Bytes) → Bool
  jcs : Json → Option Bytes

/-- `try_into` a fixed-size array. -/
def sized (n : ℕ) (bytes : Bytes) : Option Bytes :=
  if bytes.length = n then some bytes else none

namespace CheckpointHead

def signingBytes (crypto : HeadCrypto) (head : CheckpointHead) : Option Bytes :=
  crypto.jcs (.obj
    [("log_id", .str head.logId), ("mmr_size", .int head.mmrSize.toNat), ("root", .str head.root),
     ("timestamp_unix_ms", .int head.timestampUnixMs.toNat)])

def verify (crypto : HeadCrypto) (head : CheckpointHead) (peerIdHex : String) : Bool :=
  (do
    let pkArr ← sized 32 (← crypto.hex.decode peerIdHex)
    let verifyingKey ← crypto.fromBytes pkArr
    let sigArr ← sized 64 (← crypto.hex.decode head.signature)
    let message ← head.signingBytes crypto
    return crypto.verify verifyingKey message sigArr).getD false

end CheckpointHead

structure ForkObserved where
  peerId : String
  logId : String
  mmrSize : UInt64
  headA : CheckpointHead
  sourceA : String
  headB : CheckpointHead
  sourceB : String
deriving DecidableEq

def ForkObserved.verifiesOffline (crypto : HeadCrypto) (fork : ForkObserved) : Bool :=
  fork.headA.logId == fork.logId && fork.headB.logId == fork.logId &&
    fork.headA.mmrSize == fork.mmrSize && fork.headB.mmrSize == fork.mmrSize &&
    fork.headA.root != fork.headB.root &&
    fork.headA.verify crypto fork.peerId && fork.headB.verify crypto fork.peerId

/-! ## The ledger -/

structure ObservedEntry where
  head : CheckpointHead
  source : String

structure PersistedState where
  observed : Dict String ObservedEntry := ∅
  reconciledPeers : Finset String := ∅
  forks : List ForkObserved := []

inductive Observation where
  | new
  | unchanged
  | fork (fork : ForkObserved)

/-- The state in memory with `reconciliation_state.json` and `fork_observations.jsonl`. -/
structure PeerRootLedger where
  state : PersistedState
  published : Option PersistedState
  forkLog : List ForkObserved

/-- One call of `observe`, and whether its two writes succeed. -/
structure Sighting where
  peerId : String
  head : CheckpointHead
  source : String
  persists : Bool
  appends : Bool

namespace PeerRootLedger

/-- `open` on a directory with these two files. -/
def reopen (published : Option PersistedState) (forkLog : List ForkObserved) : PeerRootLedger where
  state := published.getD {}
  published := published
  forkLog := forkLog

def key (peerId logId : String) (mmrSize : UInt64) : String :=
  peerId ++ ":" ++ logId ++ ":" ++ mmrSize.toNat.repr

end PeerRootLedger

def Sighting.key (call : Sighting) : String :=
  PeerRootLedger.key call.peerId call.head.logId call.head.mmrSize

def Sighting.entry (call : Sighting) : ObservedEntry := ⟨call.head, call.source⟩

/-- The fork that a call seals against what is on file. -/
def Sighting.forkAgainst (existing : ObservedEntry) (call : Sighting) : ForkObserved where
  peerId := call.peerId
  logId := call.head.logId
  mmrSize := call.head.mmrSize
  headA := existing.head
  sourceA := existing.source
  headB := call.head
  sourceB := call.source

/-- What `observe` does in memory. -/
def PersistedState.see (s : PersistedState) (call : Sighting) : Observation × PersistedState :=
  let s := { s with reconciledPeers := insert call.peerId s.reconciledPeers }
  match s.observed.lookup call.key with
  | none => (.new, { s with observed := s.observed.insert call.key call.entry })
  | some existing =>
      if existing.head.root = call.head.root then (.unchanged, s)
      else
        let fork := call.forkAgainst existing
        (.fork fork, { s with forks := s.forks ++ [fork] })

namespace PeerRootLedger

def appendForkLog (ledger : PeerRootLedger) : Observation → PeerRootLedger
  | .fork fork => { ledger with forkLog := ledger.forkLog ++ [fork] }
  | _ => ledger

/-- `observe`; `none` is a write that fails. -/
def observe (ledger : PeerRootLedger) (call : Sighting) : Option Observation × PeerRootLedger :=
  let (outcome, state) := ledger.state.see call
  let ledger := { ledger with state := state }
  if !call.persists then (none, ledger)
  else
    let ledger := { ledger with published := some state }
    match outcome with
    | .fork _ =>
        if call.appends then (some outcome, ledger.appendForkLog outcome) else (none, ledger)
    | _ => (some outcome, ledger)

def run (calls : List Sighting) : PeerRootLedger :=
  calls.foldl (fun ledger call => (ledger.observe call).2) (reopen none [])

end PeerRootLedger

open PeerRootLedger

/-! ## What a run leaves -/

theorem observe_state (ledger : PeerRootLedger) (call : Sighting) :
    (ledger.observe call).2.state = (ledger.state.see call).2 := by
  unfold PeerRootLedger.observe
  cases call.persists with
  | false => rfl
  | true =>
      cases houtcome : (ledger.state.see call).1 with
      | new => simp [houtcome]
      | unchanged => simp [houtcome]
      | fork fork => cases call.appends <;> simp [houtcome, appendForkLog]

theorem observe_forkLog {ledger : PeerRootLedger} {call : Sighting} {fork : ForkObserved}
    (h : fork ∈ (ledger.observe call).2.forkLog) :
    fork ∈ ledger.forkLog ∨ (ledger.state.see call).1 = .fork fork := by
  unfold PeerRootLedger.observe at h
  cases hpersists : call.persists with
  | false => exact .inl (by simpa [hpersists] using h)
  | true =>
      cases houtcome : (ledger.state.see call).1 with
      | new => exact .inl (by simpa [hpersists, houtcome] using h)
      | unchanged => exact .inl (by simpa [hpersists, houtcome] using h)
      | fork sealed =>
        cases happends : call.appends with
        | false => exact .inl (by simpa [hpersists, houtcome, happends] using h)
        | true =>
          simp only [hpersists, houtcome, happends, appendForkLog] at h
          simpa [eq_comm] using h

/-- The state in memory, as a function of the calls. -/
structure Seen (calls : List Sighting) (s : PersistedState) : Prop where
  observed : ∀ k, s.observed.lookup k = (firstSeen Sighting.key calls k).map Sighting.entry
  forks : s.forks = (divergences Sighting.key (fun c => c.head.root) calls).map
    fun pair => pair.2.forkAgainst pair.1.entry
  peers : ∀ peer, peer ∈ s.reconciledPeers ↔ ∃ call ∈ calls, call.peerId = peer

theorem Seen.see {calls : List Sighting} {s : PersistedState} (h : Seen calls s)
    (call : Sighting) : Seen (calls ++ [call]) (s.see call).2 := by
  have hlookup := h.observed call.key
  have hpeers : ∀ peer, peer ∈ insert call.peerId s.reconciledPeers ↔
      ∃ c ∈ calls ++ [call], c.peerId = peer := by
    intro peer
    simp [h.peers, or_comm, eq_comm]
  unfold PersistedState.see
  cases hfirst : firstSeen Sighting.key calls call.key with
  | none =>
      rw [hfirst, Option.map_none] at hlookup
      simp only [hlookup]
      refine ⟨fun k => ?_, ?_, hpeers⟩
      · rw [firstSeen_concat]
        by_cases hk : call.key = k
        · rw [← hk, AList.lookup_insert, hfirst, if_pos rfl]
          rfl
        · rw [AList.lookup_insert_ne (Ne.symm hk), h.observed, if_neg hk, Option.or_none]
      · rw [divergences_concat, h.forks, divergesFrom, hfirst]
        simp
  | some first =>
      have hobserved : ∀ k, s.observed.lookup k =
          (firstSeen Sighting.key (calls ++ [call]) k).map Sighting.entry := by
        intro k
        rw [h.observed, firstSeen_concat]
        by_cases hk : call.key = k
        · rw [← hk, hfirst, Option.some_or]
        · rw [if_neg hk, Option.or_none]
      rw [hfirst, Option.map_some] at hlookup
      simp only [hlookup]
      split_ifs with hroot
      · refine ⟨hobserved, ?_, hpeers⟩
        have hsame : first.head.root = call.head.root := hroot
        rw [divergences_concat, h.forks, divergesFrom, hfirst]
        simp [Option.filter, hsame]
      · refine ⟨hobserved, ?_, hpeers⟩
        have hother : first.head.root ≠ call.head.root := hroot
        rw [divergences_concat, h.forks, divergesFrom, hfirst]
        simp [Option.filter, hother]

theorem run_concat (calls : List Sighting) (call : Sighting) :
    run (calls ++ [call]) = ((run calls).observe call).2 := by
  simp [run]

theorem seen_run (calls : List Sighting) : Seen calls (run calls).state := by
  induction calls using List.reverseRecOn with
  | nil => exact ⟨fun k => rfl, rfl, fun peer => by simp [run, reopen]⟩
  | append_singleton calls call ih =>
      rw [run_concat, observe_state]
      exact ih.see call

theorem mem_forks_run {calls : List Sighting} {fork : ForkObserved} :
    fork ∈ (run calls).state.forks ↔
      ∃ call ∈ calls, ∃ first, firstSeen Sighting.key calls call.key = some first ∧
        first.head.root ≠ call.head.root ∧ fork = call.forkAgainst first.entry := by
  rw [(seen_run calls).forks, List.mem_map]
  constructor
  · rintro ⟨⟨first, call⟩, hpair, rfl⟩
    obtain ⟨hcall, hfirst, hroot⟩ := mem_divergences.mp hpair
    exact ⟨call, hcall, first, hfirst, hroot, rfl⟩
  · rintro ⟨call, hcall, first, hfirst, hroot, rfl⟩
    exact ⟨(first, call), mem_divergences.mpr ⟨hcall, hfirst, hroot⟩, rfl⟩

theorem see_forks {s : PersistedState} {call : Sighting} {fork : ForkObserved}
    (h : fork ∈ s.forks ∨ (s.see call).1 = .fork fork) : fork ∈ (s.see call).2.forks := by
  unfold PersistedState.see at h ⊢
  dsimp only at h ⊢
  split
  · rename_i hlookup
    simpa [hlookup] using h
  · rename_i existing hlookup
    split_ifs with hroot
    · simpa [hlookup, hroot] using h
    · simpa [hlookup, hroot, eq_comm] using h

/-- The log holds nothing that is not held in memory. -/
theorem forkLog_subset_forks (calls : List Sighting) :
    ∀ fork ∈ (run calls).forkLog, fork ∈ (run calls).state.forks := by
  induction calls using List.reverseRecOn with
  | nil => simp [run, reopen]
  | append_singleton calls call ih =>
      intro fork hfork
      rw [run_concat] at hfork ⊢
      rw [observe_state]
      exact see_forks ((observe_forkLog hfork).imp (ih fork) id)

/-! ## Counting forks -/

/-- The peer, the log and the size. -/
def Sighting.place (call : Sighting) : String × String × UInt64 :=
  (call.peerId, call.head.logId, call.head.mmrSize)

def ForkObserved.place (fork : ForkObserved) : String × String × UInt64 :=
  (fork.peerId, fork.logId, fork.mmrSize)

def forksAt (ledger : PeerRootLedger) (place : String × String × UInt64) : ℕ :=
  (ledger.state.forks.filter fun fork => fork.place = place).length

/-- The roots that the calls show for a place, in order. -/
def rootsAt (calls : List Sighting) (place : String × String × UInt64) : List String :=
  (calls.filter fun call => call.place = place).map fun call => call.head.root

/-- One fork for each further root of each place. -/
def ForksCounted (calls : List Sighting) : Prop :=
  ∀ place, forksAt (run calls) place = (rootsAt calls place).toFinset.card - 1

def textKey (place : String × String × UInt64) : String :=
  PeerRootLedger.key place.1 place.2.1 place.2.2

theorem Sighting.key_eq (call : Sighting) : call.key = textKey call.place := rfl

/-- A place has a fork for every call whose root is not the first one under its key. -/
theorem forksAt_run {calls : List Sighting} {place : String × String × UInt64} {first : Sighting}
    (hfirst : firstSeen Sighting.key calls (textKey place) = some first) :
    forksAt (run calls) place = ((rootsAt calls place).filter (· ≠ first.head.root)).length := by
  rw [forksAt, rootsAt, (seen_run calls).forks, ← List.countP_eq_length_filter,
    ← List.countP_eq_length_filter, List.countP_map, List.countP_map, divergences,
    List.countP_filterMap, List.countP_filter]
  refine List.countP_congr fun call _ => ?_
  by_cases hplace : call.place = place
  · have hkey : firstSeen Sighting.key calls call.key = some first := by
      rw [Sighting.key_eq, hplace, hfirst]
    by_cases hroot : first.head.root = call.head.root
    · simp [divergesFrom, hkey, Option.filter, hroot]
    · have hfork : (call.forkAgainst first.entry).place = place := hplace
      simp [divergesFrom, hkey, Option.filter, hroot, hfork, hplace, Ne.symm hroot]
  · have hfork : ∀ existing, (call.forkAgainst existing).place ≠ place := fun _ => hplace
    cases hdiverges : divergesFrom Sighting.key (fun c => c.head.root) calls call with
    | none => simp [hplace]
    | some other => simp [hplace, hfork]

theorem mem_rootsAt {calls : List Sighting} {place : String × String × UInt64} {root : String} :
    root ∈ rootsAt calls place ↔ ∃ call ∈ calls, call.place = place ∧ call.head.root = root := by
  simp [rootsAt, and_assoc]

theorem forksAt_unseen {calls : List Sighting} {place : String × String × UInt64}
    (h : rootsAt calls place = []) : forksAt (run calls) place = 0 := by
  rw [forksAt, List.length_eq_zero_iff, List.filter_eq_nil_iff]
  intro fork hfork hplace
  obtain ⟨call, hcall, first, -, -, rfl⟩ := mem_forks_run.mp hfork
  have hroot : call.head.root ∈ rootsAt calls place :=
    mem_rootsAt.mpr ⟨call, hcall, of_decide_eq_true hplace, rfl⟩
  rw [h] at hroot
  cases hroot

/-- The root on file under a call's key is one of its own place, and no other root of that
place comes twice. -/
def FurtherRootsOnce (calls : List Sighting) : Prop :=
  ∀ call ∈ calls, ∀ first, firstSeen Sighting.key calls call.key = some first →
    first.head.root ∈ rootsAt calls call.place ∧
      (call.head.root ≠ first.head.root → (rootsAt calls call.place).count call.head.root = 1)

theorem forksCounted_iff (calls : List Sighting) : ForksCounted calls ↔ FurtherRootsOnce calls := by
  constructor
  · intro h call hcall first hfirst
    have hmem : call.head.root ∈ rootsAt calls call.place :=
      mem_rootsAt.mpr ⟨call, hcall, rfl, rfl⟩
    rw [Sighting.key_eq] at hfirst
    have hcount := h call.place
    rw [forksAt_run hfirst, length_filter_ne_eq_iff] at hcount
    obtain hempty | ⟨hroot, honce⟩ := hcount
    · rw [hempty] at hmem
      cases hmem
    · exact ⟨hroot, honce _ hmem⟩
  · intro h place
    by_cases hempty : rootsAt calls place = []
    · rw [forksAt_unseen hempty, hempty]
      rfl
    · obtain ⟨root, hroot⟩ := List.exists_mem_of_ne_nil _ hempty
      obtain ⟨call, hcall, rfl, -⟩ := mem_rootsAt.mp hroot
      obtain ⟨first, hfirst⟩ := exists_firstSeen Sighting.key hcall
      rw [forksAt_run (by rw [← Sighting.key_eq, hfirst]), length_filter_ne_eq_iff]
      refine .inr ⟨(h call hcall first hfirst).1, fun v hv hne => ?_⟩
      obtain ⟨other, hother, hplace, rfl⟩ := mem_rootsAt.mp hv
      have hkey : other.key = call.key := by
        rw [Sighting.key_eq, hplace, Sighting.key_eq]
      have hother' := h other hother first
      rw [hkey, hplace] at hother'
      exact (hother' hfirst).2 hne

theorem rootsAt_perm {order calls : List Sighting} (h : order.Perm calls)
    (place : String × String × UInt64) : (rootsAt order place).Perm (rootsAt calls place) :=
  (h.filter _).map _

/-- In every order: any call of a key may come first. -/
theorem forksCounted_orders_iff (calls : List Sighting) :
    (∀ order, order.Perm calls → ForksCounted order) ↔
      ∀ call ∈ calls, ∀ other ∈ calls, other.key = call.key →
        other.head.root ∈ rootsAt calls call.place ∧
          (call.head.root ≠ other.head.root →
            (rootsAt calls call.place).count call.head.root = 1) := by
  constructor
  · intro h call hcall other hother hkey
    obtain ⟨before, after, rfl⟩ := List.append_of_mem hother
    have hperm : (other :: (before ++ after)).Perm (before ++ other :: after) :=
      List.perm_middle.symm
    have honce := (forksCounted_iff _).mp (h _ hperm) call (hperm.mem_iff.mpr hcall) other
      (by simp [firstSeen, hkey])
    rw [(rootsAt_perm hperm _).mem_iff, (rootsAt_perm hperm _).count_eq] at honce
    exact honce
  · intro h order hperm
    rw [forksCounted_iff]
    intro call hcall first hfirst
    obtain ⟨hmem, hkey⟩ := firstSeen_eq_some hfirst
    rw [(rootsAt_perm hperm _).mem_iff, (rootsAt_perm hperm _).count_eq]
    exact h call (hperm.mem_iff.mp hcall) first (hperm.mem_iff.mp hmem) hkey

/-- A call at a place that was seen leaves the state as it is exactly when its root is the
one on file. -/
theorem observe_again_iff {calls : List Sighting} {call first : Sighting}
    (hpeer : ∃ earlier ∈ calls, earlier.peerId = call.peerId)
    (hfirst : firstSeen Sighting.key calls call.key = some first) :
    ((run calls).observe call).2.state = (run calls).state ↔ first.head.root = call.head.root := by
  have hseen := seen_run calls
  have hlookup := hseen.observed call.key
  rw [hfirst, Option.map_some] at hlookup
  rw [observe_state, PersistedState.see]
  simp only [hlookup]
  split_ifs with hroot
  · have hpeers : insert call.peerId (run calls).state.reconciledPeers =
        (run calls).state.reconciledPeers :=
      Finset.insert_eq_of_mem ((hseen.peers _).mpr hpeer)
    rw [hpeers]
    exact iff_of_true rfl hroot
  · refine iff_of_false (fun h => ?_) hroot
    have hforks := congrArg (fun s => s.forks.length) h
    simp at hforks

/-- When the ledger counts one fork for each further root of a place: along one run, along
every order of its calls, and when a head that was seen changes nothing. -/
theorem forks_counted_iff (calls : List Sighting) :
    (ForksCounted calls ↔ FurtherRootsOnce calls) ∧
    ((∀ order, order.Perm calls → ForksCounted order) ↔
      ∀ call ∈ calls, ∀ other ∈ calls, other.key = call.key →
        other.head.root ∈ rootsAt calls call.place ∧
          (call.head.root ≠ other.head.root →
            (rootsAt calls call.place).count call.head.root = 1)) ∧
    ∀ call first, (∃ earlier ∈ calls, earlier.peerId = call.peerId ∧ earlier.head = call.head) →
      firstSeen Sighting.key calls call.key = some first →
      (((run calls).observe call).2.state = (run calls).state ↔
        first.head.root = call.head.root) := by
  refine ⟨forksCounted_iff calls, forksCounted_orders_iff calls, ?_⟩
  rintro call first ⟨earlier, hearlier, hpeer, -⟩ hfirst
  exact observe_again_iff ⟨earlier, hearlier, hpeer⟩ hfirst

def plainPeer : String := "1111111111111111111111111111111111111111111111111111111111111111"

/-- A head of a fixed place, unsigned. -/
def plainSighting (root : String) : Sighting where
  peerId := plainPeer
  head :=
    { logId := "log", mmrSize := 4, root := root, timestampUnixMs := 0, signature := "" }
  source := "gossip"
  persists := true
  appends := true

/-- Two roots, the second of them gossiped again: two forks, and one in another order. -/
theorem regossiped_root_counts_twice :
    let calls := [plainSighting "a", plainSighting "b", plainSighting "b"]
    (rootsAt calls (plainPeer, "log", 4)).toFinset.card = 2 ∧
      forksAt (run calls) (plainPeer, "log", 4) = 2 ∧
      forksAt (run [plainSighting "b", plainSighting "b", plainSighting "a"])
        (plainPeer, "log", 4) = 1 ∧
      ¬ForksCounted calls := by
  intro calls
  have hroots : (rootsAt calls (plainPeer, "log", 4)).toFinset.card = 2 := by decide
  have hforks : forksAt (run calls) (plainPeer, "log", 4) = 2 := by decide
  refine ⟨hroots, hforks, by decide, fun h => ?_⟩
  have hcount := h (plainPeer, "log", 4)
  rw [hroots, hforks] at hcount
  cases hcount

/-! ## Forks as evidence -/

theorem colon_notMem_of_verify {crypto : HeadCrypto} {head : CheckpointHead} {peerIdHex : String}
    (h : head.verify crypto peerIdHex = true) : ':' ∉ peerIdHex.toList := by
  unfold CheckpointHead.verify at h
  cases hdecode : crypto.hex.decode peerIdHex with
  | none => simp [hdecode] at h
  | some bytes =>
      intro hcolon
      exact absurd (crypto.hex.digits hdecode ':' hcolon) (by decide)

theorem colon_notMem_repr (n : ℕ) : ':' ∉ n.repr.toList := by
  intro h
  rw [Nat.toList_repr] at h
  exact absurd (Nat.isDigit_of_mem_toDigits (by decide) (by decide) h) (by decide)

/-- Keys of peers with hexadecimal ids do not collide. -/
theorem key_inj {peer peer' log log' : String} {size size' : UInt64} (hpeer : ':' ∉ peer.toList)
    (hpeer' : ':' ∉ peer'.toList)
    (h : PeerRootLedger.key peer log size = PeerRootLedger.key peer' log' size') :
    peer = peer' ∧ log = log' ∧ size = size' := by
  have hsplit : ∀ (p l : String) (n : UInt64), (PeerRootLedger.key p l n).toList =
      p.toList ++ ':' :: (l.toList ++ ':' :: n.toNat.repr.toList) := by
    intro p l n
    simp [PeerRootLedger.key]
  have hlist := congrArg String.toList h
  rw [hsplit, hsplit] at hlist
  obtain ⟨hp, hrest⟩ := append_sep_inj hpeer hpeer' hlist
  -- The size ends at the last colon, so it is split off from behind.
  have hreverse := congrArg List.reverse hrest
  simp only [List.reverse_append, List.reverse_cons, List.append_assoc, List.singleton_append]
    at hreverse
  obtain ⟨hn, hl⟩ := append_sep_inj (by simpa using colon_notMem_repr size.toNat)
    (by simpa using colon_notMem_repr size'.toNat) hreverse
  refine ⟨String.toList_inj.mp hp, String.toList_inj.mp (List.reverse_injective hl), ?_⟩
  have hrepr := String.toList_inj.mp (List.reverse_injective hn)
  exact UInt64.toNat_inj.mp (Nat.repr_injective hrepr)

theorem forkAgainst_verifies {crypto : HeadCrypto} {first call : Sighting}
    (hroot : first.head.root ≠ call.head.root) :
    (call.forkAgainst first.entry).verifiesOffline crypto = true ↔
      first.head.logId = call.head.logId ∧ first.head.mmrSize = call.head.mmrSize ∧
        first.head.verify crypto call.peerId = true ∧
        call.head.verify crypto call.peerId = true := by
  simp [ForkObserved.verifiesOffline, Sighting.forkAgainst, Sighting.entry, hroot, and_assoc]

/-- Every fork that is held or logged stands on its own. -/
def ForksVerify (crypto : HeadCrypto) (ledger : PeerRootLedger) : Prop :=
  ∀ fork, fork ∈ ledger.state.forks ∨ fork ∈ ledger.forkLog → fork.verifiesOffline crypto = true

/-- Where a call's root is not the one on file under its key, the head on file is of the same
log and size, and both heads are signed by the peer. -/
def DivergesSigned (crypto : HeadCrypto) (calls : List Sighting) : Prop :=
  ∀ call ∈ calls, ∀ first, firstSeen Sighting.key calls call.key = some first →
    first.head.root ≠ call.head.root →
    first.head.logId = call.head.logId ∧ first.head.mmrSize = call.head.mmrSize ∧
      first.head.verify crypto call.peerId = true ∧ call.head.verify crypto call.peerId = true

theorem forksVerify_run_iff (crypto : HeadCrypto) (calls : List Sighting) :
    ForksVerify crypto (run calls) ↔ DivergesSigned crypto calls := by
  constructor
  · intro h call hcall first hfirst hroot
    apply (forkAgainst_verifies hroot).mp
    apply h
    exact .inl (mem_forks_run.mpr ⟨call, hcall, first, hfirst, hroot, rfl⟩)
  · intro h fork hfork
    obtain ⟨call, hcall, first, hfirst, hroot, rfl⟩ :=
      mem_forks_run.mp (hfork.elim id (forkLog_subset_forks calls fork))
    exact (forkAgainst_verifies hroot).mpr (h call hcall first hfirst hroot)

theorem DivergesSigned.of_initial {crypto : HeadCrypto} {calls before : List Sighting}
    (h : DivergesSigned crypto calls) (hbefore : before <+: calls) :
    DivergesSigned crypto before := by
  obtain ⟨after, rfl⟩ := hbefore
  intro call hcall first hfirst
  refine h call (List.mem_append_left _ hcall) first ?_
  rw [firstSeen, List.find?_append, show before.find? _ = some first from hfirst, Option.some_or]

/-- Signed heads name hexadecimal peers, so what stands under a key is of the same place. -/
theorem divergesSigned_of_verify {crypto : HeadCrypto} {calls : List Sighting}
    (h : ∀ call ∈ calls, call.head.verify crypto call.peerId = true) :
    DivergesSigned crypto calls := by
  intro call hcall first hfirst _
  obtain ⟨hmem, hkey⟩ := firstSeen_eq_some hfirst
  have hfirstSigned := h first hmem
  obtain ⟨hpeer, hlog, hsize⟩ := key_inj (colon_notMem_of_verify hfirstSigned)
    (colon_notMem_of_verify (h call hcall)) hkey
  rw [hpeer] at hfirstSigned
  exact ⟨hlog, hsize, hfirstSigned, h call hcall⟩

/-- When every fork verifies in every state that a run reaches; it is enough that the heads
shown to the ledger do. -/
theorem forks_verify_offline_iff (crypto : HeadCrypto) (calls : List Sighting) :
    ((∀ before, before <+: calls → ForksVerify crypto (run before)) ↔ DivergesSigned crypto calls) ∧
    ((∀ call ∈ calls, call.head.verify crypto call.peerId = true) →
      ∀ before, before <+: calls → ForksVerify crypto (run before)) := by
  have hiff : (∀ before, before <+: calls → ForksVerify crypto (run before)) ↔
      DivergesSigned crypto calls := by
    constructor
    · intro h
      exact (forksVerify_run_iff crypto calls).mp (h calls List.prefix_rfl)
    · intro h before hbefore
      exact (forksVerify_run_iff crypto before).mpr (h.of_initial hbefore)
  exact ⟨hiff, fun h => hiff.mpr (divergesSigned_of_verify h)⟩

/-- Upper and lower case are read. -/
def hexDecode : List Char → Option Bytes
  | [] => some []
  | [_] => none
  | c :: d :: cs => do
      let hi ← hexDigit? c
      let lo ← hexDigit? d
      return UInt8.ofNat (16 * hi + lo) :: (← hexDecode cs)

theorem hexDecode_digits {cs : List Char} {bytes : Bytes} (h : hexDecode cs = some bytes) :
    ∀ c ∈ cs, (hexDigit? c).isSome = true := by
  induction cs using hexDecode.induct generalizing bytes with
  | case1 => simp
  | case2 c => cases h
  | case3 c d cs ih =>
      simp only [hexDecode, Option.bind_eq_bind, Option.bind_eq_some_iff] at h
      obtain ⟨hi, hhi, lo, hlo, rest, hrest, -⟩ := h
      rw [List.forall_mem_cons, List.forall_mem_cons, hhi, hlo]
      exact ⟨rfl, rfl, ih hrest⟩

theorem hexDecode_hexText (bytes : Bytes) : hexDecode (hexText bytes).toList = some bytes := by
  rw [hexText, String.toList_ofList]
  induction bytes with
  | nil => rfl
  | cons b bytes ih =>
      have hlt : b.toNat < 256 := b.toNat_lt
      obtain ⟨-, hhi⟩ := hexChar_reads ⟨b.toNat / 16, by omega⟩
      obtain ⟨-, hlo⟩ := hexChar_reads ⟨b.toNat % 16, by omega⟩
      have hbyte : UInt8.ofNat (16 * (b.toNat / 16) + b.toNat % 16) = b := by
        rw [Nat.div_add_mod]
        exact UInt8.ofNat_toNat
      rw [List.flatMap_cons, hexOfByte, List.cons_append, List.cons_append, List.nil_append, hexDecode,
        hhi, hlo, ih]
      exact congrArg (fun byte => some (byte :: bytes)) hbyte

def plainHex : HexCrate where
  encode := hexText
  decode text := hexDecode text.toList
  decode_encode := hexDecode_hexText
  digits := hexDecode_digits

/-- A scheme whose signature is the key, twice. -/
def plainHeadCrypto : HeadCrypto where
  hex := plainHex
  VerifyingKey := Bytes
  fromBytes := some
  verify := fun key _ signature => signature == key ++ key
  jcs := fun value => some (utf8 value.canonical)

/-- Two unsigned heads seal a fork that is logged as evidence. -/
theorem unsigned_heads_seal_fork :
    let calls := [plainSighting "a", plainSighting "b"]
    (∃ fork, (run calls).forkLog = [fork] ∧ fork.verifiesOffline plainHeadCrypto = false) ∧
      ¬ForksVerify plainHeadCrypto (run calls) := by
  intro calls
  have hfork : (plainSighting "b").forkAgainst (plainSighting "a").entry ∈ (run calls).forkLog :=
    List.mem_singleton.mpr rfl
  have hverify : ((plainSighting "b").forkAgainst (plainSighting "a").entry).verifiesOffline
      plainHeadCrypto = false := rfl
  refine ⟨⟨_, rfl, hverify⟩, fun h => ?_⟩
  rw [h _ (.inr hfork)] at hverify
  cases hverify

end CapsuleMesh.Plugin
