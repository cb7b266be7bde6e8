import Mathlib
import CapsuleMesh.Account.AccountCapsule
import CapsuleMesh.Library.Replaceable
import CapsuleMesh.Python.Lines
import CapsuleMesh.Python.PlainJcs

/-!
# Account capsules on a relay

`nostr_account.py`: an account is published as an event whose identifier is the hash of its NIP-01
text, signed with the node's discovery key.  The relay keeps one event for each author, kind and `d`
tag, and keeps the newest whatever the order of arrival.
-/

namespace CapsuleMesh.Nostr

open Python Library Account

def KIND_ACCOUNT_CAPSULE : Int := 31991

def ACCOUNT_D_TAG : String := "mesh-account"

/-- SHA-256, and BIP-340 signatures over secp256k1 with x-only public keys. -/
structure Schnorr where
  sha256 : Bytes → Bytes
  Key : Type
  pubkeyHex : Key → String
  signSchnorr : Key → Bytes → Bytes
  /-- `PublicKeyXOnly(pubkey).verify(sig, message)`; a key that is not on the curve raises. -/
  verify : (pubkey sig message : Bytes) → Py Bool

structure NostrEvent where
  pubkey : String
  createdAt : Int
  kind : Int
  tags : List (List String)
  content : String
  id : String := ""
  sig : String := ""
deriving DecidableEq

/-! ## Identifiers and signatures -/

def nip01Array (event : NostrEvent) : Json :=
  .arr
    [.int 0, .str event.pubkey, .int event.createdAt, .int event.kind,
     .arr (event.tags.map fun tag => .arr (tag.map .str)), .str event.content]

/-- `_nip01_serialize`: the compact text, with its characters unescaped. -/
def nip01Serialize (event : NostrEvent) : Bytes :=
  utf8 (String.ofList (jcsScript.text ((nip01Array event).tree String.toList)))

section

variable (S : Schnorr)

def NostrEvent.computeId (event : NostrEvent) : String := hexText (S.sha256 (nip01Serialize event))

/-- `SchnorrNostrKey.sign`. -/
def sign (key : S.Key) (message32 : Bytes) : Py String :=
  if message32.length ≠ 32 then .error (.valueError "Nostr signs the 32-byte event id")
  else .ok (hexText (S.signSchnorr key message32))

def NostrEvent.finalize (event : NostrEvent) (key : S.Key) : Py NostrEvent :=
  if S.pubkeyHex key ≠ event.pubkey then
    .error (.valueError "event pubkey does not match the signing key")
  else do
    let sig ← sign S key (← bytesFromHex (event.computeId S))
    return { event with id := event.computeId S, sig := sig }

/-- `verify_value`, of the value of an event. -/
def verifyValue (event : NostrEvent) : Py Bool :=
  if event.computeId S ≠ event.id then .ok false
  else do
    let pubkey ← bytesFromHex event.pubkey
    S.verify pubkey (← bytesFromHex event.sig) (← bytesFromHex (event.computeId S))

/-! ## The relay -/

/-- The answer to an event: whether it is kept, and the one in whose place. -/
inductive Response where
  | invalid (id : String)
  | older (id : String)
  | accepted (id : String) (replaced : Option String)
deriving DecidableEq

/-- Author, kind and `d` tag. -/
abbrev Address := String × Int × String

structure MockRelay where
  accepted : Dict Address NostrEvent := ∅
  log : List Response := []

/-- `_d_tag`: the value of the first `d` tag. -/
def dTag : List (List String) → String
  | [] => ""
  | tag :: tags => if tag.head? = some "d" then (tag[1]?).getD "" else dTag tags

def NostrEvent.address (event : NostrEvent) : Address := (event.pubkey, event.kind, dTag event.tags)

/-- What replaceable events are compared by. -/
def NostrEvent.rank (event : NostrEvent) : Int ×ₗ String := toLex (event.createdAt, event.id)

def MockRelay.answer (relay : MockRelay) (response : Response) : MockRelay × Response :=
  ({ relay with log := relay.log ++ [response] }, response)

def MockRelay.keep (relay : MockRelay) (event : NostrEvent) (replaced : Option String) :
    MockRelay × Response :=
  { relay with accepted := relay.accepted.insert event.address event }.answer
    (.accepted event.id replaced)

def MockRelay.sendEvent (relay : MockRelay) (event : NostrEvent) : Py (MockRelay × Response) := do
  if ← verifyValue S event then
    match relay.accepted.lookup event.address with
    | none => return relay.keep event none
    | some prior =>
        if event.rank ≤ prior.rank then return relay.answer (.older event.id)
        else return relay.keep event (some prior.id)
  else return relay.answer (.invalid event.id)

def MockRelay.latestFor (relay : MockRelay) (pubkey : String)
    (kind : Int := KIND_ACCOUNT_CAPSULE) (dTag : String := ACCOUNT_D_TAG) : Option NostrEvent :=
  relay.accepted.lookup (pubkey, kind, dTag)

/-- The relay after a send; one that raises changes nothing. -/
def MockRelay.after (relay : MockRelay) (event : NostrEvent) : MockRelay :=
  ((relay.sendEvent S event).toOption.map Prod.fst).getD relay

/-- The relay after any number of sends. -/
def MockRelay.run (relay : MockRelay) (events : List NostrEvent) : MockRelay :=
  events.foldl (MockRelay.after S) relay

/-! ## Publishing -/

/-- An account of a node, whose identifier is a text. -/
structure NodeAccount where
  account : AccountCapsule
  node : String
  named : account.nodeId = .str node

def NodeAccount.value (definitionDigest : String) (account : NodeAccount) : Json :=
  account.account.toValue definitionDigest

def NodeAccount.digest (definitionDigest : String) (account : NodeAccount) : String :=
  hexText (S.sha256 (jcs (account.value definitionDigest)))

def DURABILITY : String :=
  "This is a REPLACEABLE Nostr listing — a relay may drop or supersede it " ++
  "at any time. No durability is claimed for this summary here. The " ++
  "durable layer is the WITNESS: cross-check the coverage.checkpoint_root " ++
  "against the witness, do not rely on this relay copy."

def sealedNote (sealedCapsuleId : String) : String :=
  "This account is SEALED as a capsule in the node's own ledger under " ++
  "capsule_id=" ++ sealedCapsuleId ++ ". Pull that capsule from the " ++
  "node's capsules.jsonl and cross-check it against this listing; the " ++
  "ledgered capsule (not this relay copy) is the on-the-record assertion."

def accountContent (value : Json) (sealedCapsuleId : Option String) : Json :=
  let members := match value with
    | .obj members => members
    | _ => []
  .obj (members ++ [("durability", .str DURABILITY)] ++ match sealedCapsuleId with
    | none => []
    | some id => [("sealed_capsule_id", .str id), ("sealed_note", .str (sealedNote id))])

def accountTags (definitionDigest : String) (account : NodeAccount)
    (sealedCapsuleId : Option String) : List (List String) :=
  [["d", ACCOUNT_D_TAG],
   ["k", "mesh-account"],
   ["account_digest", account.digest S definitionDigest],
   ["coverage_root", account.account.coverageRoot],
   ["node_id", account.node],
   ["witnessed", if account.account.coverageWitnessed then "1" else "0"]] ++
  match sealedCapsuleId with
  | none => []
  | some id => [["sealed_capsule_id", id]]

/-- The event before it is signed. -/
def unsignedEvent (definitionDigest : String) (account : NodeAccount) (key : S.Key)
    (sealedCapsuleId : Option String) (createdAt : Int) : NostrEvent where
  pubkey := S.pubkeyHex key
  createdAt := createdAt
  kind := KIND_ACCOUNT_CAPSULE
  tags := accountTags S definitionDigest account sealedCapsuleId
  content := (accountContent (account.value definitionDigest) sealedCapsuleId).canonical

def buildAccountEvent (definitionDigest : String) (account : NodeAccount) (key : S.Key)
    (sealedCapsuleId : Option String) (createdAt : Int) : Py NostrEvent :=
  (unsignedEvent S definitionDigest account key sealedCapsuleId createdAt).finalize S key

def publishAccountCapsule (definitionDigest : String) (account : NodeAccount) (key : S.Key)
    (relay : MockRelay) (sealedCapsuleId : Option String) (createdAt : Int) :
    Py (NostrEvent × MockRelay × Response) := do
  let event ← buildAccountEvent S definitionDigest account key sealedCapsuleId createdAt
  return (event, ← relay.sendEvent S event)

end

/-! ## What an identifier stands for -/

/-- Everything that is signed is the same. -/
structure SameUnsigned (event other : NostrEvent) : Prop where
  pubkey : event.pubkey = other.pubkey
  createdAt : event.createdAt = other.createdAt
  kind : event.kind = other.kind
  tags : event.tags = other.tags
  content : event.content = other.content

theorem distinct_nip01Array (event : NostrEvent) : (nip01Array event).Distinct fun _ => False := by
  have htag : ∀ tag : List String, (Json.arr (tag.map .str)).Distinct fun _ => False := by
    intro tag
    apply Json.Distinct.arr
    intro e he
    obtain ⟨s, -, rfl⟩ := List.mem_map.mp he
    exact .str s
  apply Json.Distinct.arr
  intro e he
  simp only [List.mem_cons, List.not_mem_nil, or_false] at he
  obtain rfl | rfl | rfl | rfl | rfl | rfl := he
  · exact .int 0
  · exact .str event.pubkey
  · exact .int event.createdAt
  · exact .int event.kind
  · apply Json.Distinct.arr
    intro t ht
    obtain ⟨tag, -, rfl⟩ := List.mem_map.mp ht
    exact htag tag
  · exact .str event.content

/-- Events of one serialization say the same. -/
theorem sameUnsigned_of_serialize {event other : NostrEvent}
    (h : nip01Serialize event = nip01Serialize other) : SameUnsigned event other := by
  have htext := String.ofList_injective (utf8_injective h)
  have hfloat : ∀ repr, False → FloatText (String.toList repr) := fun _ h => h.elim
  have htree := jcsScript_readable.text_injective
    ((distinct_nip01Array event).valid_tree hfloat) ((distinct_nip01Array other).valid_tree hfloat)
    htext
  have harray := (distinct_nip01Array event).tree_injective (fun _ _ h => h.elim)
    (distinct_nip01Array other) htree
  have htags : Function.Injective fun tag : List String => Json.arr (tag.map .str) := by
    intro tag tag' heq
    exact List.map_injective_iff.mpr (fun _ _ h => Json.str.inj h) (Json.arr.inj heq)
  simp only [nip01Array, Json.arr.injEq, List.cons.injEq, Json.str.injEq, Json.int.injEq,
    (List.map_injective_iff.mpr htags).eq_iff, true_and, and_true] at harray
  obtain ⟨hpubkey, hcreated, hkind, hsame, hcontent⟩ := harray
  exact ⟨hpubkey, hcreated, hkind, hsame, hcontent⟩

theorem SameUnsigned.serialize {event other : NostrEvent} (h : SameUnsigned event other) :
    nip01Serialize event = nip01Serialize other := by
  rw [nip01Serialize, nip01Serialize, nip01Array, nip01Array, h.pubkey, h.createdAt, h.kind, h.tags,
    h.content]

theorem SameUnsigned.address {event other : NostrEvent} (h : SameUnsigned event other) :
    event.address = other.address := by
  rw [NostrEvent.address, NostrEvent.address, h.pubkey, h.kind, h.tags]

section

variable {S : Schnorr}

/-- The hash tells the texts of these events apart. -/
def TellsApart (S : Schnorr) (events : List NostrEvent) : Prop :=
  ∀ event ∈ events, ∀ other ∈ events,
    S.sha256 (nip01Serialize event) = S.sha256 (nip01Serialize other) →
      nip01Serialize event = nip01Serialize other

theorem TellsApart.sameUnsigned {events : List NostrEvent} (h : TellsApart S events)
    {event other : NostrEvent} (hevent : event ∈ events) (hother : other ∈ events)
    (hid : event.computeId S = other.computeId S) : SameUnsigned event other :=
  sameUnsigned_of_serialize (h event hevent other hother (hexText_injective hid))

/-- The event verifies under its own public key. -/
def Verifies (S : Schnorr) (event : NostrEvent) : Prop := verifyValue S event = .ok true

instance (event : NostrEvent) : Decidable (Verifies S event) :=
  inferInstanceAs (Decidable (_ = _))

theorem Verifies.id_eq {event : NostrEvent} (h : Verifies S event) :
    event.id = event.computeId S := by
  rw [Verifies, verifyValue] at h
  split_ifs at h with hid
  · cases h
  · rw [not_not] at hid
    exact hid.symm

theorem bytesFromHex_computeId (event : NostrEvent) :
    bytesFromHex (event.computeId S) = .ok (S.sha256 (nip01Serialize event)) := by
  rw [NostrEvent.computeId, bytesFromHex_hexText]

/-- An event with its own identifier is as good as its signature over it. -/
theorem verifyValue_eq {event : NostrEvent} (hid : event.id = event.computeId S) {pubkey sig : Bytes}
    (hpubkey : bytesFromHex event.pubkey = .ok pubkey) (hsig : bytesFromHex event.sig = .ok sig) :
    verifyValue S event = S.verify pubkey sig (S.sha256 (nip01Serialize event)) := by
  rw [verifyValue, if_neg (not_not.mpr hid.symm), hpubkey, hsig, bytesFromHex_computeId]
  rfl

/-- The event with its identifier and the signature of the key over it. -/
def NostrEvent.signed (S : Schnorr) (key : S.Key) (event : NostrEvent) : NostrEvent :=
  { event with
    id := event.computeId S
    sig := hexText (S.signSchnorr key (S.sha256 (nip01Serialize event))) }

theorem sameUnsigned_signed (key : S.Key) (event : NostrEvent) :
    SameUnsigned (event.signed S key) event :=
  ⟨rfl, rfl, rfl, rfl, rfl⟩

theorem computeId_signed (key : S.Key) (event : NostrEvent) :
    (event.signed S key).computeId S = event.computeId S := rfl

/-! ## One send -/

/-- What a send does to the relay, by what becomes of the event. -/
theorem sendEvent_cases (relay : MockRelay) (event : NostrEvent) :
    (∃ e, relay.sendEvent S event = .error e ∧ ¬ Verifies S event) ∨
    (relay.sendEvent S event = .ok (relay.answer (.invalid event.id)) ∧ ¬ Verifies S event) ∨
    (∃ prior, relay.accepted.lookup event.address = some prior ∧ event.rank ≤ prior.rank ∧
      relay.sendEvent S event = .ok (relay.answer (.older event.id)) ∧ Verifies S event) ∨
    (∃ held, relay.accepted.lookup event.address = held ∧
      (∀ prior ∈ held, prior.rank < event.rank) ∧
      relay.sendEvent S event = .ok (relay.keep event (held.map NostrEvent.id)) ∧
      Verifies S event) := by
  rw [MockRelay.sendEvent]
  cases hverify : verifyValue S event with
  | error e =>
      left
      refine ⟨e, rfl, ?_⟩
      intro h
      cases hverify.symm.trans h
  | ok verified =>
      cases verified with
      | false =>
        right; left
        refine ⟨rfl, ?_⟩
        intro h
        cases hverify.symm.trans h
      | true =>
        right; right
        cases hprior : relay.accepted.lookup event.address with
        | none =>
          right
          refine ⟨none, rfl, ?_, by simp, hverify⟩
          intro prior hmem
          cases hmem
        | some prior =>
          by_cases hle : event.rank ≤ prior.rank
          · left
            exact ⟨prior, rfl, hle, by simp [hle], hverify⟩
          · right
            refine ⟨some prior, rfl, ?_, by simp [hle], hverify⟩
            intro other hother
            obtain rfl := Option.some.inj hother
            exact not_le.mp hle

theorem after_accepted (relay : MockRelay) (event : NostrEvent) :
    (relay.after S event).accepted =
      if Verifies S event then Replaceable.offer NostrEvent.address NostrEvent.rank relay.accepted event
      else relay.accepted := by
  obtain ⟨e, hsend, hnot⟩ | ⟨hsend, hnot⟩ | ⟨prior, hprior, hle, hsend, h⟩ |
    ⟨held, hheld, hnewer, hsend, h⟩ := sendEvent_cases (S := S) relay event
  · rw [MockRelay.after, hsend, if_neg hnot]
    rfl
  · rw [MockRelay.after, hsend, if_neg hnot]
    rfl
  · rw [MockRelay.after, hsend, if_pos h, Replaceable.offer, hprior]
    exact (if_pos hle).symm
  · rw [MockRelay.after, hsend, if_pos h, Replaceable.offer, hheld]
    cases held with
    | none => rfl
    | some prior => exact (if_neg (not_le.mpr (hnewer prior rfl))).symm

/-! ## Any number of sends -/

theorem run_accepted (relay : MockRelay) (events : List NostrEvent) :
    (relay.run S events).accepted = (events.filter fun e => decide (Verifies S e)).foldl
      (Replaceable.offer NostrEvent.address NostrEvent.rank) relay.accepted := by
  induction events generalizing relay with
  | nil => rfl
  | cons event events ih =>
      rw [MockRelay.run, List.foldl_cons, ← MockRelay.run, ih, after_accepted]
      by_cases h : Verifies S event
      · rw [if_pos h, List.filter_cons_of_pos (by simpa using h), List.foldl_cons]
      · rw [if_neg h, List.filter_cons_of_neg (by simpa using h)]

/-- An event that verifies is answered. -/
theorem sendEvent_after {event : NostrEvent} (hverifies : Verifies S event) (relay : MockRelay) :
    ∃ answer, relay.sendEvent S event = .ok (relay.after S event, answer) := by
  rw [MockRelay.after]
  obtain ⟨e, -, hnot⟩ | ⟨-, hnot⟩ | ⟨prior, -, -, hsend, -⟩ | ⟨held, -, -, hsend, -⟩ :=
    sendEvent_cases (S := S) relay event
  · exact absurd hverifies hnot
  · exact absurd hverifies hnot
  · exact ⟨_, by rw [hsend]; rfl⟩
  · exact ⟨_, by rw [hsend]; rfl⟩

/-- The events that verify and have this address, in the order of arrival. -/
def sentTo (S : Schnorr) (address : Address) (events : List NostrEvent) : List NostrEvent :=
  ofKey NostrEvent.address address (events.filter fun e => decide (Verifies S e))

theorem mem_sentTo {address : Address} {events : List NostrEvent} {event : NostrEvent} :
    event ∈ sentTo S address events ↔
      event ∈ events ∧ Verifies S event ∧ event.address = address := by
  rw [sentTo, mem_ofKey, List.mem_filter, decide_eq_true_eq, and_assoc]

theorem lookup_run (events : List NostrEvent) (address : Address) :
    (({} : MockRelay).run S events).accepted.lookup address =
      (sentTo S address events).argmax NostrEvent.rank := by
  rw [run_accepted]
  exact Replaceable.lookup_foldl_offer _ address

/-! ## The log -/

/-- An entry of the log that says that an event is kept. -/
def Response.kept? : Response → Option (String × Option String)
  | .accepted id replaced => some (id, replaced)
  | _ => none

/-- The events that are kept on arrival, each with the identifier of the one it replaces. -/
def keptEvents (S : Schnorr) : MockRelay → List NostrEvent → List (NostrEvent × Option String)
  | _, [] => []
  | relay, event :: events =>
      (match relay.sendEvent S event with
        | .ok (_, .accepted _ replaced) => [(event, replaced)]
        | _ => []) ++ keptEvents S (relay.after S event) events

/-- From what is held first to what is held last, each event is newer than the one it replaces. -/
inductive Links : Option NostrEvent → List (NostrEvent × Option String) → Option NostrEvent → Prop
  | nil (held : Option NostrEvent) : Links held [] held
  | cons {held last : Option NostrEvent} {event : NostrEvent}
      {later : List (NostrEvent × Option String)}
      (hnewer : ∀ prior ∈ held, prior.rank < event.rank) (hlater : Links (some event) later last) :
      Links held ((event, held.map NostrEvent.id) :: later) last

theorem log_run (relay : MockRelay) (events : List NostrEvent) :
    (relay.run S events).log.filterMap Response.kept? = relay.log.filterMap Response.kept? ++
      (keptEvents S relay events).map fun kept => (kept.1.id, kept.2) := by
  induction events generalizing relay with
  | nil => simp [MockRelay.run, keptEvents]
  | cons event events ih =>
      rw [MockRelay.run, List.foldl_cons, ← MockRelay.run, ih, keptEvents, List.map_append,
        ← List.append_assoc]
      congr 1
      obtain ⟨e, hsend, -⟩ | ⟨hsend, -⟩ | ⟨prior, -, -, hsend, -⟩ | ⟨held, -, -, hsend, -⟩ :=
        sendEvent_cases (S := S) relay event
      · rw [MockRelay.after, hsend]
        simp
      all_goals
        rw [MockRelay.after, hsend]
        simp [MockRelay.answer, MockRelay.keep, Response.kept?]

theorem links_run (relay : MockRelay) (events : List NostrEvent) (address : Address) :
    Links (relay.accepted.lookup address)
      ((keptEvents S relay events).filter fun kept => decide (kept.1.address = address))
      ((relay.run S events).accepted.lookup address) := by
  induction events generalizing relay with
  | nil => exact .nil _
  | cons event events ih =>
      have hrest := ih (relay.after S event)
      rw [MockRelay.run, List.foldl_cons, ← MockRelay.run, keptEvents, List.filter_append]
      obtain ⟨e, hsend, -⟩ | ⟨hsend, -⟩ | ⟨prior, -, -, hsend, -⟩ | ⟨held, hheld, hnewer, hsend, -⟩ :=
        sendEvent_cases (S := S) relay event
      · rw [MockRelay.after, hsend] at hrest
        rw [MockRelay.after, hsend]
        exact hrest
      · rw [MockRelay.after, hsend] at hrest
        rw [MockRelay.after, hsend]
        exact hrest
      · rw [MockRelay.after, hsend] at hrest
        rw [MockRelay.after, hsend]
        exact hrest
      · have hafter : relay.after S event = (relay.keep event (held.map NostrEvent.id)).1 := by
          rw [MockRelay.after, hsend]
          rfl
        have hstore : (relay.after S event).accepted =
            relay.accepted.insert event.address event := by
          rw [hafter]
          rfl
        rw [hsend]
        by_cases haddress : event.address = address
        · subst haddress
          rw [hstore, AList.lookup_insert] at hrest
          rw [hheld]
          simpa [MockRelay.keep, MockRelay.answer] using Links.cons hnewer hrest
        · rw [hstore, AList.lookup_insert_ne (Ne.symm haddress)] at hrest
          simpa [MockRelay.keep, MockRelay.answer, haddress] using hrest

/-- The log tells the history of every address: each event that is kept names the one before it,
which is older, and the last of them is what the relay holds. -/
theorem history_told (relay : MockRelay) (events : List NostrEvent) :
    (relay.run S events).log.filterMap Response.kept? = relay.log.filterMap Response.kept? ++
        (keptEvents S relay events).map (fun kept => (kept.1.id, kept.2)) ∧
      ∀ address, Links (relay.accepted.lookup address)
        ((keptEvents S relay events).filter fun kept => decide (kept.1.address = address))
        ((relay.run S events).accepted.lookup address) :=
  ⟨log_run relay events, links_run relay events⟩

/-! ## Relays agree -/

/-- Relays that were sent the same events hold the same, whatever the order and the repetitions. -/
theorem relays_agree {events others : List NostrEvent} (hsame : ∀ e, e ∈ events ↔ e ∈ others)
    (hsha : TellsApart S events) (address : Address) :
    Option.Rel (fun event other => event.id = other.id ∧ SameUnsigned event other)
      ((({} : MockRelay).run S events).accepted.lookup address)
      ((({} : MockRelay).run S others).accepted.lookup address) := by
  have hsent : ∀ e, e ∈ sentTo S address events ↔ e ∈ sentTo S address others := by
    intro e
    rw [mem_sentTo, mem_sentTo, hsame e]
  rw [lookup_run, lookup_run]
  have hrel := @Replaceable.argmax_rel _ _ _ NostrEvent.rank _ _ hsent
  generalize (sentTo S address events).argmax NostrEvent.rank = held at hrel ⊢
  generalize (sentTo S address others).argmax NostrEvent.rank = held' at hrel ⊢
  cases hrel with
  | none => exact .none
  | some hrank =>
      obtain ⟨hevent, hother, hrank⟩ := hrank
      obtain ⟨hmem, hverifies, -⟩ := mem_sentTo.mp hevent
      obtain ⟨hmem', hverifies', -⟩ := mem_sentTo.mp hother
      have hid := congrArg Prod.snd (toLex_inj.mp hrank)
      refine .some ⟨hid, hsha.sameUnsigned hmem ((hsame _).mpr hmem') ?_⟩
      rw [← hverifies.id_eq, ← hverifies'.id_eq]
      exact hid

/-- Signatures that show the key and the message, and a hash of the ninth byte. -/
def plainSchnorr : Schnorr where
  sha256 bytes := List.replicate 31 0 ++ [bytes.getD 8 0]
  Key := UInt8
  pubkeyHex key := hexText [key]
  signSchnorr key message := key :: message
  verify pubkey sig message := .ok (decide (sig = pubkey ++ message))

def note (createdAt : Int) (content : String) : NostrEvent :=
  NostrEvent.signed plainSchnorr (1 : UInt8)
    { pubkey := "01", createdAt := createdAt, kind := 1, tags := [["d", "x"]], content := content }

theorem relays_agree_notes :
    let events := [note 3 "b", note 7 "a"]
    let others := [note 7 "a", note 3 "b", note 3 "b"]
    (({} : MockRelay).run plainSchnorr events).accepted.lookup ("01", 1, "x") = some (note 7 "a") ∧
      Option.Rel (fun event other => event.id = other.id ∧ SameUnsigned event other)
        ((({} : MockRelay).run plainSchnorr events).accepted.lookup ("01", 1, "x"))
        ((({} : MockRelay).run plainSchnorr others).accepted.lookup ("01", 1, "x")) := by
  intro events others
  refine ⟨by decide +kernel, ?_⟩
  apply relays_agree
  · intro e
    simp [events, others, or_comm]
  · unfold TellsApart
    decide +kernel

/-! ## What a node has published -/

/-- The signatures of the key verify, and its public key can be read. -/
structure SignsOwn (S : Schnorr) (key : S.Key) : Prop where
  size : ∀ bytes, (S.sha256 bytes).length = 32
  verifies : ∃ pubkey, bytesFromHex (S.pubkeyHex key) = .ok pubkey ∧
    ∀ message, message.length = 32 → S.verify pubkey (S.signSchnorr key message) message = .ok true

theorem finalize_eq {key : S.Key} (hown : SignsOwn S key) {event : NostrEvent}
    (hpubkey : event.pubkey = S.pubkeyHex key) :
    event.finalize S key = .ok (event.signed S key) := by
  have hsign : sign S key (S.sha256 (nip01Serialize event)) =
      .ok (hexText (S.signSchnorr key (S.sha256 (nip01Serialize event)))) := by
    rw [sign, if_neg (not_not.mpr (hown.size _))]
  rw [NostrEvent.finalize, if_neg (not_not.mpr hpubkey.symm), bytesFromHex_computeId, Py.ok_bind,
    hsign]
  rfl

theorem verifies_signed {key : S.Key} (hown : SignsOwn S key) {event : NostrEvent}
    (hpubkey : event.pubkey = S.pubkeyHex key) : Verifies S (event.signed S key) := by
  obtain ⟨pubkey, hread, hverify⟩ := hown.verifies
  have hsig : bytesFromHex (event.signed S key).sig =
      .ok (S.signSchnorr key (S.sha256 (nip01Serialize event))) := bytesFromHex_hexText _
  have hkey : bytesFromHex (event.signed S key).pubkey = .ok pubkey :=
    (congrArg bytesFromHex hpubkey).trans hread
  have hid : (event.signed S key).id = (event.signed S key).computeId S :=
    (computeId_signed key event).symm
  exact (verifyValue_eq hid hkey hsig).trans (hverify _ (hown.size _))

/-- A publication of the node: what `publish_account_capsule` is given. -/
structure Publication where
  account : NodeAccount
  sealedCapsuleId : Option String
  createdAt : Int

def Publication.unsigned (S : Schnorr) (definitionDigest : String) (key : S.Key)
    (publication : Publication) : NostrEvent :=
  unsignedEvent S definitionDigest publication.account key publication.sealedCapsuleId
    publication.createdAt

def Publication.build (S : Schnorr) (definitionDigest : String) (key : S.Key)
    (publication : Publication) : Py NostrEvent :=
  buildAccountEvent S definitionDigest publication.account key publication.sealedCapsuleId
    publication.createdAt

theorem Publication.build_eq (publication : Publication) (definitionDigest : String) {key : S.Key}
    (hown : SignsOwn S key) : publication.build S definitionDigest key =
      .ok ((publication.unsigned S definitionDigest key).signed S key) :=
  finalize_eq hown rfl

def Publication.publish (S : Schnorr) (definitionDigest : String) (key : S.Key) (relay : MockRelay)
    (publication : Publication) : Py (NostrEvent × MockRelay × Response) :=
  publishAccountCapsule S definitionDigest publication.account key relay
    publication.sealedCapsuleId publication.createdAt

/-- Where the accounts of a node are kept. -/
def accountAddress (S : Schnorr) (key : S.Key) : Address :=
  (S.pubkeyHex key, KIND_ACCOUNT_CAPSULE, ACCOUNT_D_TAG)

theorem Publication.address_unsigned (definitionDigest : String) (key : S.Key)
    (publication : Publication) :
    (publication.unsigned S definitionDigest key).address = accountAddress S key := rfl

/-- What verifies as an account of the node has the identifier of one of its publications. -/
def Unforged (S : Schnorr) (definitionDigest : String) (key : S.Key)
    (publications : List Publication) (events : List NostrEvent) : Prop :=
  ∀ event ∈ events, Verifies S event → event.address = accountAddress S key →
    ∃ p ∈ publications, event.computeId S = (p.unsigned S definitionDigest key).computeId S

/-- Publishing returns an event that verifies, whatever the relay holds.  Once it has arrived, a
relay that was sent anything else besides, in any order, holds this account for the node and no
older one. -/
theorem publication_found {definitionDigest : String} {key : S.Key} (hown : SignsOwn S key)
    {earlier : List Publication} {latest : Publication}
    (htimes : ∀ p ∈ earlier, p.createdAt < latest.createdAt) :
    ∃ published, latest.build S definitionDigest key = .ok published ∧ Verifies S published ∧
      (∀ relay : MockRelay, ∃ answer, latest.publish S definitionDigest key relay =
        .ok (published, relay.after S published, answer)) ∧
      ∀ events, published ∈ events →
        Unforged S definitionDigest key (latest :: earlier) events →
        TellsApart S (events ++ (latest :: earlier).map (Publication.unsigned S definitionDigest key)) →
        ∃ found, (({} : MockRelay).run S events).latestFor (S.pubkeyHex key) = some found ∧
          found.id = published.id ∧ SameUnsigned found (latest.unsigned S definitionDigest key) := by
  have hsame := sameUnsigned_signed key (latest.unsigned S definitionDigest key)
  have hverifies : Verifies S ((latest.unsigned S definitionDigest key).signed S key) :=
    verifies_signed hown rfl
  obtain ⟨published, hpublished⟩ :
      ∃ published, (latest.unsigned S definitionDigest key).signed S key = published := ⟨_, rfl⟩
  rw [hpublished] at hsame hverifies
  have hbuild : latest.build S definitionDigest key = .ok published :=
    (latest.build_eq definitionDigest hown).trans (congrArg _ hpublished)
  have hpublish : ∀ relay : MockRelay, ∃ answer, latest.publish S definitionDigest key relay =
      .ok (published, relay.after S published, answer) := by
    intro relay
    obtain ⟨answer, hsend⟩ := sendEvent_after hverifies relay
    refine ⟨answer, ?_⟩
    rw [Publication.publish, publishAccountCapsule, ← Publication.build, hbuild, Py.ok_bind, hsend]
    rfl
  refine ⟨published, hbuild, hverifies, hpublish, ?_⟩
  intro events hdelivered hunforged hsha
  have hid : published.computeId S = (latest.unsigned S definitionDigest key).computeId S :=
    congrArg (fun bytes => hexText (S.sha256 bytes)) hsame.serialize
  have haddress := hsame.address.trans (latest.address_unsigned definitionDigest key)
  have hsent : published ∈ sentTo S (accountAddress S key) events :=
    mem_sentTo.mpr ⟨hdelivered, hverifies, haddress⟩
  -- each account of the node that arrives is one of its publications
  have hknown : ∀ event ∈ sentTo S (accountAddress S key) events,
      ∃ p ∈ latest :: earlier, event.id = (p.unsigned S definitionDigest key).computeId S ∧
        SameUnsigned event (p.unsigned S definitionDigest key) := by
    intro event hevent
    obtain ⟨hmem, hevent, hat⟩ := mem_sentTo.mp hevent
    obtain ⟨p, hp, hpid⟩ := hunforged event hmem hevent hat
    refine ⟨p, hp, hevent.id_eq.trans hpid, hsha.sameUnsigned ?_ ?_ hpid⟩
    · exact List.mem_append_left _ hmem
    · exact List.mem_append_right _ (List.mem_map_of_mem hp)
  have htop : ∀ event ∈ sentTo S (accountAddress S key) events, event.rank ≤ published.rank := by
    intro event hevent
    obtain ⟨p, hp, hpid, hpsame⟩ := hknown event hevent
    have hcreated : event.createdAt = p.createdAt := hpsame.createdAt
    have hlatest : published.createdAt = latest.createdAt := hsame.createdAt
    rw [NostrEvent.rank, NostrEvent.rank, Prod.Lex.toLex_le_toLex]
    rcases List.mem_cons.mp hp with rfl | hp
    · right
      refine ⟨hcreated.trans hlatest.symm, le_of_eq ?_⟩
      rw [hpid, hverifies.id_eq, hid]
    · left
      have hless := htimes p hp
      change event.createdAt < published.createdAt
      omega
  obtain ⟨found, hfound, hheld, hrank⟩ := Replaceable.exists_argmax_of_top hsent htop
  have hsameId : found.id = published.id := congrArg Prod.snd (toLex_inj.mp hrank)
  obtain ⟨hmem, hfoundVerifies, -⟩ := mem_sentTo.mp hfound
  refine ⟨found, (lookup_run events _).trans hheld, hsameId, ?_⟩
  apply hsha.sameUnsigned
  · exact List.mem_append_left _ hmem
  · exact List.mem_append_right _ (List.mem_map_of_mem List.mem_cons_self)
  · rw [← hfoundVerifies.id_eq, hsameId, hverifies.id_eq, hid]

end

/-! ## Two publications of an empty account -/

theorem plainSchnorr_signsOwn (key : UInt8) : SignsOwn plainSchnorr key where
  size bytes := by simp [plainSchnorr]
  verifies := ⟨[key], bytesFromHex_hexText [key], fun message _ => by simp [plainSchnorr]⟩

/-- The ninth byte of a text of the key `01` is the first of its time. -/
theorem ninth_byte {event : NostrEvent} (hpubkey : event.pubkey = "01") {c : Char} {cs : List Char}
    (htime : (toString event.createdAt).toList = c :: cs) :
    (nip01Serialize event).getD 8 0 = (String.utf8EncodeChar c).headD 0 := by
  have hfront : ∃ rest, jcsScript.text ((nip01Array event).tree String.toList) =
      ['[', '0', ',', '"', '0', '1', '"', ','] ++ c :: rest := by
    have hkey : jcsScript.quoted "01".toList = ['"', '0', '1', '"'] := by decide
    rw [nip01Array, hpubkey, Json.tree, Script.text_list]
    simp only [Json.treeElems, Json.tree, List.map_cons, Script.joined, Script.text, hkey,
      List.flatMap_cons, List.cons_append, List.nil_append, List.append_assoc]
    have htimeText : jcsScript.word (.int event.createdAt) = c :: cs := htime
    rw [htimeText]
    exact ⟨_, rfl⟩
  obtain ⟨rest, hfront⟩ := hfront
  have hbytes : ['[', '0', ',', '"', '0', '1', '"', ','].flatMap String.utf8EncodeChar =
      [91, 48, 44, 34, 48, 49, 34, 44] := by decide
  rw [nip01Serialize, utf8_eq_flatMap, String.toList_ofList, hfront, List.flatMap_append, hbytes,
    List.flatMap_cons]
  cases hc : String.utf8EncodeChar c with
  | nil => simp at hc
  | cons b bs => rfl

/-- An account of nothing, published at this time. -/
def emptyPublication (createdAt : Int) : Publication where
  account := ⟨emptyAccount (.str "node") {}, "node", rfl⟩
  sealedCapsuleId := some "capsule"
  createdAt := createdAt

def emptyUnsigned (createdAt : Int) : NostrEvent :=
  (emptyPublication createdAt).unsigned plainSchnorr "definition" (1 : UInt8)

def emptyEvent (createdAt : Int) : NostrEvent :=
  (emptyUnsigned createdAt).signed plainSchnorr (1 : UInt8)

theorem emptyUnsigned_apart {event other : NostrEvent}
    (hevent : SameUnsigned event (emptyUnsigned 9) ∨ SameUnsigned event (emptyUnsigned 10))
    (hother : SameUnsigned other (emptyUnsigned 9) ∨ SameUnsigned other (emptyUnsigned 10))
    (hhash : plainSchnorr.sha256 (nip01Serialize event) = plainSchnorr.sha256 (nip01Serialize other)) :
    nip01Serialize event = nip01Serialize other := by
  have hpubkey : ∀ n, (emptyUnsigned n).pubkey = "01" := fun _ => rfl
  have hnine := @ninth_byte _ (hpubkey 9) '9' [] (by decide)
  have hten := @ninth_byte _ (hpubkey 10) '1' ['0'] (by decide)
  have hne : plainSchnorr.sha256 (nip01Serialize (emptyUnsigned 9)) ≠
      plainSchnorr.sha256 (nip01Serialize (emptyUnsigned 10)) := by
    intro h
    have hbyte := List.cons.inj (List.append_cancel_left h)
    rw [hnine, hten] at hbyte
    revert hbyte
    decide
  rcases hevent with hevent | hevent <;> rcases hother with hother | hother
  · rw [hevent.serialize, hother.serialize]
  · rw [hevent.serialize, hother.serialize] at hhash
    exact absurd hhash hne
  · rw [hevent.serialize, hother.serialize] at hhash
    exact absurd hhash.symm hne
  · rw [hevent.serialize, hother.serialize]

theorem build_emptyPublication (createdAt : Int) :
    (emptyPublication createdAt).build plainSchnorr "definition" (1 : UInt8) =
      .ok (emptyEvent createdAt) :=
  (emptyPublication createdAt).build_eq "definition" (plainSchnorr_signsOwn (1 : UInt8))

theorem emptyEvent_known {createdAt : Int} {event : NostrEvent}
    (h : event ∈ [emptyEvent createdAt, emptyUnsigned createdAt]) :
    SameUnsigned event (emptyUnsigned createdAt) := by
  simp only [List.mem_cons, List.not_mem_nil, or_false] at h
  obtain rfl | rfl := h
  · exact @sameUnsigned_signed plainSchnorr (1 : UInt8) (emptyUnsigned createdAt)
  · exact ⟨rfl, rfl, rfl, rfl, rfl⟩

/-- The earlier account arrives last. -/
theorem publication_found_emptyEvent :
    ∃ found, (({} : MockRelay).run plainSchnorr [emptyEvent 10, emptyEvent 9]).latestFor
        (plainSchnorr.pubkeyHex (1 : UInt8)) = some found ∧
      found.id = (emptyEvent 10).id ∧ SameUnsigned found (emptyUnsigned 10) := by
  have hown := plainSchnorr_signsOwn (1 : UInt8)
  have htimes : ∀ p ∈ [emptyPublication 9], p.createdAt < (emptyPublication 10).createdAt := by
    intro p hp
    obtain rfl := List.mem_singleton.mp hp
    decide
  obtain ⟨published, hbuild, -, -, hfound⟩ :=
    @publication_found plainSchnorr "definition" (1 : UInt8) hown _ _ htimes
  have hpublished : published = emptyEvent 10 :=
    Except.ok.inj (hbuild.symm.trans (build_emptyPublication 10))
  rw [hpublished] at hfound
  refine hfound [emptyEvent 10, emptyEvent 9] List.mem_cons_self ?_ ?_
  · intro event hevent _ _
    rcases List.mem_cons.mp hevent with rfl | hevent
    · exact ⟨emptyPublication 10, List.mem_cons_self,
        @computeId_signed plainSchnorr (1 : UInt8) (emptyUnsigned 10)⟩
    · obtain rfl := List.mem_singleton.mp hevent
      exact ⟨emptyPublication 9, List.mem_cons_of_mem _ List.mem_cons_self,
        @computeId_signed plainSchnorr (1 : UInt8) (emptyUnsigned 9)⟩
  · have hall : ∀ event ∈ [emptyEvent 10, emptyEvent 9, emptyUnsigned 10, emptyUnsigned 9],
        SameUnsigned event (emptyUnsigned 9) ∨ SameUnsigned event (emptyUnsigned 10) := by
      intro event hevent
      have hknown := @emptyEvent_known
      simp only [List.mem_cons, List.not_mem_nil, or_false] at hevent hknown
      obtain rfl | rfl | rfl | rfl := hevent
      · exact .inr (hknown (.inl rfl))
      · exact .inl (hknown (.inl rfl))
      · exact .inr (hknown (.inr rfl))
      · exact .inl (hknown (.inr rfl))
    intro event hevent other hother
    exact emptyUnsigned_apart (hall event hevent) (hall other hother)

end CapsuleMesh.Nostr
