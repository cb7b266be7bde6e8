import CapsuleMesh.Adjudication.RefereeAnswer
import CapsuleMesh.Evidence.AskedFor
import CapsuleMesh.Evidence.NeverRaises

/-!
# The record of the referee and what it is cited from

`resolve_referee_record` over the answer of an evidence door, and `live_referee` as a whole: when each
of them returns, and when a record is cited for the right reason.
-/

namespace CapsuleMesh.Adjudication

open Python Evidence
open Sidecar (Digests)
open AskHistory (EvidenceTools Exchange Reply ServedRecord readReply readReplyDeep verifiedRecords
  bodyMembers)

/-! ## A record that declares a digest -/

def Declares (receipt : List (String × Json)) (digest : String) : Prop :=
  ∃ effect, field receipt "effect" = .obj effect ∧ field effect "response_digest" = .str digest

/-- The effect is a dictionary, or false. -/
def EffectShaped (receipt : List (String × Json)) : Prop :=
  (field receipt "effect").truthy = true → ∃ effect, field receipt "effect" = .obj effect

/-- Up to the first record that declares the digest, every effect can be read. -/
def Legible (digest : String) (records : List ServedRecord) : Prop :=
  ∀ before record after, records = before ++ record :: after →
    (∀ r ∈ before, ¬Declares r.receipt digest) → EffectShaped record.receipt

/-- A record as `resolve_referee_record` reads it. -/
def cited (record : ServedRecord) : Json × String := (.obj record.receipt, record.capsuleId)

theorem Legible.head {digest : String} {record : ServedRecord} {records : List ServedRecord}
    (h : Legible digest (record :: records)) : EffectShaped record.receipt := by
  apply h [] record records rfl
  intro r hr
  cases hr

/-- What `resolve_referee_record` makes of an exchange with the door. -/
def doorReply (T : EvidenceTools) (tooDeep : Bytes → Bool) (exchange : Exchange) : Py DoorReply := do
  let reply ← readReplyDeep T tooDeep exchange none
  let records ← verifiedRecords T reply
  return ⟨reply.ok, reply.envelope.isSome, reply.body, records.map cited⟩

/-- The artifact lists at least one record. -/
def ListsRecords (reply : Reply) : Prop :=
  reply.envelope.isSome = true ∧ (field (bodyMembers reply) "records").truthy = true

instance (reply : Reply) : Decidable (ListsRecords reply) := inferInstanceAs (Decidable (_ ∧ _))

/-- The status, from what was cited. -/
def statusOf (reply : Reply) (out : Option String) : RefereeRecordStatus :=
  if out.isSome then .resolved
  else if reply.envelope.isSome ∧ (reply.ok = false ∨ ListsRecords reply) then .citationUnverified
  else .unresolved

section

variable {T : EvidenceTools} {tooDeep : Bytes → Bool}

end

/-! ## The call as a whole -/

section

variable (network : RefereeNetwork) (live : LiveRefereeOptions) (halfA : AdjudicationHalf)

/-- Where the answer is beyond the nesting that `json.loads` allows. -/
def RefereeNetwork.tooDeep (raw : Bytes) : Bool := decide (network.beyondLimit raw = some .nesting)

/-- The reply of the door can be read, and its records as far as the one that declares the digest. -/
def DoorReadable (T : EvidenceTools) (digest : String) (exchange : Exchange) : Prop :=
  T.givesUp network.tooDeep exchange.reply = false ∧ ∀ records,
    verifiedRecords T (readReply T exchange none) = .ok records → Legible digest records

/-- The answer is within the limits of `json.loads`, and it is no JSON text, or has the shape that is
read, a digest, and a door that can be read. -/
inductive Readable (digests : Digests) (T : EvidenceTools) (door : Option Exchange) (bytes : Bytes) :
    Prop
  | noJson {text : String} {e : PyError} (hdecode : network.decodeJson bytes = .ok text)
      (hlimit : network.beyondLimit bytes = none)
      (hloads : loads network.floatRepr text = .error e) : Readable digests T door bytes
  | answer {text : String} {answer : List (String × Json)} {digest : String}
      (hdecode : network.decodeJson bytes = .ok text) (hlimit : network.beyondLimit bytes = none)
      (hloads : loads network.floatRepr text = .ok (.obj answer)) (htext : TextShaped answer)
      (hmargin : MarginShaped network.difference 0 answer)
      (hdigest : digestJson digests (.obj answer) = .ok digest)
      (hdoor : ∀ exchange ∈ door, DoorReadable network T digest exchange) :
      Readable digests T door bytes

end

section

variable {digests : Digests} {network : RefereeNetwork} {live : LiveRefereeOptions}
  {halfA halfB : AdjudicationHalf} {comparison : ComparisonResult} {index : ℕ} {bytes : Bytes}
  {T : EvidenceTools} {door : Option Exchange}

end

section

variable {digests : Digests} {network : RefereeNetwork} {live : LiveRefereeOptions}
  {halfA halfB : AdjudicationHalf} {comparison : ComparisonResult} {index : ℕ} {bytes : Bytes}
  {T : EvidenceTools} {door : Option Exchange}

end

/-! ## An answer that raises -/

section

variable (answer : Json) (members : List (String × Json))

variable {answer members}

end

end CapsuleMesh.Adjudication
