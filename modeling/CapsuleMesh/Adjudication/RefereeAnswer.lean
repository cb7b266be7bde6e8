import CapsuleMesh.Adjudication.Verdicts

/-!
# Answers that the live referee can read

`live_referee` reads its answer through chained `.get` and index accesses.  Each chain returns on
exactly the answers of one shape.
-/

namespace CapsuleMesh.Adjudication

open Python Sidecar

/-! ## Accesses -/

/-- `d.get(key)` of a dictionary. -/
def field (members : List (String × Json)) (key : String) : Json := (members.lookup key).getD .null

theorem get_eq_ok {j v : Json} {key : String} :
    j.get key = .ok v ↔ ∃ members, j = .obj members ∧ v = field members key := by
  constructor
  · intro h
    cases j with
    | obj members => exact ⟨members, rfl, (Except.ok.inj h).symm⟩
    | _ => cases h
  · rintro ⟨members, rfl, rfl⟩
    rfl

/-- A message that has a text or none. -/
def MessageShaped (message : Json) : Prop :=
  message.truthy = true → ∃ members, message = .obj members ∧
    ((field members "content").truthy = true → ∃ text, field members "content" = .str text)

/-- The choices that the token is read from. -/
def TextShaped (answer : List (String × Json)) : Prop :=
  (field answer "choices").truthy = true → ∃ choice rest,
    field answer "choices" = .arr (.obj choice :: rest) ∧ MessageShaped (field choice "message")

section

variable (difference : Json → Json → Py ℚ) (index : ℕ)

/-- Candidates whose logprobs can be ranked, the two greatest subtracted. -/
def Ranked (topLogprobs : Json) : Prop :=
  ∃ entries logprobs ranked first second rest margin, topLogprobs = .arr entries ∧
    entries.mapM (Json.item · "logprob") = .ok logprobs ∧
    sortedByKey (logprobs.map fun l => (l, ())) = .ok ranked ∧
      ranked.reverse = first :: second :: rest ∧ difference first.1 second.1 = .ok margin

def CandidatesShaped (topLogprobs : Json) : Prop :=
  topLogprobs.truthy = true → ∃ n, lengthOf topLogprobs = .ok n ∧
    (2 ≤ n → Ranked difference topLogprobs)

def ContentShaped (content : Json) : Prop :=
  content.truthy = true → ∃ n, lengthOf content = .ok n ∧
    (index < n → ∃ tokens token, content = .arr tokens ∧ tokens[index]? = some token ∧
      (token.truthy = true → ∃ members, token = .obj members ∧
        CandidatesShaped difference (field members "top_logprobs")))

def LogprobsShaped (logprobs : Json) : Prop :=
  logprobs.truthy = true → ∃ members, logprobs = .obj members ∧
    ContentShaped difference index (field members "content")

/-- The choices that the margin is read from. -/
def MarginShaped (answer : List (String × Json)) : Prop :=
  (field answer "choices").truthy = true → ∃ e rest, field answer "choices" = .arr (e :: rest) ∧
    (e.truthy = true → ∃ choice, e = .obj choice ∧
      LogprobsShaped difference index (field choice "logprobs"))

variable {difference index}

end

end CapsuleMesh.Adjudication
