import Mathlib.Data.Finset.Insert
import CapsuleMesh.Sidecar.Attestation

/-!
# Client nonces

`_resolve_client_nonce` of `capsule_sidecar.py` and the requests that come to it.  The nonces
seen so far are kept for the lifetime of the node, so which label a request gets depends on
all requests before it.
-/

namespace CapsuleMesh.Sidecar

open Python

def CLIENT_NONCE_HEADER : String := "X-Capsule-Client-Nonce"
def CLIENT_NONCE_ORIGIN_HEADER : String := "x-capsule-nonce-origin"
def CLIENT_NONCE_ORIGIN_LOCAL_INGRESS : String := "local_ingress"

/-- `client_nonce_source`. -/
inductive NonceSource where
  | clientSupplied
  | clientSuppliedReplayed
  | localIngress
  | sidecarGeneratedFallback
deriving DecidableEq

/-- A label under which the nonce counts as seen for the first time. -/
def NonceSource.fresh (source : NonceSource) : Bool :=
  source = .clientSupplied || source = .localIngress

/-- A POST request, with what `uuid.uuid4().hex` returns while it is handled. -/
structure ChatRequest where
  path : String
  headers : Headers
  rawBody : Bytes
  uuidHex : String

/-- `_resolve_client_nonce`, with `seen_client_nonces` before and after it. -/
def resolveClientNonce (seen : Finset String) (headers : Headers) (uuidHex : String) :
    Finset String × String × NonceSource :=
  match headers.nonEmpty CLIENT_NONCE_HEADER.toLower with
  | some clientNonce =>
      if clientNonce ∈ seen then (seen, clientNonce, .clientSuppliedReplayed)
      else if headers CLIENT_NONCE_ORIGIN_HEADER = some CLIENT_NONCE_ORIGIN_LOCAL_INGRESS then
        (insert clientNonce seen, clientNonce, .localIngress)
      else (insert clientNonce seen, clientNonce, .clientSupplied)
  | none => (seen, uuidHex, .sidecarGeneratedFallback)

section

variable (loads : Bytes → Py Json)

/-- Another path is proxied, a body that is not JSON is answered with 400, and on a body that
is no object `request_json.get("stream")` raises.  Both handlers resolve the nonce. -/
def ChatRequest.resolves (request : ChatRequest) : Bool :=
  request.path = "/v1/chat/completions" &&
    match loads request.rawBody with
    | .ok requestJson => (requestJson.get "stream").toBool
    | .error _ => false

/-- What `do_POST` does with the nonces; a request that resolves none gets no label. -/
def postNonce (seen : Finset String) (request : ChatRequest) :
    Finset String × Option (String × NonceSource) :=
  if request.resolves loads then
    let resolved := resolveClientNonce seen request.headers request.uuidHex
    (resolved.1, some resolved.2)
  else (seen, none)

/-- The labels of requests that are handled one after another. -/
def nonceLabels : Finset String → List ChatRequest → List (Option (String × NonceSource))
  | _, [] => []
  | seen, request :: requests =>
      (postNonce loads seen request).2 :: nonceLabels (postNonce loads seen request).1 requests

/-- The nonce that the client sent with a request in which it is resolved. -/
def ChatRequest.suppliedNonce (request : ChatRequest) : Option String :=
  if request.resolves loads then request.headers.nonEmpty CLIENT_NONCE_HEADER.toLower else none

end

/-- The label says that this nonce is seen for the first time. -/
def freshLabel (nonce : String) (label : Option (String × NonceSource)) : Bool :=
  label.any fun resolved => resolved.1 = nonce && resolved.2.fresh

variable {loads : Bytes → Py Json}

/-- A request whose client sent no nonce leaves the nonces alone and is not labelled fresh. -/
theorem postNonce_of_none {seen : Finset String} {request : ChatRequest}
    (h : request.suppliedNonce loads = none) :
    (postNonce loads seen request).1 = seen ∧
      ∀ nonce, freshLabel nonce (postNonce loads seen request).2 = false := by
  unfold ChatRequest.suppliedNonce at h
  unfold postNonce
  split
  next hresolves =>
    rw [if_pos hresolves] at h
    simp [resolveClientNonce, h, freshLabel, NonceSource.fresh]
  next => simp [freshLabel]

/-- A request with a nonce of the client is labelled by whether this nonce was seen before,
and from then on it was. -/
theorem postNonce_of_some (seen : Finset String) {request : ChatRequest} {nonce : String}
    (h : request.suppliedNonce loads = some nonce) :
    (postNonce loads seen request).1 = insert nonce seen ∧
      ∃ source, (postNonce loads seen request).2 = some (nonce, source) ∧
        (source = .clientSuppliedReplayed ↔ nonce ∈ seen) ∧
        (source.fresh = true ↔ nonce ∉ seen) := by
  unfold ChatRequest.suppliedNonce at h
  unfold postNonce
  split at h
  next hresolves =>
    rw [if_pos hresolves]
    by_cases hseen : nonce ∈ seen
    · refine ⟨?_, .clientSuppliedReplayed, ?_, ?_⟩
      · simp [resolveClientNonce, h, hseen]
      · simp [resolveClientNonce, h, hseen]
      · simp [NonceSource.fresh, hseen]
    · by_cases horigin :
        request.headers CLIENT_NONCE_ORIGIN_HEADER = some CLIENT_NONCE_ORIGIN_LOCAL_INGRESS
      · refine ⟨?_, .localIngress, ?_, ?_⟩
        · simp [resolveClientNonce, h, hseen, horigin]
        · simp [resolveClientNonce, h, hseen, horigin]
        · simp [NonceSource.fresh, hseen]
      · refine ⟨?_, .clientSupplied, ?_, ?_⟩
        · simp [resolveClientNonce, h, hseen, horigin]
        · simp [resolveClientNonce, h, hseen, horigin]
        · simp [NonceSource.fresh, hseen]
  next => cases h

/-! ## Runs -/

/-- The nonces that were seen after a run. -/
def seenAfter (loads : Bytes → Py Json) (seen : Finset String) (requests : List ChatRequest) :
    Finset String :=
  requests.foldl (fun seen request => (postNonce loads seen request).1) seen

theorem mem_seenAfter {seen : Finset String} {requests : List ChatRequest} {nonce : String} :
    nonce ∈ seenAfter loads seen requests ↔
      nonce ∈ seen ∨ ∃ request ∈ requests, request.suppliedNonce loads = some nonce := by
  induction requests generalizing seen with
  | nil => simp [seenAfter]
  | cons request requests ih =>
      rw [seenAfter, List.foldl_cons, ← seenAfter, ih]
      cases h : request.suppliedNonce loads with
      | none =>
        rw [(postNonce_of_none h).1]
        simp [h]
      | some supplied =>
        rw [(postNonce_of_some _ h).1, Finset.mem_insert]
        simp only [List.exists_mem_cons_iff, h, Option.some.injEq, eq_comm]
        tauto

theorem nonceLabels_append (seen : Finset String) (before after : List ChatRequest) :
    nonceLabels loads seen (before ++ after) =
      nonceLabels loads seen before ++ nonceLabels loads (seenAfter loads seen before) after := by
  induction before generalizing seen with
  | nil => rfl
  | cons request before ih =>
      rw [List.cons_append, nonceLabels, ih]
      rfl

theorem length_nonceLabels (seen : Finset String) (requests : List ChatRequest) :
    (nonceLabels loads seen requests).length = requests.length := by
  induction requests generalizing seen with
  | nil => rfl
  | cons request requests ih => simp [nonceLabels, ih]

/-- A nonce that was seen is not labelled fresh again, and one that was not at most once. -/
theorem countP_freshLabel_le (nonce : String) (seen : Finset String)
    (requests : List ChatRequest) :
    (nonceLabels loads seen requests).countP (freshLabel nonce) ≤
      if nonce ∈ seen then 0 else 1 := by
  induction requests generalizing seen with
  | nil => simp [nonceLabels]
  | cons request requests ih =>
      rw [nonceLabels, List.countP_cons]
      cases h : request.suppliedNonce loads with
      | none =>
        rw [(postNonce_of_none h).1, (postNonce_of_none h).2 nonce]
        exact ih seen
      | some supplied =>
        obtain ⟨hseen, source, hlabel, -, hfresh⟩ := postNonce_of_some seen h
        rw [hseen, hlabel]
        by_cases heq : supplied = nonce
        · subst heq
          have hrest := ih (insert supplied seen)
          rw [if_pos (Finset.mem_insert_self supplied seen)] at hrest
          by_cases hmem : supplied ∈ seen
          · have : source.fresh = false := by simpa [hmem] using hfresh
            simpa [freshLabel, this, hmem] using hrest
          · have : source.fresh = true := hfresh.mpr hmem
            simpa [freshLabel, this, hmem] using hrest
        · have hrest := ih (insert supplied seen)
          simp only [Finset.mem_insert, Ne.symm heq, false_or] at hrest
          simpa [freshLabel, heq] using hrest

/-- In every run from the start of a node each nonce is labelled fresh at most once, and the
label of a request that brings a nonce says whether an earlier request brought it too. -/
theorem nonceLabels_fresh_once (loads : Bytes → Py Json) (requests : List ChatRequest) :
    (∀ nonce, (nonceLabels loads ∅ requests).countP (freshLabel nonce) ≤ 1) ∧
      ∀ before request after nonce, requests = before ++ request :: after →
        request.suppliedNonce loads = some nonce →
          ∃ source,
            (nonceLabels loads ∅ requests)[before.length]? = some (some (nonce, source)) ∧
            (source = .clientSuppliedReplayed ↔
              ∃ earlier ∈ before, earlier.suppliedNonce loads = some nonce) ∧
            (source.fresh = true ↔
              ∀ earlier ∈ before, earlier.suppliedNonce loads ≠ some nonce) := by
  constructor
  · intro nonce
    apply (countP_freshLabel_le nonce ∅ requests).trans
    simp
  · rintro before request after nonce rfl hnonce
    obtain ⟨-, source, hlabel, hreplayed, hfresh⟩ :=
      postNonce_of_some (seenAfter loads ∅ before) hnonce
    rw [mem_seenAfter] at hreplayed hfresh
    refine ⟨source, ?_, by simpa using hreplayed, by simpa using hfresh⟩
    rw [nonceLabels_append, List.getElem?_append_right (by rw [length_nonceLabels]),
      length_nonceLabels, Nat.sub_self, nonceLabels, hlabel]
    rfl

end CapsuleMesh.Sidecar
