import Turnstile.Gateway
import Turnstile.Proofs.Json.RoundTrip
import Turnstile.Proofs.Message.Response

/-!
# One request

A request is charged once, to the key it has when its id is assigned, whatever the
machine that charges it (`answer_eq`). With addresses looked up in the standard way
this is the key of the request as it was sent (`keyOf_assignId`). What the handler
tells of an admitted request is read back from the body (`ofChars?_description`), and
neither finding a key nor charging it tells whose request it was.
-/

namespace Turnstile

namespace Headers

/-- A field put at the end is not the first one under another name. -/
theorem first?_append {name other : String} (different : other ≠ name) (headers : Headers)
    (value : List UInt8) : first? (headers ++ [⟨name, value⟩]) other = headers.first? other := by
  simp [first?, List.find?_append, Ne.symm different]

end Headers

/-- The id that a request is given changes no other header. -/
theorem Request.first?_assignId {name : String} (different : name ≠ idHeader) (fresh : String)
    (request : Request) :
    (request.assignId fresh).headers.first? name = request.headers.first? name := by
  unfold assignId
  split
  · rfl
  · have lower : idHeader.toLower = idHeader := by decide +kernel
    have named : Header.ofName idHeader (Header.bytesOf fresh) =
        ⟨idHeader, Header.bytesOf fresh⟩ := by
      rw [Header.ofName, lower]
    simp only [named]
    exact Headers.first?_append different _ _

theorem Request.peer_assignId (fresh : String) (request : Request) :
    (request.assignId fresh).peer = request.peer := by
  unfold assignId
  split <;> rfl

namespace Caller

/-- The key of a request. -/
def Policy.keyOf (policy : Policy) (request : Request) : String :=
  (policy.key request.headers request.peer).1

/-- The id that a request is given has no part in its key. -/
theorem Policy.keyOf_assignId {policy : Policy} (standard : policy.address = addressKey)
    (fresh : String) (request : Request) :
    policy.keyOf (request.assignId fresh) = policy.keyOf request := by
  have first (name : String) (different : name ≠ Request.idHeader) :=
    Request.first?_assignId different fresh request
  simp only [keyOf, key, headerText?, hasOpaqueCredential, standard, addressKey,
    forwardedAddress?, Headers.text?, Request.peer_assignId, first "authorization" (by decide),
    first "x-forwarded-for" (by decide), first "x-real-ip" (by decide),
    first "remote-addr" (by decide)]

end Caller

/-! ## Events -/

/-- Whether an event is that of a request that reached its handler. -/
def Event.isAdmission : Event → Bool
  | .requestAdmitted .. => true
  | _ => false

/-- The id that an event tells of its request. -/
def Event.requestId? : Event → Option String
  | .limitExceeded requestId .. => some requestId
  | .requestAdmitted requestId .. => some requestId
  | _ => none

/-- An event without the id of a request is no admission. -/
theorem Event.isAdmission_of_requestId? {event : Event} (nameless : event.requestId? = none) :
    event.isAdmission = false := by
  cases event with
  | requestAdmitted requestId method path => cases nameless
  | _ => rfl

/-- What reading a token reports is a failure. -/
theorem Token.exists_failure_of_mem_events {token : String} {event : Event}
    (member : event ∈ events token) : ∃ failure : Failure, event ∈ failure.events := by
  unfold events at member
  split at member
  · cases member
  · next failure _ => exact ⟨failure, member⟩

/-- What finding a key reports is the failure of a token. -/
theorem Caller.Policy.exists_failure_of_mem_key {policy : Policy} {headers : Headers}
    {peer : Option SocketAddress} {event : Event}
    (member : event ∈ (policy.key headers peer).2) :
    ∃ failure : Token.Failure, event ∈ failure.events := by
  unfold key at member
  split at member
  · unfold credentialKey at member
    split at member
    · exact Token.exists_failure_of_mem_events member
    · cases member
  · split at member
    · cases member
    · cases member

/-- Finding a key tells no request. -/
theorem Caller.Policy.requestId?_of_mem_key {policy : Policy} {headers : Headers}
    {peer : Option SocketAddress} {event : Event}
    (member : event ∈ (policy.key headers peer).2) : event.requestId? = none := by
  obtain ⟨failure, member⟩ := exists_failure_of_mem_key member
  cases failure with
  | blank => cases member
  | shape _ | encoding | notObject | malformed =>
      rw [List.mem_singleton.mp member]
      rfl

/-- What charging a key reports is that a bucket was made. -/
theorem Limiter.exists_bucketCreated_of_mem_consume {limiter : Limiter} {key : String}
    {now : UInt64} {event : Event} (member : event ∈ (limiter.consume key now).2.1) :
    ∃ kind limits, event = .bucketCreated kind limits := by
  change event ∈ (limiter.meet key now).2 at member
  unfold meet at member
  split at member
  · cases member
  · exact ⟨_, _, List.mem_singleton.mp member⟩

/-- Charging a key tells no request. -/
theorem Limiter.requestId?_of_mem_consume {limiter : Limiter} {key : String} {now : UInt64}
    {event : Event} (member : event ∈ (limiter.consume key now).2.1) :
    event.requestId? = none := by
  obtain ⟨kind, limits, rfl⟩ := exists_bucketCreated_of_mem_consume member
  rfl

namespace Gateway

/-! ## The description -/

/-- What the handler tells of an admitted request. -/
def description (request : Request) (key : String) (decision : Decision) : Json :=
  .object
    [("method", .text request.method), ("path", .text request.target.shownPath),
      ("rate_limit", .object
        [("key", .text key), ("limit", .integer decision.limit.toNat),
          ("remaining", .integer decision.remaining.toNat)]),
      ("request_id", (request.id?.map Json.text).getD .null), ("status", .text "ok")]

theorem describe_eq (request : Request) (key : String) (decision : Decision) :
    describe request (some ⟨key, decision⟩) =
      (.ofJson 200 (description request key decision),
        [.requestAdmitted request.shownId request.method request.target.shownPath]) := by
  unfold describe description
  cases request.id? <;> rfl

/-- What the handler tells of a request, beside what it tells of the charge. -/
def descriptionMembers (request : Request) (rateLimit : Json) : List (String × Json) :=
  [("method", .text request.method), ("path", .text request.target.shownPath),
    ("rate_limit", rateLimit), ("request_id", (request.id?.map Json.text).getD .null),
    ("status", .text "ok")]

/-- Every text in a description, whoever chose it, is read back as it was. -/
theorem ofChars?_descriptionMembers (request : Request) {rateLimit : Json}
    (readable : Json.Readable 126 rateLimit) :
    Json.ofChars? (Json.object (descriptionMembers request rateLimit)).render.toList =
      some (.object (descriptionMembers request rateLimit)) := by
  have id : Json.Readable 126 ((request.id?.map Json.text).getD .null) := by
    cases request.id? with
    | none => exact .null
    | some id => exact .text
  refine Json.ofChars?_render (.object (by simp [descriptionMembers]) ?_)
  simp only [descriptionMembers, List.forall_mem_cons, List.not_mem_nil, false_imp_iff,
    implies_true, and_true]
  exact ⟨.text, .text, readable, id, .text⟩

theorem readable_describe (charge : Charge) : Json.Readable 126 charge.describe := by
  have integer : ∀ value : UInt64, Json.Readable 125 (.integer value.toNat) := by
    intro value
    have high := value.toNat_lt
    exact .integer (by omega) (by omega)
  refine .object (by simp) ?_
  simp only [List.forall_mem_cons, List.not_mem_nil, false_imp_iff, implies_true, and_true]
  exact ⟨.text, integer _, integer _⟩

theorem ofChars?_description (request : Request) (key : String) (decision : Decision) :
    Json.ofChars? (description request key decision).render.toList =
      some (description request key decision) :=
  ofChars?_descriptionMembers request (readable_describe ⟨key, decision⟩)

/-! ## The layers -/

variable {State : Type}

/-- An id changes nothing but the headers of a request and its id. -/
theorem assignId_kept (fresh : String) (request : Request) :
    (request.assignId fresh).method = request.method ∧
      (request.assignId fresh).target = request.target := by
  unfold Request.assignId
  split
  · exact ⟨rfl, rfl⟩
  · exact ⟨rfl, rfl⟩

/-- A request is charged once and answered by the decision. -/
theorem answer_eq (throttle : Throttle State) (fresh : String) (request : Request)
    (state : State) :
    let arrived := request.assignId fresh
    let key := throttle.policy.keyOf arrived
    let charged := throttle.charger.charge key state
    let decided := decide arrived key charged.1
    answer (some throttle) fresh request state =
      ((identify arrived decided.1).forMethod arrived.method,
        (throttle.policy.key arrived.headers arrived.peer).2 ++ charged.2.1 ++ decided.2,
        charged.2.2) := rfl

@[simp] theorem identify_status (request : Request) (response : Response) :
    (identify request response).status = response.status := by
  unfold identify
  split
  · exact Response.withDefault_status _ _ response
  · rfl

@[simp] theorem identify_body (request : Request) (response : Response) :
    (identify request response).body = response.body := by
  unfold identify
  split
  · exact Response.withDefault_body _ _ response
  · rfl

/-- The values that the layers around the limiter leave under a name. -/
theorem texts_layers {name : String} (notLength : name ≠ "content-length")
    (notId : name ≠ Request.idHeader) (request : Request) (response : Response)
    (method : String) :
    ((identify request response).forMethod method).texts name = response.texts name := by
  rw [Response.texts_forMethod notLength]
  unfold identify
  split
  · exact Response.texts_withDefault notId _ response
  · rfl

/-- A request that is let through goes on to the routes. -/
theorem decide_eq_route {decision : Decision} (admitted : decision.isAdmitted = true)
    (request : Request) (key : String) :
    decide request key decision =
      ((route request (some ⟨key, decision⟩)).1,
        [.checkPassed (Key.kind key) decision.remaining] ++
          (route request (some ⟨key, decision⟩)).2) := by
  unfold decide
  rw [admitted]
  rfl

/-- A request that is let through reaches the handler if a route serves its target. -/
theorem decide_of_admitted {decision : Decision} (admitted : decision.isAdmitted = true)
    (request : Request) (key : String) :
    decide request key decision =
      if request.target.isRouted then
        (.ofJson 200 (description request key decision),
          [.checkPassed (Key.kind key) decision.remaining,
            .requestAdmitted request.shownId request.method request.target.shownPath])
      else (.notFound, [.checkPassed (Key.kind key) decision.remaining]) := by
  rw [decide_eq_route admitted, route]
  split
  · rw [describe_eq]
    rfl
  · rfl

/-- A request that is refused goes no further. -/
theorem decide_of_refused {decision : Decision} (refused : decision.isAdmitted = false)
    (request : Request) (key : String) :
    decide request key decision =
      (.refusal decision,
        [.limitExceeded request.shownId (Key.kind key) (Key.display key) decision.limit
          decision.remaining]) := by
  unfold decide
  rw [refused]
  rfl

end Gateway

end Turnstile
