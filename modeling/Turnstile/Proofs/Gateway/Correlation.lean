import Turnstile.Proofs.Gateway.Answer

/-!
# Answers tell the id of their request

A request goes by the first id that its sender gave it, or else by a fresh one
(`Request.carriedId`). Its answer carries this id in a header of its own, whatever the layers
below have made of the request (`values_identify`); the one event that tells of a request
shows it, and so does the description of an admitted one. Bytes that are no text leave a dash
in the event and nothing in the description.
-/

namespace Turnstile

/-! ## The id of a request -/

namespace Request

/-- The id that a request goes by: the first that its sender gave it, or else a fresh one. -/
def carriedId (fresh : String) (request : Request) : List UInt8 :=
  request.sentId?.getD (Header.bytesOf fresh)

/-- Once its id is assigned, a request has it in its header. -/
theorem sentId?_assignId (fresh : String) (request : Request) :
    (request.assignId fresh).sentId? = some (request.carriedId fresh) := by
  unfold assignId carriedId
  split
  · next sent found =>
      rw [found]
      exact found
  · next missing =>
      have absent : request.headers.find? (fun header => header.name = idHeader) = none :=
        Option.map_eq_none_iff.mp missing
      have lower : idHeader.toLower = idHeader := by decide +kernel
      rw [missing]
      simp [sentId?, Headers.first?, List.find?_append, absent, Header.ofName, lower]

/-- A request that comes without an assigned id shows the one it goes by. -/
theorem id?_assignId {request : Request} (arriving : request.assignedId = none)
    (fresh : String) :
    (request.assignId fresh).id? = Header.text? (request.carriedId fresh) := by
  unfold assignId carriedId
  split
  · next sent found =>
      rw [arriving, found]
      rfl
  · next missing =>
      rw [missing]
      rfl

end Request

/-- What an event shows of an id: a dash for one that is not text. -/
def shownId (id : List UInt8) : String :=
  (Header.text? id).getD "-"

/-- A charger that reports nothing of requests: it sees no more of them than their keys. -/
def Charger.IsImpersonal {State : Type} (charger : Charger State) : Prop :=
  ∀ key state, ∀ event ∈ (charger.charge key state).2.1, event.requestId? = none

theorem TimedLimiter.charger_isImpersonal : charger.IsImpersonal :=
  fun _ _ _ member => Limiter.requestId?_of_mem_consume member

/-- Whether an event tells of a request. -/
def Event.tellsRequest (event : Event) : Bool :=
  event.requestId?.isSome

theorem Event.filter_tellsRequest_append {before : List Event}
    (impersonal : ∀ event ∈ before, event.requestId? = none) (events : List Event) :
    (before ++ events).filter Event.tellsRequest = events.filter Event.tellsRequest := by
  have nothing : before.filter Event.tellsRequest = [] := by
    rw [List.filter_eq_nil_iff]
    intro event member
    simp [tellsRequest, impersonal event member]
  rw [List.filter_append, nothing, List.nil_append]

namespace Gateway

/-! ## The header of an answer -/

/-- A response without an id gets the one that its request goes by, and no other. -/
theorem values_identify {response : Response}
    (without : response.values Request.idHeader = []) (fresh : String) (request : Request)
    (method : String) :
    ((identify (request.assignId fresh) response).forMethod method).values Request.idHeader =
      [request.carriedId fresh] := by
  rw [Response.values_forMethod (by decide), identify, request.sentId?_assignId]
  exact Response.values_withDefault_self without _

theorem values_route (request : Request) (charge : Option Charge) :
    (route request charge).1.values Request.idHeader = [] := by
  unfold route describe
  split
  · rfl
  · rfl

theorem values_decide (request : Request) (key : String) (decision : Decision) :
    (decide request key decision).1.values Request.idHeader = [] := by
  unfold decide
  split
  · exact values_route request _
  · unfold Response.refusal
    split <;> rfl

/-! ## What is told of a request -/

/-- What an answer and its events tell of a request that goes by an id. -/
structure Told (request : Request) (id : List UInt8) (response : Response)
    (events : List Event) : Prop where
  /-- A request is described, served by no route, or refused. -/
  status : response.status = 200 ∨ response.status = 404 ∨ response.status = 429
  /-- Of a request that is described, one event tells, and it shows the id. -/
  admitted : response.status = 200 → events.filter Event.tellsRequest =
    [.requestAdmitted (shownId id) request.method request.target.shownPath]
  /-- Of a request that is refused, one event tells, and it shows the id. -/
  refused : response.status = 429 → ∃ kind identifier limit remaining,
    events.filter Event.tellsRequest =
      [.limitExceeded (shownId id) kind identifier limit remaining]
  /-- Of a request that no route serves, no event tells. -/
  unrouted : response.status = 404 → events.filter Event.tellsRequest = []
  /-- The description of a request holds the id as text, and `null` for one that is no text
  and for no other. -/
  body : response.status = 200 → request.method ≠ "HEAD" → request.method ≠ "CONNECT" →
    ∃ members, Json.ofChars? response.body.toList = some (.object members) ∧
      (∀ text, Header.text? id = some text →
        Json.member? members "request_id" = some (.text text)) ∧
      (Json.member? members "request_id" = some .null ↔ Header.text? id = none)

namespace Told

variable {request arrived : Request} {id : List UInt8} {response : Response}
  {events before : List Event}

/-- Events that tell of no request change nothing. -/
theorem after (told : Told request id response events)
    (impersonal : ∀ event ∈ before, event.requestId? = none) :
    Told request id response (before ++ events) := by
  have same := Event.filter_tellsRequest_append impersonal events
  exact { told with
    admitted := fun status => same.trans (told.admitted status)
    refused := fun status => by
      rw [same]
      exact told.refused status
    unrouted := fun status => same.trans (told.unrouted status) }

/-- The layers around the limiter leave what is told. -/
theorem layers (told : Told request id response events) :
    Told request id ((identify arrived response).forMethod request.method) events := by
  have status : ((identify arrived response).forMethod request.method).status =
      response.status := by
    rw [Response.forMethod_status, identify_status]
  refine ⟨?_, ?_, ?_, ?_, ?_⟩
  · rw [status]
    exact told.status
  · rw [status]
    exact told.admitted
  · rw [status]
    exact told.refused
  · rw [status]
    exact told.unrouted
  · intro described notHead notConnect
    rw [status] at described
    rw [Response.forMethod_body _ notHead notConnect, identify_body]
    exact told.body described notHead notConnect

end Told

section

variable {request : Request} {id : List UInt8} (named : request.id? = Header.text? id)
include named

theorem shownId_of_named : request.shownId = shownId id := by
  rw [Request.shownId, named, shownId]

theorem told_describe (charge : Option Charge) :
    Told request id (describe request charge).1 (describe request charge).2 where
  status := .inl rfl
  admitted _ := by
    rw [← shownId_of_named named]
    rfl
  refused refused := by cases refused
  unrouted missing := by cases missing
  body _ _ _ := by
    have readable : ∃ rateLimit, Json.Readable 126 rateLimit ∧ (describe request charge).1.body =
        (Json.object (descriptionMembers request rateLimit)).render := by
      cases charge with
      | none =>
          refine ⟨.null, .null, ?_⟩
          unfold describe descriptionMembers
          cases request.id? <;> rfl
      | some charge =>
          refine ⟨charge.describe, readable_describe charge, ?_⟩
          unfold describe descriptionMembers
          cases request.id? <;> rfl
    obtain ⟨rateLimit, readable, body⟩ := readable
    have member : Json.member? (descriptionMembers request rateLimit) "request_id" =
        some (((Header.text? id).map Json.text).getD .null) := by
      rw [← named]
      rfl
    refine ⟨descriptionMembers request rateLimit, ?_, ?_, ?_⟩
    · rw [body]
      exact ofChars?_descriptionMembers request readable
    · intro text reading
      rw [member, reading]
      rfl
    · rw [member]
      cases Header.text? id <;> simp

theorem told_route (charge : Option Charge) :
    Told request id (route request charge).1 (route request charge).2 := by
  unfold route
  split
  · exact told_describe named charge
  · exact {
      status := .inr (.inl rfl)
      admitted := nofun
      refused := nofun
      unrouted := fun _ => rfl
      body := nofun }

theorem told_decide (key : String) (decision : Decision) :
    Told request id (decide request key decision).1 (decide request key decision).2 := by
  cases admitted : decision.isAdmitted with
  | true =>
      rw [decide_eq_route admitted]
      refine (told_route named _).after fun event member => ?_
      rw [List.mem_singleton.mp member]
      rfl
  | false =>
      rw [decide_of_refused admitted, shownId_of_named named]
      exact {
        status := .inr (.inr rfl)
        admitted := nofun
        refused := fun _ => ⟨_, _, _, _, rfl⟩
        unrouted := nofun
        body := nofun }

end

/-- How an answer and its events go together with the request. -/
structure Correlated (fresh : String) (request : Request) (response : Response)
    (events : List Event) : Prop where
  /-- The response carries the id of the request byte for byte, and no other. -/
  header : response.values Request.idHeader = [request.carriedId fresh]
  /-- Body and events show the same id, if none was assigned before the request came. -/
  told : request.assignedId = none → Told request (request.carriedId fresh) response events
  /-- A dash is shown of an id that is no text, and of the text that is a dash. -/
  dash : shownId (request.carriedId fresh) = "-" ↔
    Header.text? (request.carriedId fresh) = none ∨
      Header.text? (request.carriedId fresh) = some "-"
  /-- A printable id that is made for a request without one is text. -/
  made : request.sentId? = none → (∀ c ∈ fresh.toList, Header.IsPrintable c) →
    Header.text? (request.carriedId fresh) = some fresh

/-- Every answer can be told by the id of its request, whatever the limiter decides and
whether a route serves the request or not. -/
theorem answer_correlated {State : Type} (throttle : Option (Throttle State))
    (impersonal : ∀ limited ∈ throttle, limited.charger.IsImpersonal)
    (fresh : String) (request : Request) (state : State) :
    Correlated fresh request (answer throttle fresh request state).1
      (answer throttle fresh request state).2.1 where
  header := by
    cases throttle with
    | none => exact values_identify (values_route _ none) fresh request _
    | some limited =>
        rw [answer_eq]
        exact values_identify (values_decide _ _ _) fresh request _
  told arriving := by
    have named := Request.id?_assignId arriving fresh
    obtain ⟨method, target⟩ := assignId_kept fresh request
    have shown : ∀ {response : Response} {events : List Event},
        Told (request.assignId fresh) (request.carriedId fresh) response events →
          Told request (request.carriedId fresh) response events := by
      intro response events told
      exact { told with
        admitted := method ▸ target ▸ told.admitted
        body := method ▸ told.body }
    cases throttle with
    | none => exact shown (told_route named none).layers
    | some limited =>
        rw [answer_eq]
        refine shown (((told_decide named _ _).layers).after fun event member => ?_)
        rcases List.mem_append.mp member with found | charged
        · exact Caller.Policy.requestId?_of_mem_key found
        · exact impersonal limited rfl _ _ event charged
  dash := by
    unfold shownId
    cases Header.text? (request.carriedId fresh) with
    | none => simp
    | some text => simp
  made missing printable := by
    rw [Request.carriedId, missing, Option.getD_none]
    exact Header.text?_bytesOf printable

/-- Of two ids that are sent, the first is carried back even if it is no text, by the
description and by the refusal that follows it. -/
theorem answer_correlated_of_opaque_id :
    let limits : Limits := ⟨1, 1⟩
    let tiers : Tiers := ⟨limits, limits, ⟨by decide, by decide⟩, ⟨by decide, by decide⟩⟩
    let throttle : Throttle TimedLimiter := ⟨{ resolver := .standard }, TimedLimiter.charger⟩
    let request : Request :=
      { method := "GET", target := .path "/", headers :=
          [.ofName "X-Request-Id" [255], .ofName "X-Request-Id" [98]], peer := none }
    let first := answer (some throttle) "fresh" request ⟨0, .ofTiers tiers⟩
    let second := answer (some throttle) "fresh" request first.2.2
    throttle.charger.IsImpersonal ∧ request.assignedId = none ∧
      first.1.values "x-request-id" = [[255]] ∧
      first.2.1.filter Event.tellsRequest = [.requestAdmitted "-" "GET" "/"] ∧
      second.1.values "x-request-id" = [[255]] ∧
      ∃ kind identifier limit remaining, second.2.1.filter Event.tellsRequest =
        [.limitExceeded "-" kind identifier limit remaining] := by
  intro limits tiers throttle request first second
  have impersonal : ∀ limited ∈ some throttle, limited.charger.IsImpersonal := by
    rintro limited ⟨rfl⟩
    exact TimedLimiter.charger_isImpersonal
  have carried : request.carriedId "fresh" = [255] := by decide +kernel
  have shown : shownId [255] = "-" := by decide
  have correlated := answer_correlated (some throttle) impersonal "fresh" request
    ⟨0, .ofTiers tiers⟩
  have correlatedNext := answer_correlated (some throttle) impersonal "fresh" request first.2.2
  have admitted := (correlated.told rfl).admitted (by decide +kernel)
  have refused := (correlatedNext.told rfl).refused (by decide +kernel)
  rw [carried, shown] at admitted refused
  exact ⟨TimedLimiter.charger_isImpersonal, rfl, carried ▸ correlated.header, admitted,
    carried ▸ correlatedNext.header, refused⟩

end Gateway

end Turnstile
