import Turnstile.Proofs.Gateway.Answer
import Turnstile.Proofs.Limiter.Isolation

/-!
# The gateway refines the limiter

Seen from its limiter, a gateway that answers requests is a run of charges: one for
each request, on the key of the request (`Arrival.action`). `Reflects` says what an
answer tells of its charge, and `serve_refines` that every answer of every run does, and
that the limiter is left as the charges alone leave it.
-/

namespace Turnstile.Gateway

/-- What may happen to a gateway: its clock moves, or a request comes in, with the id it
is given if it has none. -/
inductive Arrival where
  | advance (elapsed : UInt64)
  | set (reading : UInt64)
  | request (request : Request) (fresh : String)

/-- A request that has been answered. -/
structure Served where
  request : Request
  fresh : String
  response : Response
  events : List Event

/-- The request of an arrival, and the id it is given. -/
def Arrival.sent? : Arrival → Option (Request × String)
  | .request sent fresh => some (sent, fresh)
  | _ => none

/-- What an arrival is to the limiter: a request is a charge to its key. -/
def Arrival.action (policy : Caller.Policy) : Arrival → TimedLimiter.Action
  | .advance elapsed => .advance elapsed
  | .set reading => .set reading
  | .request sent fresh => .consume (policy.keyOf (sent.assignId fresh))

/-- Arrivals one after another, the clock standing still within a request. -/
def serve (policy : Caller.Policy) (timed : TimedLimiter) :
    List Arrival → List Served × TimedLimiter
  | [] => ([], timed)
  | .advance elapsed :: rest => serve policy (timed.step (.advance elapsed)).2 rest
  | .set reading :: rest => serve policy (timed.step (.set reading)).2 rest
  | .request request fresh :: rest =>
      let (response, events, next) :=
        answer (some ⟨policy, TimedLimiter.charger⟩) fresh request timed
      let (others, last) := serve policy next rest
      (⟨request, fresh, response, events⟩ :: others, last)

/-- An answered request beside the charge that was made for it. -/
structure Reflects (policy : Caller.Policy) (tiers : Tiers) (served : Served)
    (charge : String × Decision) : Prop where
  /-- The charge is on the key that the request has on its arrival. -/
  key : charge.1 = policy.keyOf (served.request.assignId served.fresh)
  /-- With the standard look at addresses, it is the key of the request as it was sent. -/
  sent : policy.address = Caller.addressKey → charge.1 = policy.keyOf served.request
  limit : charge.2.limit = (tiers.limitsFor charge.1).capacity
  /-- The status tells whether the charge was refused. -/
  status : served.response.status = 429 ↔ charge.2.isAdmitted = false
  /-- The handler is reached by the admitted requests that a route serves. -/
  handled : served.events.any Event.isAdmission =
    (charge.2.isAdmitted && served.request.target.isRouted)
  /-- A refusal tells the limit, that nothing is left, and to wait for one second. -/
  refusal : charge.2.isAdmitted = false →
    charge.2 = .refuse (tiers.limitsFor charge.1).capacity 0 1 ∧
      served.response.texts "x-ratelimit-limit" =
        [some (toString (tiers.limitsFor charge.1).capacity.toNat)] ∧
      served.response.texts "x-ratelimit-remaining" = [some "0"] ∧
      served.response.texts "retry-after" = [some "1"]
  /-- The body of an admitted request describes it and its charge. -/
  body : charge.2.isAdmitted = true → served.request.target.shownPath.toList.head? = some '/' →
    served.request.method ≠ "HEAD" → served.request.method ≠ "CONNECT" →
      served.response.status = 200 ∧
        Json.ofChars? served.response.body.toList =
          some (description (served.request.assignId served.fresh) charge.1 charge.2)

private theorem isRouted_of_head {target : Target}
    (path : target.shownPath.toList.head? = some '/') : target.isRouted = true := by
  unfold Target.isRouted
  cases characters : target.shownPath.toList with
  | nil =>
      rw [characters] at path
      cases path
  | cons c rest =>
      rw [characters] at path
      cases path
      rfl

/-- The events of an answer that are none of the handler's. -/
private theorem any_isAdmission_of_charge {policy : Caller.Policy} {request : Request}
    {limiter : Limiter} {key : String} {now : UInt64} :
    ((policy.key request.headers request.peer).2 ++ (limiter.consume key now).2.1).any
      Event.isAdmission = false := by
  rw [List.any_eq_false]
  intro event member
  rcases List.mem_append.mp member with found | charged
  · exact Bool.eq_false_iff.mp
      (Event.isAdmission_of_requestId? (Caller.Policy.requestId?_of_mem_key found))
  · exact Bool.eq_false_iff.mp
      (Event.isAdmission_of_requestId? (Limiter.requestId?_of_mem_consume charged))

section Decided

variable {policy : Caller.Policy} {tiers : Tiers} {request : Request} {fresh : String}
  {decision : Decision} {before : List Event}

private theorem reflects_of_admitted (admitted : decision.isAdmitted = true)
    (quiet : before.any Event.isAdmission = false) :
    let arrived := request.assignId fresh
    let key := policy.keyOf arrived
    let decided := decide arrived key decision
    decision.limit = (tiers.limitsFor key).capacity →
      Reflects policy tiers
        ⟨request, fresh, (identify arrived decided.1).forMethod arrived.method,
          before ++ decided.2⟩ (key, decision) := by
  intro arrived key decided limit
  obtain ⟨method, target⟩ := assignId_kept fresh request
  have notRefused : ¬decision.isAdmitted = false := by simp [admitted]
  have decidedEq : decided = _ := decide_of_admitted admitted arrived key
  refine ⟨rfl, fun standard => policy.keyOf_assignId standard fresh request, limit, ?_, ?_,
    fun refused => absurd refused notRefused, ?_⟩
  · simp only [Response.forMethod_status, identify_status, notRefused]
    rw [decidedEq]
    split
    · simp [Response.ofJson]
    · simp [Response.notFound]
  · simp only [List.any_append, quiet, admitted, Bool.false_or, Bool.true_and]
    rw [decidedEq, target]
    split
    · next routed => simp [Event.isAdmission, routed]
    · next unrouted => simp [Event.isAdmission, unrouted]
  · intro _ path notHead notConnect
    have routed : arrived.target.isRouted = true := by
      rw [target]
      exact isRouted_of_head path
    rw [if_pos routed] at decidedEq
    simp only [Response.forMethod_status, identify_status]
    rw [Response.forMethod_body _ (by rwa [method]) (by rwa [method]), identify_body, decidedEq]
    exact ⟨rfl, ofChars?_description arrived key decision⟩

private theorem reflects_of_refused (refused : decision.isAdmitted = false)
    (quiet : before.any Event.isAdmission = false) :
    let arrived := request.assignId fresh
    let key := policy.keyOf arrived
    let decided := decide arrived key decision
    decision = .refuse (tiers.limitsFor key).capacity 0 1 →
      Reflects policy tiers
        ⟨request, fresh, (identify arrived decided.1).forMethod arrived.method,
          before ++ decided.2⟩ (key, decision) := by
  intro arrived key decided decisionEq
  have notAdmitted : ¬decision.isAdmitted = true := by simp [refused]
  have decidedEq : decided = _ := decide_of_refused refused arrived key
  obtain ⟨limitText, remainingText, waitText⟩ := Response.texts_refusal decision
  refine ⟨rfl, fun standard => policy.keyOf_assignId standard fresh request, ?_, ?_, ?_,
    fun _ => ⟨decisionEq, ?_, ?_, ?_⟩, fun admitted => absurd admitted notAdmitted⟩
  · rw [decisionEq]
    rfl
  · simp only [Response.forMethod_status, identify_status, refused, iff_true]
    rw [decidedEq]
    rfl
  · simp only [List.any_append, quiet, refused, Bool.false_or, Bool.false_and]
    rw [decidedEq]
    rfl
  · rw [texts_layers (by decide) (by decide), decidedEq, limitText, decisionEq]
    rfl
  · have nothing : toString (0 : UInt64).toNat = "0" := by decide
    rw [texts_layers (by decide) (by decide), decidedEq, remainingText, decisionEq, ← nothing]
    rfl
  · have second : toString (1 : UInt64).toNat = "1" := by decide
    rw [texts_layers (by decide) (by decide), decidedEq, waitText, decisionEq, ← second]
    rfl

end Decided

/-- An answer tells of the charge that was made for it. -/
theorem answer_reflects {timed : TimedLimiter} (sound : timed.limiter.Sound)
    (policy : Caller.Policy) (request : Request) (fresh : String) :
    let key := policy.keyOf (request.assignId fresh)
    let answered := answer (some ⟨policy, TimedLimiter.charger⟩) fresh request timed
    answered.2.2 = (timed.step (.consume key)).2 ∧
      Reflects policy timed.limiter.tiers ⟨request, fresh, answered.1, answered.2.1⟩
        (key, (timed.limiter.consume key timed.now).1) := by
  intro key answered
  have answeredEq := answer_eq ⟨policy, TimedLimiter.charger⟩ fresh request timed
  change answered = _ at answeredEq
  obtain ⟨limit, refusal⟩ := sound.decision key timed.now
  have quiet := @any_isAdmission_of_charge policy (request.assignId fresh) timed.limiter key
    timed.now
  refine ⟨rfl, ?_⟩
  rw [answeredEq]
  cases admitted : (timed.limiter.consume key timed.now).1.isAdmitted with
  | true => exact reflects_of_admitted admitted quiet limit
  | false => exact reflects_of_refused admitted quiet (refusal admitted)

/-! ## Runs -/

/-- A request is one step of the run that the limiter goes through. -/
theorem serve_request (policy : Caller.Policy) (timed : TimedLimiter)
    (request : Request) (fresh : String) (rest : List Arrival) :
    let answered := answer (some ⟨policy, TimedLimiter.charger⟩) fresh request timed
    serve policy timed (.request request fresh :: rest) =
      (⟨request, fresh, answered.1, answered.2.1⟩ :: (serve policy answered.2.2 rest).1,
        (serve policy answered.2.2 rest).2) := rfl

private theorem charges_consume (timed : TimedLimiter) (key : String)
    (rest : List TimedLimiter.Action) :
    timed.charges (.consume key :: rest) =
      (key, (timed.limiter.consume key timed.now).1) ::
        (timed.step (.consume key)).2.charges rest := by
  rw [TimedLimiter.charges_cons]
  rfl

/-- From any state that a limiter can be in, the answers tell of the charges. -/
private theorem serve_reflects (policy : Caller.Policy) {timed : TimedLimiter}
    (sound : timed.limiter.Sound) (arrivals : List Arrival) :
    (serve policy timed arrivals).2 = (timed.run (arrivals.map (Arrival.action policy))).2 ∧
      (serve policy timed arrivals).1.map (fun served => (served.request, served.fresh)) =
        arrivals.filterMap Arrival.sent? ∧
      List.Forall₂ (Reflects policy timed.limiter.tiers) (serve policy timed arrivals).1
        (timed.charges (arrivals.map (Arrival.action policy))) := by
  induction arrivals generalizing timed with
  | nil => exact ⟨rfl, rfl, .nil⟩
  | cons arrival rest inductionHypothesis =>
      cases arrival with
      | advance elapsed => exact inductionHypothesis sound
      | set reading => exact inductionHypothesis sound
      | request request fresh =>
          obtain ⟨next, reflects⟩ := answer_reflects sound policy request fresh
          have later := TimedLimiter.step_sound sound
            (.consume (policy.keyOf (request.assignId fresh)))
          obtain ⟨last, inOrder, others⟩ := inductionHypothesis later
          rw [TimedLimiter.step_tiers] at others
          rw [serve_request, next, List.map_cons, Arrival.action, charges_consume]
          refine ⟨last, ?_, .cons reflects others⟩
          rw [List.map_cons, inOrder]
          rfl

/-- Of any limiter that a run can lead to, every request is answered by one charge to its
own key, in the order of the requests, and the limiter is left as these charges alone
leave it. -/
theorem serve_refines (tiers : Tiers) (start : UInt64) (past : List TimedLimiter.Action)
    (policy : Caller.Policy) (arrivals : List Arrival) :
    let timed := ((⟨start, .ofTiers tiers⟩ : TimedLimiter).run past).2
    let actions := arrivals.map (Arrival.action policy)
    let served := serve policy timed arrivals
    served.2 = (timed.run actions).2 ∧
      served.1.map (fun each => (each.request, each.fresh)) =
        arrivals.filterMap Arrival.sent? ∧
      List.Forall₂ (Reflects policy tiers) served.1 (timed.charges actions) := by
  intro timed actions served
  have sound : timed.limiter.Sound := TimedLimiter.run_sound (.ofTiers tiers) past
  have tiersEq : timed.limiter.tiers = tiers := TimedLimiter.run_tiers _ past
  have reflects := serve_reflects policy sound arrivals
  rwa [tiersEq] at reflects

/-- Of a capacity of one, the second request of a moment is refused. -/
example :
    let limits : Limits := ⟨1, 1⟩
    let tiers : Tiers := ⟨limits, limits, ⟨by decide, by decide⟩, ⟨by decide, by decide⟩⟩
    let request : Request := { method := "GET", target := .path "/", headers := [], peer := none }
    let arrivals := [.request request "first", .request request "second", .advance 1000,
      .request request "third"]
    (serve { resolver := .standard } ⟨0, .ofTiers tiers⟩ arrivals).1.map
      (fun served => served.response.status) = [200, 429, 200] := by
  decide +kernel

end Turnstile.Gateway
