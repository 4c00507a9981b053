import Turnstile.Proofs.Caller.Address
import Turnstile.Proofs.Gateway.Refinement
import Turnstile.Proofs.Limiter.Renaming
import Turnstile.Proofs.Token.Failures

/-!
# Events keep callers to themselves

Of a token, only the stage at which it is given up is reported; of a key, only its kind and
whether it is new. So two runs of a gateway on requests that differ in nothing but their
`authorization` fields cannot be told apart by what they report, if each pair of tokens is
given up at one stage or names two principals, and these correspond to each other one to one
and kind by kind (`serve_indistinct`). The exception is the identifier of a key that is refused.
-/

namespace Turnstile

/-- An event without the identifier that a refusal shows. -/
def Event.withoutIdentifier : Event → Event
  | .limitExceeded requestId kind _ limit remaining =>
      .limitExceeded requestId kind "" limit remaining
  | event => event

namespace Caller.Policy

/-- The first `authorization` value announces a token. -/
def Announces (headers : Headers) (token : String) : Prop :=
  ∃ value text rest, headers.first? "authorization" = some value ∧
    Header.text? value = some text ∧ Text.trim text = Token.scheme ++ rest ∧
    Text.trim rest = token

/-- A token is announced that has claims, and the principal is the one that the policy finds in
them, or the anonymous one if it finds none. -/
def Names (policy : Policy) (headers : Headers) (principal : Principal) : Prop :=
  ∃ token claims, Announces headers token ∧ Token.read token = .ok claims ∧
    (policy.resolver.find? claims).getD .anonymous = principal

variable {policy : Policy} {headers : Headers} {token : String} {principal : Principal}
  {failure : Token.Failure}

theorem key_of_announces (announced : Announces headers token) (peer : Option SocketAddress) :
    policy.key headers peer = policy.tokenKey token := by
  obtain ⟨value, text, rest, first, readable, spelled, trimmed⟩ := announced
  have filled : Text.isBlank text = false := by
    rw [← Text.trim_isEmpty, spelled]
    simp [Token.scheme]
  rw [policy.key_of_text peer first readable filled, credentialKey,
    Token.ofCredential?_eq_some_iff.mpr ⟨rest, spelled, trimmed⟩]

/-- A request whose token has claims is charged to the principal in them without a word. -/
theorem Names.key_eq (names : policy.Names headers principal) (peer : Option SocketAddress) :
    policy.key headers peer = (principal.key, []) := by
  obtain ⟨token, claims, announced, accepted, found⟩ := names
  rw [key_of_announces announced, tokenKey, Resolver.principal?, accepted,
    Token.events_of_read accepted, ← found]

/-- A request whose token is given up is charged to the anonymous principal. -/
theorem key_of_failsAt (announced : Announces headers token)
    (stage : Token.FailsAt token failure) (peer : Option SocketAddress) :
    policy.key headers peer = (Principal.anonymous.key, failure.events) := by
  rw [key_of_announces announced, tokenKey, Resolver.principal?,
    Token.read_eq_error_iff.mpr stage, stage.events_eq]
  rfl

/-- The id that a request is given announces no token. -/
theorem announces_assignId_iff {request : Request} (fresh : String) :
    Announces (request.assignId fresh).headers token ↔ Announces request.headers token := by
  have first := @Request.first?_assignId "authorization" (by decide) fresh request
  unfold Announces
  rw [first]

theorem Announces.assignId {request : Request} (announced : Announces request.headers token)
    (fresh : String) : Announces (request.assignId fresh).headers token :=
  (announces_assignId_iff fresh).mpr announced

/-- The id that a request is given names nobody. -/
theorem names_assignId_iff {request : Request} (fresh : String) :
    policy.Names (request.assignId fresh).headers principal ↔
      policy.Names request.headers principal := by
  simp only [Names, announces_assignId_iff]

theorem Names.assignId {request : Request} (names : policy.Names request.headers principal)
    (fresh : String) : policy.Names (request.assignId fresh).headers principal :=
  (names_assignId_iff fresh).mpr names

end Caller.Policy

/-! ## Requests -/

/-- Two requests that differ in nothing but their `authorization` fields. -/
structure Request.Matches (request other : Request) : Prop where
  method : other.method = request.method
  target : other.target = request.target
  peer : other.peer = request.peer
  assignedId : other.assignedId = request.assignedId
  headers : other.headers.filter (fun header => header.name ≠ "authorization") =
    request.headers.filter (fun header => header.name ≠ "authorization")

namespace Request.Matches

variable {request other : Request}

theorem refl (request : Request) : request.Matches request := ⟨rfl, rfl, rfl, rfl, rfl⟩

theorem sentId? (same : request.Matches other) : other.sentId? = request.sentId? := by
  have kept (headers : Headers) :=
    headers.first?_filter "authorization" idHeader |>.trans (if_neg (by decide))
  rw [Request.sentId?, Request.sentId?, ← kept, same.headers, kept]

theorem shownId (same : request.Matches other) : other.shownId = request.shownId := by
  rw [Request.shownId, Request.id?, same.assignedId, same.sentId?, Request.shownId, Request.id?]

theorem assignId (same : request.Matches other) (fresh : String) :
    (request.assignId fresh).Matches (other.assignId fresh) := by
  have sent := same.sentId?
  obtain ⟨method, target, peer, assigned, headers⟩ := same
  unfold Request.assignId
  rw [sent]
  split
  · exact ⟨method, target, peer, by rw [assigned], headers⟩
  · refine ⟨method, target, peer, rfl, ?_⟩
    rw [List.filter_append, headers, ← List.filter_append]

end Request.Matches

/-- Requests that correspond in two runs whose keys are renamed from the one to the other. -/
inductive Request.Corresponds (policy : Caller.Policy) (rename : String → String)
    (fresh : String) : Request → Request → Prop
  /-- The same request comes in both runs, and its key keeps its name. -/
  | same {request : Request}
      (kept : rename (policy.keyOf (request.assignId fresh)) =
        policy.keyOf (request.assignId fresh)) :
      Corresponds policy rename fresh request request
  /-- The tokens of both requests name principals that correspond. -/
  | named {request other : Request} {principal otherPrincipal : Principal}
      (same : request.Matches other) (names : policy.Names request.headers principal)
      (otherNames : policy.Names other.headers otherPrincipal)
      (renamed : otherPrincipal.key = rename principal.key) :
      Corresponds policy rename fresh request other
  /-- The tokens of both requests are given up at the same stage. -/
  | failed {request other : Request} {token otherToken : String} {failure : Token.Failure}
      (same : request.Matches other)
      (announced : Caller.Policy.Announces request.headers token)
      (otherAnnounced : Caller.Policy.Announces other.headers otherToken)
      (stage : Token.FailsAt token failure) (otherStage : Token.FailsAt otherToken failure)
      (kept : rename Principal.anonymous.key = Principal.anonymous.key) :
      Corresponds policy rename fresh request other

namespace Request.Corresponds

variable {policy : Caller.Policy} {rename : String → String} {fresh : String}
  {request other : Request}

theorem sameRequest (corresponds : Corresponds policy rename fresh request other) :
    request.Matches other := by
  cases corresponds with
  | same kept => exact .refl request
  | named same names otherNames renamed => exact same
  | failed same announced otherAnnounced stage otherStage kept => exact same

/-- Requests that correspond are charged to a key and to its new name, and finding the two
reports the same. -/
theorem key_eq (corresponds : Corresponds policy rename fresh request other) :
    policy.key (other.assignId fresh).headers (other.assignId fresh).peer =
      (rename (policy.keyOf (request.assignId fresh)),
        (policy.key (request.assignId fresh).headers (request.assignId fresh).peer).2) := by
  cases corresponds with
  | same kept => exact Prod.ext kept.symm rfl
  | named same names otherNames renamed =>
      rw [Caller.Policy.keyOf, (names.assignId fresh).key_eq, (otherNames.assignId fresh).key_eq,
        renamed]
  | failed same announced otherAnnounced stage otherStage kept =>
      rw [Caller.Policy.keyOf, Caller.Policy.key_of_failsAt (announced.assignId fresh) stage,
        Caller.Policy.key_of_failsAt (otherAnnounced.assignId fresh) otherStage, kept]

end Request.Corresponds

namespace Gateway

/-- Two answered requests that no event tells apart but a refusal. -/
structure Indistinct (served other : Served) : Prop where
  status : other.response.status = served.response.status
  events : other.events.map Event.withoutIdentifier =
    served.events.map Event.withoutIdentifier
  unrefused : served.response.status ≠ 429 → other.events = served.events

section

variable {request other : Request} (same : request.Matches other)
include same

theorem events_route (charge otherCharge : Option Charge) :
    (route other otherCharge).1.status = (route request charge).1.status ∧
      (route other otherCharge).2 = (route request charge).2 := by
  unfold route describe
  rw [same.target, same.shownId, same.method]
  split
  · exact ⟨rfl, rfl⟩
  · exact ⟨rfl, rfl⟩

/-- With the same decision on a key of the same kind, two requests get the same status, and
the same is reported of them but for the identifier of a refused key. -/
theorem events_decide {key otherKey : String} (kind : Key.kind otherKey = Key.kind key)
    (decision : Decision) :
    (decide other otherKey decision).1.status = (decide request key decision).1.status ∧
      (decide other otherKey decision).2.map Event.withoutIdentifier =
        (decide request key decision).2.map Event.withoutIdentifier ∧
      ((decide request key decision).1.status ≠ 429 →
        (decide other otherKey decision).2 = (decide request key decision).2) := by
  cases admitted : decision.isAdmitted with
  | true =>
      obtain ⟨status, events⟩ :=
        events_route same (some ⟨key, decision⟩) (some ⟨otherKey, decision⟩)
      rw [decide_eq_route admitted, decide_eq_route admitted, kind, events]
      exact ⟨status, rfl, fun _ => rfl⟩
  | false =>
      rw [decide_of_refused admitted, decide_of_refused admitted, kind, same.shownId]
      exact ⟨rfl, rfl, fun unrefused => absurd rfl unrefused⟩

/-- Without a limiter, all that is reported of two requests is the same. -/
theorem events_answer_none {State : Type} (fresh : String) (state : State) :
    (answer none fresh other state).2.1 = (answer none fresh request state).2.1 :=
  (events_route (same.assignId fresh) none none).2

end

/-! ## Runs -/

/-- Arrivals that correspond in two runs whose keys are renamed from the one to the other. -/
inductive Arrival.Alike (policy : Caller.Policy) (rename : String → String) :
    Arrival → Arrival → Prop
  | advance (elapsed : UInt64) : Alike policy rename (.advance elapsed) (.advance elapsed)
  | set (reading : UInt64) : Alike policy rename (.set reading) (.set reading)
  | request {request other : Request} {fresh : String}
      (corresponds : request.Corresponds policy rename fresh other) :
      Alike policy rename (.request request fresh) (.request other fresh)

variable {policy : Caller.Policy} {rename : String → String}

/-- Requests that correspond are answered alike, and leave the limiters as they were to each
other. -/
theorem answer_indistinct {keys : Set String} (renames : RenamesKeys rename keys)
    {timed otherTimed : TimedLimiter} (renamed : timed.Renamed rename keys otherTimed)
    {request other : Request} {fresh : String}
    (corresponds : request.Corresponds policy rename fresh other)
    (member : policy.keyOf (request.assignId fresh) ∈ keys) :
    let answered := answer (some ⟨policy, TimedLimiter.charger⟩) fresh request timed
    let otherAnswered := answer (some ⟨policy, TimedLimiter.charger⟩) fresh other otherTimed
    Indistinct ⟨request, fresh, answered.1, answered.2.1⟩
        ⟨other, fresh, otherAnswered.1, otherAnswered.2.1⟩ ∧
      answered.2.2.Renamed rename keys otherAnswered.2.2 := by
  intro answered otherAnswered
  obtain ⟨decision, charged, next⟩ := renamed.limiter.consume renames member timed.now
  obtain ⟨status, events, unrefused⟩ := events_decide (corresponds.sameRequest.assignId fresh)
    (renames.kind _ member)
    (timed.limiter.consume (policy.keyOf (request.assignId fresh)) timed.now).1
  have answeredEq := answer_eq ⟨policy, TimedLimiter.charger⟩ fresh request timed
  have otherEq := answer_eq ⟨policy, TimedLimiter.charger⟩ fresh other otherTimed
  have otherKey : policy.keyOf (other.assignId fresh) =
      rename (policy.keyOf (request.assignId fresh)) := congrArg Prod.fst corresponds.key_eq
  simp only [otherKey, corresponds.key_eq, TimedLimiter.charger, renamed.now, decision,
    charged] at otherEq
  change answered = _ at answeredEq
  change otherAnswered = _ at otherEq
  rw [answeredEq, otherEq]
  refine ⟨⟨?_, ?_, fun admitted => ?_⟩, rfl, next⟩
  · simp only [Response.forMethod_status, identify_status, status, TimedLimiter.charger]
  · simp only [List.map_append, events, TimedLimiter.charger]
  · simp only [Response.forMethod_status, identify_status] at admitted
    simp only [unrefused admitted, TimedLimiter.charger]

/-- Corresponding arrivals are answered alike, from limiters that correspond. -/
theorem serve_indistinct {keys : Set String} (renames : RenamesKeys rename keys)
    {timed otherTimed : TimedLimiter} (renamed : timed.Renamed rename keys otherTimed)
    {arrivals others : List Arrival}
    (alike : List.Forall₂ (Arrival.Alike policy rename) arrivals others)
    (charged : TimedLimiter.chargedKeys (arrivals.map (Arrival.action policy)) ⊆ keys) :
    List.Forall₂ Indistinct (serve policy timed arrivals).1
      (serve policy otherTimed others).1 := by
  induction alike generalizing timed otherTimed with
  | nil => exact .nil
  | @cons arrival other rest otherRest first alikeRest inductionHypothesis =>
      have chargedRest : TimedLimiter.chargedKeys (rest.map (Arrival.action policy)) ⊆ keys :=
        fun key member => charged (List.mem_cons_of_mem _ member)
      have chargedFirst : ∀ key, arrival.action policy = .consume key → key ∈ keys :=
        fun key charge => charged (List.mem_cons.mpr (.inl charge.symm))
      cases first with
      | advance elapsed =>
          exact inductionHypothesis (renamed.step renames chargedFirst).2 chargedRest
      | set reading =>
          exact inductionHypothesis (renamed.step renames chargedFirst).2 chargedRest
      | @request request other fresh corresponds =>
          obtain ⟨indistinct, next⟩ :=
            answer_indistinct renames renamed corresponds (chargedFirst _ rfl)
          rw [serve_request, serve_request]
          exact .cons indistinct (inductionHypothesis next chargedRest)

/-- If no request is refused, all that is reported is the same. -/
theorem map_events_of_indistinct {served others : List Served}
    (indistinct : List.Forall₂ Indistinct served others)
    (admitted : ∀ each ∈ served, each.response.status ≠ 429) :
    others.map Served.events = served.map Served.events := by
  induction indistinct with
  | nil => rfl
  | @cons each other served others first _ inductionHypothesis =>
      obtain ⟨firstAdmitted, restAdmitted⟩ := List.forall_mem_cons.mp admitted
      rw [List.map_cons, List.map_cons, first.unrefused firstAdmitted,
        inductionHypothesis restAdmitted]

/-- What events tell of tokens, keys and requests. -/
structure Discreet (policy : Caller.Policy) (tiers : Tiers) (start : UInt64) : Prop where
  /-- A token has claims or is given up at some stage. -/
  stages : ∀ token,
    (∃ claims, Token.read token = .ok claims) ∨ ∃ failure, Token.FailsAt token failure
  /-- Tokens that are given up at the same stage are reported alike. -/
  tokens : ∀ {token other failure}, Token.FailsAt token failure → Token.FailsAt other failure →
    Token.events other = Token.events token
  /-- A blank token is not reported, and neither is one with claims, whatever they are. -/
  silent : ∀ {token}, Text.isBlank token = true ∨ (∃ claims, Token.read token = .ok claims) →
    Token.events token = []
  /-- A limiter answers on renamed keys as on the keys, events included. -/
  keys : ∀ {rename actions}, RenamesKeys rename (TimedLimiter.chargedKeys actions) →
    ((⟨start, .ofTiers tiers⟩ : TimedLimiter).run
        (actions.map (TimedLimiter.Action.rename rename))).1 =
      ((⟨start, .ofTiers tiers⟩ : TimedLimiter).run actions).1
  /-- No event but a refusal tells two runs of a gateway apart whose requests correspond by such
  a renaming. -/
  requests : ∀ {rename arrivals others},
    RenamesKeys rename (TimedLimiter.chargedKeys (arrivals.map (Arrival.action policy))) →
      List.Forall₂ (Arrival.Alike policy rename) arrivals others →
        List.Forall₂ Indistinct (serve policy ⟨start, .ofTiers tiers⟩ arrivals).1
          (serve policy ⟨start, .ofTiers tiers⟩ others).1
  /-- Without a refusal in the one run, the other reports the same events. -/
  admitted : ∀ {rename arrivals others},
    RenamesKeys rename (TimedLimiter.chargedKeys (arrivals.map (Arrival.action policy))) →
      List.Forall₂ (Arrival.Alike policy rename) arrivals others →
        (∀ served ∈ (serve policy ⟨start, .ofTiers tiers⟩ arrivals).1,
          served.response.status ≠ 429) →
          (serve policy ⟨start, .ofTiers tiers⟩ others).1.map Served.events =
            (serve policy ⟨start, .ofTiers tiers⟩ arrivals).1.map Served.events
  /-- Without a limiter, a gateway looks at no `authorization` field. -/
  unlimited : ∀ {request other : Request}, request.Matches other → ∀ fresh,
    (answer none fresh other ()).2.1 = (answer none fresh request ()).2.1

/-- Tokens and identities stay out of the events, a refusal apart. -/
theorem discreet (policy : Caller.Policy) (tiers : Tiers) (start : UInt64) :
    Discreet policy tiers start where
  stages := Token.read_or_failsAt
  tokens stage otherStage := otherStage.events_eq.trans stage.events_eq.symm
  silent reason := by
    rcases reason with blank | ⟨claims, accepted⟩
    · exact (Token.FailsAt.blank blank).events_eq
    · exact Token.events_of_read accepted
  keys {rename _} renames :=
    ((TimedLimiter.Renamed.start rename _ tiers start).run renames subset_rfl).1
  requests {rename _ _} renames alike :=
    serve_indistinct renames (.start rename _ tiers start) alike subset_rfl
  admitted {rename _ _} renames alike unrefused :=
    have indistinct := serve_indistinct renames (.start rename _ tiers start) alike subset_rfl
    map_events_of_indistinct indistinct unrefused
  unlimited same fresh := events_answer_none same fresh ()

/-- Two users trade places, and the events of the two requests stay as they were. -/
theorem discreet_of_swapped_users :
    let limits : Limits := ⟨1, 1⟩
    let tiers : Tiers := ⟨limits, limits, ⟨by decide, by decide⟩, ⟨by decide, by decide⟩⟩
    let policy : Caller.Policy := { resolver := .standard }
    let frame : Token.Frame := { header := ['h'], signature := ['s'] }
    let request (user : String) : Request :=
      { method := "GET", target := .path "/", peer := none, headers :=
          [.ofName "Authorization" (Header.bytesOf
            ("Bearer " ++ frame.token (Json.object [("sub", .text user)]).bytes))] }
    let arrivals : List Arrival :=
      [.request (request "alice") "first", .request (request "bob") "second"]
    let others : List Arrival :=
      [.request (request "bob") "first", .request (request "alice") "second"]
    let run := fun arrivals => (serve policy ⟨0, .ofTiers tiers⟩ arrivals).1
    policy.keyOf (request "alice") = "user:alice" ∧ policy.keyOf (request "bob") = "user:bob" ∧
      (run arrivals).map Served.events =
        [[.bucketCreated .user limits, .checkPassed .user 0, .requestAdmitted "first" "GET" "/"],
          [.bucketCreated .user limits, .checkPassed .user 0,
            .requestAdmitted "second" "GET" "/"]] ∧
      (run others).map Served.events = (run arrivals).map Served.events := by
  intro limits tiers policy frame request arrivals others run
  have names (user : String) (known : user ∈ ["alice", "bob"]) :
      policy.Names (request user).headers (.user user) := by
    have readable : Json.Readable Json.depthLimit (.object [("sub", .text user)]) := by
      refine .object (by simp) fun member inside => ?_
      rw [List.mem_singleton.mp inside]
      exact .text
    have fits : frame.Fits (Json.object [("sub", .text user)]).bytes :=
      ⟨by decide, by decide, by decide, Nat.zero_le _⟩
    have spelled : ∀ user ∈ ["alice", "bob"],
        let token := frame.token (Json.object [("sub", .text user)]).bytes
        Headers.first? (request user).headers "authorization" =
            some (Header.bytesOf ("Bearer " ++ token)) ∧
          Header.text? (Header.bytesOf ("Bearer " ++ token)) = some ("Bearer " ++ token) ∧
          Text.trim ("Bearer " ++ token) = Token.scheme ++ token ∧ Text.trim token = token ∧
          (policy.resolver.find? ⟨[("sub", .text user)]⟩).getD .anonymous = .user user := by
      decide +kernel
    obtain ⟨first, shown, announced, trimmed, found⟩ := spelled user known
    have accepted := Token.read_object readable fits
    exact ⟨_, _, ⟨_, _, _, first, shown, announced, trimmed⟩, accepted, found⟩
  have charges : arrivals.map (Arrival.action policy) =
      [.consume "user:alice", .consume "user:bob"] := by
    decide +kernel
  have renames : RenamesKeys (Equiv.swap "user:alice" "user:bob")
      (TimedLimiter.chargedKeys (arrivals.map (Arrival.action policy))) := by
    refine ⟨(Equiv.injective _).injOn, fun key charged => ?_⟩
    rw [charges] at charged
    obtain rfl | rfl : key = "user:alice" ∨ key = "user:bob" := by
      simpa [TimedLimiter.chargedKeys] using charged
    · decide +kernel
    · decide +kernel
  have alike : List.Forall₂ (Arrival.Alike policy (Equiv.swap "user:alice" "user:bob"))
      arrivals others := by
    have lower : "Authorization".toLower = "authorization" := by decide +kernel
    have same (user other : String) : (request user).Matches (request other) :=
      ⟨rfl, rfl, rfl, rfl, by simp [request, Header.ofName, lower]⟩
    have alice := names "alice" (by decide)
    have bob := names "bob" (by decide)
    exact .cons (.request (.named (same _ _) alice bob (by decide +kernel)))
      (.cons (.request (.named (same _ _) bob alice (by decide +kernel))) .nil)
  refine ⟨by decide +kernel, by decide +kernel, by decide +kernel, ?_⟩
  exact (discreet policy tiers 0).admitted renames alike (by decide +kernel)

end Gateway

end Turnstile
