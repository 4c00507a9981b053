import Turnstile.Proofs.Caller.OneLine
import Turnstile.Proofs.Gateway.Discretion

/-!
# Lines that a caller can break

Header values, paths and addresses reach the events of a request only as far as they fit on a
line, but the name of a principal is any text that JSON can spell. So a caller can break the
line of one event, the refusal of its own key, and does so exactly with a line feed or
a carriage return among the first hundred characters of the name (`Gateway.lined`): an
identifier is cut before it is shown, and nothing else is done to it. What a library says of a
payload that it refuses is shown as it is as well; of the two libraries it is assumed that they
say it on one line (`Complaints.OneLine`).
-/

namespace Turnstile

open Text

/-- A request as HTTP spells it: the method is visible ASCII, and the path has no spaces and no
control characters before them. -/
structure Request.IsHttp (request : Request) : Prop where
  method : ∀ c ∈ request.method.toList, 32 < c.toNat ∧ c.toNat < 127
  path : ∀ c ∈ request.target.shownPath.toList, 32 < c.toNat

instance (request : Request) : Decidable request.IsHttp :=
  let _ : Decidable (∀ c ∈ request.method.toList, 32 < c.toNat ∧ c.toNat < 127) :=
    List.decidableBAll _ _
  let _ : Decidable (∀ c ∈ request.target.shownPath.toList, 32 < c.toNat) :=
    List.decidableBAll _ _
  decidable_of_iff (_ ∧ _)
    ⟨fun ⟨method, path⟩ => ⟨method, path⟩, fun http => ⟨http.method, http.path⟩⟩

/-- The id that a request is given changes neither. -/
theorem Request.IsHttp.assignId {request : Request} (http : request.IsHttp) (fresh : String) :
    (request.assignId fresh).IsHttp := by
  obtain ⟨method, target⟩ := Gateway.assignId_kept fresh request
  exact ⟨method ▸ http.method, target ▸ http.path⟩

/-- A charger that reports the buckets it makes, and nothing else. -/
def Charger.ReportsBuckets {State : Type} (charger : Charger State) : Prop :=
  ∀ key state, ∀ event ∈ (charger.charge key state).2.1,
    ∃ kind limits, event = .bucketCreated kind limits

theorem TimedLimiter.charger_reportsBuckets : charger.ReportsBuckets :=
  fun _ _ _ member => Limiter.exists_bucketCreated_of_mem_consume member

theorem Charger.scripted_reportsBuckets : scripted.ReportsBuckets := by
  intro key decisions event member
  match decisions with
  | [] => cases member
  | [_] => cases member
  | _ :: _ :: _ => cases member

/-! ## Events that keep their line -/

/-- The libraries word what they refuse on one line. They do: the base64 decoder has a fixed
phrase for each cause, with the number of a symbol and its offset, and the JSON reader has one
with the line and the column at which it stopped. Neither repeats the payload. -/
def Complaints.OneLine (complaints : Complaints) : Prop :=
  ∀ decoder, Text.OneLine (complaints decoder).toList

/-- An event of which every text is on one line. -/
def Event.KeepsLine (complaints : Complaints) (event : Event) : Prop :=
  ∀ text ∈ event.texts complaints, OneLine text.toList

variable {complaints : Complaints}

theorem Key.Kind.oneLine_name (kind : Kind) : OneLine kind.name.toList := by
  cases kind <;> decide

/-- Printable characters stay on one line. -/
theorem Text.oneLine_of_printable {chars : List Char} (printable : ∀ c ∈ chars, 32 < c.toNat) :
    OneLine chars := by
  intro c member
  have visible := printable c member
  constructor
  · rintro rfl
    exact absurd visible (by decide)
  · rintro rfl
    exact absurd visible (by decide)

/-- The id of a request is shown on one line, whoever chose it. -/
theorem Request.oneLine_shownId (request : Request) : OneLine request.shownId.toList := by
  unfold shownId
  cases found : request.id? with
  | none => decide
  | some id =>
      obtain ⟨value, _, read⟩ := Option.bind_eq_some_iff.mp found
      exact Header.oneLine_text? read

/-- Of a token that is given up, no text is shown but the words of a library. -/
theorem Token.Failure.keepsLine (worded : complaints.OneLine) {failure : Failure} {event : Event}
    (member : event ∈ failure.events) : event.KeepsLine complaints := by
  intro text shown
  obtain ⟨field, there, held⟩ := List.mem_flatMap.mp shown
  rcases Event.mem_shownFields_iff.mp there with ⟨decoder, _, rfl⟩ | filled
  · rw [List.mem_singleton.mp held]
    exact worded decoder
  · cases failure with
    | blank => cases member
    | shape segments =>
        rw [List.mem_singleton.mp member] at filled
        rw [List.mem_singleton.mp filled] at held
        cases held
    | encoding | notObject | malformed =>
        rw [List.mem_singleton.mp member] at filled
        cases filled

theorem Event.keepsLine_bucketCreated (kind : Key.Kind) (limits : Limits) :
    (bucketCreated kind limits).KeepsLine complaints := by
  simpa [KeepsLine, texts, shownFields, decoder?, fields, FieldValue.texts] using
    kind.oneLine_name

theorem Event.keepsLine_checkPassed (kind : Key.Kind) (remaining : UInt64) :
    (checkPassed kind remaining).KeepsLine complaints := by
  simpa [KeepsLine, texts, shownFields, decoder?, fields, FieldValue.texts] using
    kind.oneLine_name

/-- An event of which every text but an identifier is on one line. -/
def Event.KeepsLineElsewhere (complaints : Complaints) (event : Event) : Prop :=
  ∀ field ∈ event.shownFields complaints, field.1 ≠ "identifier" →
    ∀ text ∈ field.2.texts, OneLine text.toList

namespace Event

variable {event : Event}

theorem KeepsLine.elsewhere (keeps : event.KeepsLine complaints) :
    event.KeepsLineElsewhere complaints :=
  fun field there _ text held => keeps text (List.mem_flatMap.mpr ⟨field, there, held⟩)

/-- An identifier is shown as it is. -/
theorem eq_plain_of_identifier {value : FieldValue}
    (member : ("identifier", value) ∈ event.shownFields complaints) :
    ∃ text, value = .plain text := by
  cases event with
  | limitExceeded requestId kind identifier limit remaining =>
      refine ⟨identifier, ?_⟩
      simpa [shownFields, decoder?, fields] using member
  | _ => simp [shownFields, decoder?, fields] at member

/-- An event takes one line in a log exactly if its texts do. -/
theorem KeepsLineElsewhere.oneLine_line_iff (elsewhere : event.KeepsLineElsewhere complaints)
    {span : Option Span} (spans : ∀ shown ∈ span, OneLine shown.render.toList) :
    OneLine (event.line complaints span).toList ↔ event.KeepsLine complaints := by
  rw [Event.oneLine_line_iff, and_iff_right spans]
  constructor
  · intro plain text member
    obtain ⟨⟨name, value⟩, there, held⟩ := List.mem_flatMap.mp member
    by_cases identifier : name = "identifier"
    · subst identifier
      obtain ⟨shown, rfl⟩ := eq_plain_of_identifier there
      rw [List.mem_singleton.mp held]
      exact plain _ _ there
    · exact elsewhere _ there identifier text held
  · intro keeps name text there
    exact keeps text (List.mem_flatMap.mpr ⟨_, there, List.mem_singleton_self text⟩)

section

variable {requestId identifier : String} (oneLine : OneLine requestId.toList) (kind : Key.Kind)
  (limit remaining : UInt64)
include oneLine

theorem keepsLine_limitExceeded_iff :
    (limitExceeded requestId kind identifier limit remaining).KeepsLine complaints ↔
      OneLine identifier.toList := by
  simp [KeepsLine, texts, shownFields, decoder?, fields, FieldValue.texts, oneLine,
    kind.oneLine_name]

theorem keepsLineElsewhere_limitExceeded :
    (limitExceeded requestId kind identifier limit remaining).KeepsLineElsewhere
      complaints := by
  simp [KeepsLineElsewhere, shownFields, decoder?, fields, FieldValue.texts, oneLine,
    kind.oneLine_name]

end

end Event

/-! ## Keys of tokens -/

namespace Caller.Policy

variable {policy : Policy} {headers : Headers}

/-- A request whose token names no principal is charged to the anonymous one or to its
address. -/
theorem key_of_unnamed (unnamed : ∀ principal, ¬policy.Names headers principal)
    (peer : Option SocketAddress) :
    (policy.key headers peer).1 = Principal.anonymous.key ∨
      (policy.key headers peer).1 = policy.address headers peer := by
  unfold key
  split
  · next credential found =>
      left
      unfold credentialKey
      split
      · next token announced =>
          obtain ⟨text, there, trimmed⟩ := Option.bind_eq_some_iff.mp found
          obtain ⟨value, first, read⟩ := Option.bind_eq_some_iff.mp there
          obtain ⟨inner, _⟩ := trimmed?_eq_some_iff.mp trimmed
          obtain ⟨rest, spelled, token⟩ := Token.ofCredential?_eq_some_iff.mp announced
          have announces : Announces headers _ :=
            ⟨value, text, rest, first, read, inner.trans spelled, token⟩
          unfold tokenKey Resolver.principal?
          split
          · next claims accepted =>
              exact absurd ⟨_, claims, announces, accepted, rfl⟩ (unnamed _)
          · rfl
      · rfl
  · split
    · exact .inl rfl
    · exact .inr rfl

/-- The key of a request is shown on one line unless a token names a principal whose name has
a line break where it is shown. -/
theorem oneLine_display_key_iff (standard : policy.address = addressKey)
    (peer : Option SocketAddress) :
    OneLine (Key.display (policy.key headers peer).1).toList ↔
      ∀ principal, policy.Names headers principal →
        OneLine (principal.identifier.toList.take 100) := by
  by_cases named : ∃ principal, policy.Names headers principal
  · obtain ⟨principal, names⟩ := named
    rw [names.key_eq peer, Key.oneLine_display_iff, principal.identifier_key]
    constructor
    · intro oneLine other otherNames
      have same := (names.key_eq peer).symm.trans (otherNames.key_eq peer)
      have identifiers := congrArg (fun found => Key.identifier found.1) same
      simp only [Principal.identifier_key] at identifiers
      rwa [← identifiers]
    · intro each
      exact each principal names
  · have unnamed := not_exists.mp named
    refine iff_of_true ?_ fun principal names => absurd names (unnamed principal)
    rcases key_of_unnamed unnamed peer with anonymous | address
    · rw [anonymous, Key.oneLine_display_iff, Principal.anonymous.identifier_key]
      decide
    · rw [address, standard]
      exact oneLine_display_addressKey headers peer

end Caller.Policy

namespace Gateway

/-! ## Answers -/

theorem status_route (request : Request) (charge : Option Charge) :
    (route request charge).1.status ≠ 429 := by
  unfold route describe
  split
  · nofun
  · nofun

section

variable {request : Request} (http : request.IsHttp) {key : String} {decision : Decision}
include http

theorem keepsLine_of_mem_route {charge : Option Charge} {event : Event}
    (member : event ∈ (route request charge).2) : event.KeepsLine complaints := by
  have method := oneLine_of_printable fun c member => (http.method c member).1
  have path := oneLine_of_printable http.path
  unfold route describe at member
  split at member
  · rw [List.mem_singleton.mp member]
    simpa [Event.KeepsLine, Event.texts, Event.shownFields, Event.decoder?, Event.fields,
      FieldValue.texts] using
      ⟨request.oneLine_shownId, method, path⟩
  · cases member

theorem keepsLine_of_admitted (admitted : decision.isAdmitted = true) {event : Event}
    (member : event ∈ (decide request key decision).2) : event.KeepsLine complaints := by
  rw [decide_eq_route admitted] at member
  rcases List.mem_append.mp member with passed | routed
  · rw [List.mem_singleton.mp passed]
    exact Event.keepsLine_checkPassed _ _
  · exact keepsLine_of_mem_route http routed

theorem keepsLineElsewhere_of_mem_decide {event : Event}
    (member : event ∈ (decide request key decision).2) :
    event.KeepsLineElsewhere complaints := by
  cases admitted : decision.isAdmitted with
  | true => exact (keepsLine_of_admitted http admitted member).elsewhere
  | false =>
      rw [decide_of_refused admitted] at member
      rw [List.mem_singleton.mp member]
      exact Event.keepsLineElsewhere_limitExceeded request.oneLine_shownId _ _ _

/-- A decision is reported on one line, unless a key is refused that does not fit on one. -/
theorem keepsLine_decide_iff :
    (∀ event ∈ (decide request key decision).2, event.KeepsLine complaints) ↔
      ((decide request key decision).1.status = 429 → OneLine (Key.display key).toList) := by
  cases admitted : decision.isAdmitted with
  | true =>
      refine iff_of_true (fun event => keepsLine_of_admitted http admitted) fun refused => ?_
      rw [decide_eq_route admitted] at refused
      exact absurd refused (status_route request _)
  | false =>
      rw [decide_of_refused admitted, List.forall_mem_singleton,
        Event.keepsLine_limitExceeded_iff request.oneLine_shownId]
      exact (imp_iff_right rfl).symm

end

/-- What the events of an answer do to the lines of a log, which shows what the libraries said
as well. -/
structure Lined {State : Type} (complaints : Complaints) (throttle : Option (Throttle State))
    (request : Request) (response : Response) (events : List Event) : Prop where
  /-- No field but the identifier of a refused key breaks a line. -/
  others : ∀ event ∈ events, event.KeepsLineElsewhere complaints
  /-- The identifier does exactly if a token names a principal whose name has a line break
  where it is shown. -/
  kept : (∀ event ∈ events, event.KeepsLine complaints) ↔
    ∀ limited ∈ throttle, ∀ principal, limited.policy.Names request.headers principal →
      response.status = 429 → OneLine (principal.identifier.toList.take 100)
  /-- In a log, such an event takes more lines than one, and every other event takes one. -/
  lines : ∀ span : Option Span, (∀ shown ∈ span, OneLine shown.render.toList) →
    ∀ event ∈ events, OneLine (event.line complaints span).toList ↔ event.KeepsLine complaints

section

variable {State : Type} {throttle : Throttle State} (fresh : String) {request : Request}
  (state : State)

/-- Finding a key and charging it are reported on one line each. -/
theorem keepsLine_of_mem_charge (worded : complaints.OneLine) {charger : Charger State}
    (reports : charger.ReportsBuckets) {policy : Caller.Policy} {headers : Headers} {peer : Option SocketAddress} {key : String}
    {state : State} {event : Event}
    (member : event ∈ (policy.key headers peer).2 ++ (charger.charge key state).2.1) :
    event.KeepsLine complaints := by
  rcases List.mem_append.mp member with found | charged
  · obtain ⟨failure, reported⟩ := Caller.Policy.exists_failure_of_mem_key found
    exact Token.Failure.keepsLine worded reported
  · obtain ⟨kind, limits, rfl⟩ := reports _ _ event charged
    exact Event.keepsLine_bucketCreated kind limits

/-- A limited request breaks a line only with the name of a principal that is refused. -/
theorem keepsLine_answer_iff (worded : complaints.OneLine)
    (standard : throttle.policy.address = Caller.addressKey)
    (reports : throttle.charger.ReportsBuckets) (http : request.IsHttp) :
    (∀ event ∈ (answer (some throttle) fresh request state).2.1, event.KeepsLine complaints) ↔
      ∀ principal, throttle.policy.Names request.headers principal →
        (answer (some throttle) fresh request state).1.status = 429 →
          OneLine (principal.identifier.toList.take 100) := by
  rw [answer_eq]
  simp only [Response.forMethod_status, identify_status]
  rw [List.forall_mem_append, and_iff_right fun event => keepsLine_of_mem_charge worded reports,
    keepsLine_decide_iff (http.assignId fresh), Caller.Policy.keyOf,
    Caller.Policy.oneLine_display_key_iff standard]
  simp only [Caller.Policy.names_assignId_iff]
  exact ⟨fun kept principal names refused => kept refused principal names,
    fun kept refused principal names => kept principal names refused⟩

end

/-- The events of an answer stay on their lines, the refusal of a principal with a line break
in its name apart, whatever the limiter decides and the libraries say on one line. -/
theorem lined {State : Type} (worded : complaints.OneLine) (throttle : Option (Throttle State))
    (standard : ∀ limited ∈ throttle, limited.policy.address = Caller.addressKey)
    (reports : ∀ limited ∈ throttle, limited.charger.ReportsBuckets)
    (fresh : String) {request : Request} (http : request.IsHttp) (state : State) :
    Lined complaints throttle request (answer throttle fresh request state).1
      (answer throttle fresh request state).2.1 := by
  have arrived := http.assignId fresh
  have others : ∀ event ∈ (answer throttle fresh request state).2.1,
      event.KeepsLineElsewhere complaints := by
    intro event member
    cases throttle with
    | none => exact (keepsLine_of_mem_route arrived member).elsewhere
    | some limited =>
        rw [answer_eq] at member
        rcases List.mem_append.mp member with before | decided
        · exact (keepsLine_of_mem_charge worded (reports limited rfl) before).elsewhere
        · exact keepsLineElsewhere_of_mem_decide arrived decided
  refine ⟨others, ?_, fun span spans event member => (others event member).oneLine_line_iff spans⟩
  cases throttle with
  | none => exact iff_of_true (fun event => keepsLine_of_mem_route arrived) nofun
  | some limited =>
      rw [keepsLine_answer_iff fresh state worded (standard limited rfl) (reports limited rfl)
        http]
      simp

/-- A token that is no base64 is reported on a line with what the decoder said of it, and the
refusal of its caller takes one line as well. -/
theorem lined_of_undecodable_token :
    let complaints : Complaints := fun
      | .base64 => "Invalid symbol 33, offset 0."
      | .json => "expected value at line 1 column 1"
    let throttle : Throttle (List Decision) := ⟨{ resolver := .standard }, .scripted⟩
    let request : Request :=
      { method := "GET", target := .path "/", peer := none, headers :=
          [.ofName "Authorization" (Header.bytesOf "Bearer e30.!.s")] }
    let answered := answer (some throttle) "r" request [.refuse 1 0 1]
    complaints.OneLine ∧ throttle.policy.address = Caller.addressKey ∧
      throttle.charger.ReportsBuckets ∧ request.IsHttp ∧
      answered.2.1 = [.payloadEncoding, .limitExceeded "r" .auth "unidentified" 1 0] ∧
      Event.payloadEncoding.text complaints =
        "unable to decode token payload error=Invalid symbol 33, offset 0." ∧
      ∀ event ∈ answered.2.1, OneLine (event.line complaints none).toList := by
  intro complaints throttle request answered
  have worded : complaints.OneLine := by
    intro decoder
    cases decoder <;> decide
  have http : request.IsHttp := by decide
  have standard : ∀ limited ∈ some throttle, limited.policy.address = Caller.addressKey := by
    rintro limited ⟨rfl⟩
    rfl
  have reports : ∀ limited ∈ some throttle, limited.charger.ReportsBuckets := by
    rintro limited ⟨rfl⟩
    exact Charger.scripted_reportsBuckets
  have charged : throttle.policy.key request.headers none =
      (Principal.anonymous.key, [.payloadEncoding]) := by
    decide +kernel
  have lined := lined worded (some throttle) standard reports "r" http [.refuse 1 0 1]
  have kept := lined.kept.mpr fun limited there principal names _ => by
    obtain rfl := Option.some.inj there
    have silent := congrArg Prod.snd (charged.symm.trans (names.key_eq none))
    cases silent
  exact ⟨worded, rfl, Charger.scripted_reportsBuckets, http, by decide +kernel, by decide +kernel,
    fun event member => (lined.lines none nofun event member).mpr (kept event member)⟩

/-- The refusal of a user whose token spells a line feed in its name takes two lines, and the
caller chooses the second. -/
theorem answer_breaks_line_of_claim :
    let limits : Limits := ⟨1, 1⟩
    let tiers : Tiers := ⟨limits, limits, ⟨by decide, by decide⟩, ⟨by decide, by decide⟩⟩
    let throttle : Throttle TimedLimiter := ⟨{ resolver := .standard }, TimedLimiter.charger⟩
    let request : Request :=
      { method := "GET", target := .path "/", peer := none, headers :=
          [.ofName "Authorization" (Header.bytesOf "Bearer e30.eyJzdWIiOiJhXG5iIn0.s"),
            .ofName "X-Request-Id" (Header.bytesOf "r")] }
    let first := answer (some throttle) "fresh" request ⟨0, .ofTiers tiers⟩
    let second := answer (some throttle) "fresh" request first.2.2
    (∀ extractor ∈ throttle.policy.resolver.chain, extractor.IsBuiltIn) ∧
      throttle.policy.address = Caller.addressKey ∧ throttle.charger.ReportsBuckets ∧
      request.IsHttp ∧ second.2.1 = [.limitExceeded "r" .user "a\nb" 1 0] ∧
      ∀ complaints, ¬∀ event ∈ second.2.1, ∀ text ∈ event.texts complaints,
        '\n' ∉ text.toList ∧ '\r' ∉ text.toList := by
  intro limits tiers throttle request first second
  have events : second.2.1 = [.limitExceeded "r" .user "a\nb" 1 0] := by decide +kernel
  refine ⟨?_, rfl, TimedLimiter.charger_reportsBuckets, by decide, events,
    fun complaints kept => ?_⟩
  · simp [throttle, Resolver.standard, Resolver.ofClaims, Extractor.IsBuiltIn]
  · rw [events, List.forall_mem_singleton] at kept
    have shown : "a\nb" ∈ (Event.limitExceeded "r" .user "a\nb" 1 0).texts complaints := by
      simp [Event.texts, Event.shownFields, Event.decoder?, Event.fields, FieldValue.texts]
    exact (kept _ shown).1 (by decide)

end Gateway

end Turnstile
