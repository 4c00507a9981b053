import Turnstile.Proofs.Principal.Claims
import Turnstile.Proofs.Token.RoundTrip

/-!
# Which claim wins

The named claims of a configuration have an order (`KeyResolution.ranking`), and a token
stands for what the first of them that counts tells (`KeyResolution.Wins.find?`).
A claim that does not count, for whatever reason, is the same as none, and nothing below the
winner matters.
-/

namespace Turnstile

namespace Claims

/-- A claim counts and tells this: it is a string that is not blank. -/
def Tells (claims : Claims) (name value : String) : Prop :=
  claims.claim? name = some (.text value) ∧ Text.isBlank value = false

/-- A claim counts. -/
def Has (claims : Claims) (name : String) : Prop :=
  ∃ value, claims.Tells name value

/-- The first of some claims that counts tells this. -/
def FirstTells (claims : Claims) (names : List String) (value : String) : Prop :=
  ∃ above name below, names = above ++ name :: below ∧
    (∀ other ∈ above, ¬ claims.Has other) ∧ claims.Tells name value

/-- Two claim sets do not differ in a claim, all that does not count being the same. -/
def AgreeOn (left right : Claims) (name : String) : Prop :=
  ∀ value, left.Tells name value ↔ right.Tells name value

variable {claims : Claims}

theorem has_iff {name : String} : claims.Has name ↔ (claims.text? name).isSome := by
  rw [Option.isSome_iff_exists]
  exact exists_congr fun value => text?_eq_some_iff.symm

theorem text?_eq_none_iff {name : String} : claims.text? name = none ↔ ¬ claims.Has name := by
  rw [has_iff, Option.not_isSome_iff_eq_none]

theorem firstTells_iff {names : List String} {value : String} :
    claims.FirstTells names value ↔ names.findSome? claims.text? = some value := by
  rw [List.findSome?_eq_some_iff]
  constructor
  · rintro ⟨above, name, below, rfl, none, told⟩
    exact ⟨above, name, below, rfl, text?_eq_some_iff.mpr told,
      fun other member => text?_eq_none_iff.mpr (none other member)⟩
  · rintro ⟨above, name, below, rfl, told, none⟩
    exact ⟨above, name, below, rfl,
      fun other member => text?_eq_none_iff.mp (none other member), text?_eq_some_iff.mp told⟩

theorem agreeOn_iff {left right : Claims} {name : String} :
    left.AgreeOn right name ↔ left.text? name = right.text? name := by
  rw [Option.ext_iff]
  exact forall_congr' fun value => iff_congr text?_eq_some_iff.symm text?_eq_some_iff.symm

/-- Some claim tells something first exactly if one of them counts. -/
theorem exists_firstTells_iff {names : List String} :
    (∃ value, claims.FirstTells names value) ↔ ∃ name ∈ names, claims.Has name := by
  simp only [firstTells_iff, has_iff, ← Option.isSome_iff_exists, List.findSome?_isSome_iff]

end Claims

/-- What a claim names: a service or a user. -/
inductive Role where
  | service
  | user
  deriving DecidableEq, Repr

/-- The principal that a claim of a role names. -/
def Role.principal : Role → String → Principal
  | service => .service
  | user => .user

/-- The role that wins over the other one. -/
def Precedence.first : Precedence → Role
  | serviceFirst => .service
  | userFirst => .user

/-- The role that only counts without the other one. -/
def Precedence.second : Precedence → Role
  | serviceFirst => .user
  | userFirst => .service

namespace Config.KeyResolution

/-- The same claims with another precedence. -/
def prefer (settings : KeyResolution) (precedence : Precedence) : KeyResolution :=
  { settings with precedence := precedence }

/-- The named claims, whatever their precedence. -/
def names (settings : KeyResolution) : List String :=
  settings.serviceClaim :: settings.userClaims

/-- The named claims with their roles, the one that wins over all others first. -/
def ranking (settings : KeyResolution) : List (Role × String) :=
  let service := [(Role.service, settings.serviceClaim)]
  let users := settings.userClaims.map fun name => (Role.user, name)
  match settings.precedence with
  | .serviceFirst => service ++ users
  | .userFirst => users ++ service

/-- The first claim in the ranking that counts is this one, below these. -/
structure Wins (settings : KeyResolution) (claims : Claims) (above : List (Role × String))
    (role : Role) (name value : String) : Prop where
  ranked : ∃ below, settings.ranking = above ++ (role, name) :: below
  none : ∀ other ∈ above, ¬ claims.Has other.2
  told : claims.Tells name value

/-- What a claim of a role makes of the claims of a token. -/
private def principalOf? (claims : Claims) (ranked : Role × String) : Option Principal :=
  (claims.text? ranked.2).map ranked.1.principal

private theorem find?_pair (first second : Extractor) (claims : Claims) :
    Resolver.find? ⟨[first, second]⟩ claims = (first.find? claims).or (second.find? claims) := by
  unfold Resolver.find?
  rw [← List.singleton_append, List.findSome?_append, List.findSome?_singleton,
    List.findSome?_singleton]

/-- The chain of extractors follows the ranking. -/
private theorem find?_eq_findSome? (settings : KeyResolution) (claims : Claims) :
    settings.resolver.find? claims = settings.ranking.findSome? (principalOf? claims) := by
  have users : (settings.userClaims.map fun name => (Role.user, name)).findSome?
        (principalOf? claims) = (Extractor.user settings.userClaims).find? claims := by
    rw [List.findSome?_map, Extractor.find?, List.map_findSome?]
    rfl
  have service : [(Role.service, settings.serviceClaim)].findSome? (principalOf? claims) =
      (Extractor.service settings.serviceClaim).find? claims := List.findSome?_singleton
  unfold resolver Resolver.ofClaims ranking
  cases settings.precedence with
  | serviceFirst => rw [List.findSome?_append, users, service, find?_pair]
  | userFirst => rw [List.findSome?_append, users, service, find?_pair]

private theorem map_fst_ranking (settings : KeyResolution) (name : String) :
    name ∈ settings.ranking.map Prod.snd ↔ name ∈ settings.names := by
  unfold ranking names
  cases settings.precedence with
  | serviceFirst => simp
  | userFirst => simp [or_comm]

/-- Nobody is found exactly if no named claim counts, whatever the precedence. -/
theorem find?_eq_none_iff {settings : KeyResolution} {claims : Claims} :
    settings.resolver.find? claims = none ↔ ∀ name ∈ settings.names, ¬ claims.Has name := by
  simp only [find?_eq_findSome?, List.findSome?_eq_none_iff, ← map_fst_ranking, List.mem_map,
    principalOf?, Option.map_eq_none_iff, Claims.text?_eq_none_iff]
  constructor
  · rintro none name ⟨ranked, member, rfl⟩
    exact none ranked member
  · intro none ranked member
    exact none ranked.2 ⟨ranked, member, rfl⟩

/-- The winning claim names the principal. -/
theorem Wins.find? {settings : KeyResolution} {claims : Claims} {above : List (Role × String)}
    {role : Role} {name value : String} (wins : settings.Wins claims above role name value) :
    settings.resolver.find? claims = some (role.principal value) := by
  obtain ⟨below, ranked⟩ := wins.ranked
  rw [find?_eq_findSome?, List.findSome?_eq_some_iff]
  refine ⟨above, (role, name), below, ranked, ?_, fun other member => ?_⟩
  · rw [principalOf?, Claims.text?_eq_some_iff.mpr wins.told]
    rfl
  · rw [principalOf?, Claims.text?_eq_none_iff.mpr (wins.none other member)]
    rfl

/-- Claims that agree on the winning claim and on all above it have the same winner. -/
theorem Wins.of_agree {settings : KeyResolution} {left right : Claims}
    {above : List (Role × String)} {role : Role} {name value : String}
    (wins : settings.Wins left above role name value)
    (agreeAbove : ∀ other ∈ above, left.AgreeOn right other.2)
    (agree : left.AgreeOn right name) : settings.Wins right above role name value where
  ranked := wins.ranked
  none other member has := by
    obtain ⟨text, told⟩ := has
    exact wins.none other member ⟨text, (agreeAbove other member text).mpr told⟩
  told := (agree value).mp wins.told

/-- What the service claim or the first of the user claims names. -/
def Names (settings : KeyResolution) (claims : Claims) : Role → String → Prop
  | .service, id => claims.Tells settings.serviceClaim id
  | .user, id => claims.FirstTells settings.userClaims id

/-- Some claim of a role counts. -/
def HasRole (settings : KeyResolution) (claims : Claims) : Role → Prop
  | .service => claims.Has settings.serviceClaim
  | .user => ∃ name ∈ settings.userClaims, claims.Has name

private theorem exists_names_iff {settings : KeyResolution} {claims : Claims} {role : Role} :
    (∃ id, settings.Names claims role id) ↔ settings.HasRole claims role := by
  cases role with
  | service => exact Iff.rfl
  | user => exact Claims.exists_firstTells_iff

/-- The extractor of a role. -/
private def extractor (settings : KeyResolution) : Role → Extractor
  | .service => .service settings.serviceClaim
  | .user => .user settings.userClaims

private theorem find?_extractor_eq_some_iff {settings : KeyResolution} {claims : Claims}
    {role : Role} {principal : Principal} :
    (settings.extractor role).find? claims = some principal ↔
      ∃ id, settings.Names claims role id ∧ role.principal id = principal := by
  cases role with
  | service =>
      simp only [extractor, Extractor.find?, Option.map_eq_some_iff, Claims.text?_eq_some_iff]
      rfl
  | user =>
      simp only [extractor, Extractor.find?, Option.map_eq_some_iff, ← Claims.firstTells_iff]
      rfl

private theorem find?_extractor_eq_none_iff {settings : KeyResolution} {claims : Claims}
    {role : Role} :
    (settings.extractor role).find? claims = none ↔ ¬ settings.HasRole claims role := by
  rw [Option.eq_none_iff_forall_ne_some, ← exists_names_iff]
  constructor
  · rintro none ⟨id, named⟩
    exact none _ (find?_extractor_eq_some_iff.mpr ⟨id, named, rfl⟩)
  · intro none principal found
    obtain ⟨id, named, _⟩ := find?_extractor_eq_some_iff.mp found
    exact none ⟨id, named⟩

private theorem find?_eq_or (settings : KeyResolution) (claims : Claims) :
    settings.resolver.find? claims =
      ((settings.extractor settings.precedence.first).find? claims).or
        ((settings.extractor settings.precedence.second).find? claims) := by
  rw [← find?_pair]
  unfold resolver Resolver.ofClaims
  cases settings.precedence <;> rfl

/-- The preferred role names the principal, and the other one only in its absence. -/
theorem find?_eq_some_iff {settings : KeyResolution} {claims : Claims} {principal : Principal} :
    settings.resolver.find? claims = some principal ↔
      (∃ id, settings.Names claims settings.precedence.first id ∧
        settings.precedence.first.principal id = principal) ∨
      ¬ settings.HasRole claims settings.precedence.first ∧
        ∃ id, settings.Names claims settings.precedence.second id ∧
          settings.precedence.second.principal id = principal := by
  rw [find?_eq_or, Option.or_eq_some_iff, find?_extractor_eq_some_iff,
    find?_extractor_eq_none_iff, find?_extractor_eq_some_iff]

/-- Without a claim of one of the roles, the precedence does not matter. -/
theorem find?_prefer_eq_of_lacks {settings : KeyResolution} {claims : Claims} {role : Role}
    (lacks : ¬ settings.HasRole claims role) :
    (settings.prefer .serviceFirst).resolver.find? claims =
      (settings.prefer .userFirst).resolver.find? claims := by
  have missing := find?_extractor_eq_none_iff.mpr lacks
  rw [find?_eq_or, find?_eq_or]
  change ((settings.extractor .service).find? claims).or ((settings.extractor .user).find? claims) =
    ((settings.extractor .user).find? claims).or ((settings.extractor .service).find? claims)
  cases role with
  | service => rw [missing, Option.none_or, Option.or_none]
  | user => rw [missing, Option.none_or, Option.or_none]

end Config.KeyResolution

namespace Resolver

/-- The principal of a token is the one of its claims. -/
theorem principal?_of_read {token : String} {claims : Claims}
    (read : Token.read token = .ok claims) (resolver : Resolver) :
    resolver.principal? token = resolver.find? claims := by
  rw [principal?, read]

theorem principal?_eq_some_iff {resolver : Resolver} {token : String} {principal : Principal} :
    resolver.principal? token = some principal ↔
      ∃ claims, Token.read token = .ok claims ∧ resolver.find? claims = some principal := by
  unfold principal?
  cases Token.read token with
  | ok claims => simp
  | error failure => simp

theorem principal?_eq_none_iff {resolver : Resolver} {token : String} :
    resolver.principal? token = none ↔
      ∀ claims, Token.read token = .ok claims → resolver.find? claims = none := by
  unfold principal?
  cases Token.read token with
  | ok claims => simp
  | error failure => simp

/-- What a token names is a service or a user if its principal is, and never both. -/
structure Accessible (resolver : Resolver) (token : String) : Prop where
  service : ∀ id, resolver.serviceId? token = some id ↔
    resolver.principal? token = some (.service id)
  user : ∀ id, resolver.userId? token = some id ↔ resolver.principal? token = some (.user id)
  exclusive : resolver.serviceId? token = none ∨ resolver.userId? token = none
  named : resolver.namesService token = (resolver.serviceId? token).isSome

theorem accessible (resolver : Resolver) (token : String) : resolver.Accessible token := by
  refine ⟨fun id => ?_, fun id => ?_, ?_, rfl⟩
  · unfold serviceId?
    cases resolver.principal? token with
    | none => simp
    | some principal => cases principal <;> simp
  · unfold userId?
    cases resolver.principal? token with
    | none => simp
    | some principal => cases principal <;> simp
  · unfold serviceId? userId?
    cases resolver.principal? token with
    | none => exact .inl rfl
    | some principal => cases principal <;> simp

end Resolver

namespace Config.KeyResolution

/-- Nobody is found in a token exactly if it cannot be read or no named claim counts, under
any precedence. With one, the preferred role names the principal, and the other one only in
its absence; two precedences differ only if claims of both roles count. Two tokens that agree
on the winning claim and on all claims ranked above it stand for the same principal. What a
token is said to name is its principal. -/
theorem principal?_ranked (settings : KeyResolution) (token : String) :
    (∀ precedence, (settings.prefer precedence).resolver.principal? token = none ↔
      ∀ claims, Token.read token = .ok claims → ∀ name ∈ settings.names, ¬ claims.Has name) ∧
    (∀ precedence principal,
      (settings.prefer precedence).resolver.principal? token = some principal ↔
        ∃ claims, Token.read token = .ok claims ∧
          ((∃ id, settings.Names claims precedence.first id ∧
              precedence.first.principal id = principal) ∨
            ¬ settings.HasRole claims precedence.first ∧
              ∃ id, settings.Names claims precedence.second id ∧
                precedence.second.principal id = principal)) ∧
    ((settings.prefer .serviceFirst).resolver.principal? token ≠
        (settings.prefer .userFirst).resolver.principal? token →
      ∃ claims, Token.read token = .ok claims ∧ ∀ role, settings.HasRole claims role) ∧
    (∀ other left right above role name value,
      Token.read token = .ok left → Token.read other = .ok right →
      settings.Wins left above role name value →
      (∀ ranked ∈ above, left.AgreeOn right ranked.2) → left.AgreeOn right name →
        settings.resolver.principal? token = some (role.principal value) ∧
          settings.resolver.principal? other = some (role.principal value)) ∧
    settings.resolver.Accessible token := by
  refine ⟨fun precedence => ?_, fun precedence principal => ?_, fun differ => ?_, ?_,
    settings.resolver.accessible token⟩
  · rw [Resolver.principal?_eq_none_iff]
    exact forall_congr' fun claims => imp_congr_right fun _ => find?_eq_none_iff
  · rw [Resolver.principal?_eq_some_iff]
    exact exists_congr fun claims => and_congr_right fun _ => find?_eq_some_iff
  · cases read : Token.read token with
    | error failure =>
        simp [Resolver.principal?, read] at differ
    | ok claims =>
        rw [Resolver.principal?_of_read read, Resolver.principal?_of_read read] at differ
        exact ⟨claims, rfl, fun role => Classical.byContradiction fun lacks =>
          differ (find?_prefer_eq_of_lacks lacks)⟩
  · intro other left right above role name value readLeft readRight wins agreeAbove agree
    rw [Resolver.principal?_of_read readLeft, Resolver.principal?_of_read readRight]
    exact ⟨wins.find?, (wins.of_agree agreeAbove agree).find?⟩

/-- The service claim is blank in one token and null in another, and they differ below the
winning claim; in a third one claims of both roles count. -/
theorem principal?_ranked_of_blank :
    let settings : KeyResolution := ⟨"svc", ["email", "sub"], .serviceFirst⟩
    let left : List (String × Json) := [("svc", .text " "), ("email", .text "a@x")]
    let right : List (String × Json) := [("sub", .text "b"), ("svc", .null), ("email", .text "a@x")]
    let both : List (String × Json) := [("sub", .text "b"), ("svc", .text "s")]
    let token members := (⟨['h'], ['s'], 0, 0⟩ : Token.Frame).token (Json.object members).bytes
    Token.read (token left) = .ok ⟨left⟩ ∧ Token.read (token right) = .ok ⟨right⟩ ∧
      settings.Wins ⟨left⟩ [(.service, "svc")] .user "email" "a@x" ∧
      (∀ ranked ∈ [(Role.service, "svc")],
        (Claims.mk left).AgreeOn ⟨right⟩ ranked.2) ∧
      (Claims.mk left).AgreeOn ⟨right⟩ "email" ∧
      settings.resolver.principal? (token left) = some (.user "a@x") ∧
      settings.resolver.principal? (token right) = some (.user "a@x") ∧
      (settings.prefer .serviceFirst).resolver.principal? (token both) ≠
        (settings.prefer .userFirst).resolver.principal? (token both) ∧
      ∃ claims, Token.read (token both) = .ok claims ∧ ∀ role, settings.HasRole claims role := by
  intro settings left right both token
  have read (members : List (String × Json))
      (readable : Json.Readable Json.depthLimit (.object members)) :
      Token.read (token members) = .ok ⟨members⟩ :=
    Token.read_object readable ⟨by decide, by decide, by decide, Nat.zero_le _⟩
  have readLeft := read left (.object (by decide) (by simp [left, Json.Readable.text]))
  have readRight := read right
    (.object (by decide) (by simp [right, Json.Readable.text, Json.Readable.null]))
  have readBoth := read both (.object (by decide) (by simp [both, Json.Readable.text]))
  have wins : settings.Wins ⟨left⟩ [(.service, "svc")] .user "email" "a@x" := by
    refine ⟨⟨[(.user, "sub")], rfl⟩, fun other member => ?_, rfl, by decide⟩
    rw [List.mem_singleton.mp member, ← Claims.text?_eq_none_iff]
    decide
  have agreeAbove : ∀ ranked ∈ [(Role.service, "svc")],
      (Claims.mk left).AgreeOn ⟨right⟩ ranked.2 := fun ranked member => by
    rw [List.mem_singleton.mp member, Claims.agreeOn_iff]
    decide
  have agree : (Claims.mk left).AgreeOn ⟨right⟩ "email" := Claims.agreeOn_iff.mpr (by decide)
  have differ : (settings.prefer .serviceFirst).resolver.principal? (token both) ≠
      (settings.prefer .userFirst).resolver.principal? (token both) := by
    rw [Resolver.principal?_of_read readBoth, Resolver.principal?_of_read readBoth]
    decide +kernel
  have same := (principal?_ranked settings (token left)).2.2.2.1 (token right) ⟨left⟩ ⟨right⟩
    [(.service, "svc")] .user "email" "a@x" readLeft readRight wins agreeAbove agree
  exact ⟨readLeft, readRight, wins, agreeAbove, agree, same.1, same.2, differ,
    (principal?_ranked settings (token both)).2.2.1 differ⟩

end Config.KeyResolution

end Turnstile
