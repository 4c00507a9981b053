import Turnstile.Config

/-!
# Whom claims name

A claim counts as text exactly if it is a string that is not blank
(`Claims.text?_eq_some_iff`), so whoever a built-in extractor finds has a name. If a single
claim counts, it is found under its name and nowhere else (`KeyResolution.find?_eq_user`).
-/

namespace Turnstile

/-- Members of distinct names are found under their names, and nothing else is found. -/
theorem Json.member?_eq_some_iff {members : List (String × Json)}
    (distinct : (members.map Prod.fst).Nodup) {name : String} {value : Json} :
    member? members name = some value ↔ (name, value) ∈ members := by
  induction members with
  | nil => simp [member?]
  | cons first rest inductionHypothesis =>
      obtain ⟨other, held⟩ := first
      obtain ⟨fresh, distinctRest⟩ := List.nodup_cons.mp distinct
      rw [member?, List.mem_cons, Prod.mk.injEq]
      by_cases same : other = name
      · subst same
        have absent : (other, value) ∉ rest := fun member =>
          fresh (List.mem_map.mpr ⟨_, member, rfl⟩)
        simp [absent, eq_comm]
      · rw [if_neg same, inductionHypothesis distinctRest]
        simp [Ne.symm same]

namespace Claims

/-- A claim counts as text exactly if it is a string that is not blank. -/
theorem text?_eq_some_iff {claims : Claims} {name value : String} :
    claims.text? name = some value ↔
      claims.claim? name = some (.text value) ∧ Text.isBlank value = false := by
  unfold text?
  split
  · next held found =>
      rw [found]
      cases blank : Text.isBlank held with
      | true =>
          simp only [Text.nonBlank?, blank, if_true, reduceCtorEq, Option.some.injEq,
            Json.text.injEq, false_iff, not_and]
          rintro rfl
          simp [blank]
      | false =>
          simp only [Text.nonBlank?, blank, Bool.false_eq_true, if_false, Option.some.injEq,
            Json.text.injEq]
          constructor
          · rintro rfl
            exact ⟨rfl, blank⟩
          · exact And.left
  · next notText =>
      simp only [reduceCtorEq, false_iff, not_and]
      intro found
      exact absurd found (notText value)

/-- Only one claim counts as text: the one of this name, and it says this. -/
structure NamesOnly (claims : Claims) (name value : String) : Prop where
  distinct : (claims.members.map Prod.fst).Nodup
  member : (name, .text value) ∈ claims.members
  filled : Text.isBlank value = false
  only : ∀ other text, (other, .text text) ∈ claims.members → Text.isBlank text = false →
    other = name

/-- The one claim that counts is found. -/
theorem NamesOnly.text? {claims : Claims} {name value : String}
    (only : claims.NamesOnly name value) : claims.text? name = some value :=
  text?_eq_some_iff.mpr ⟨(Json.member?_eq_some_iff only.distinct).mpr only.member, only.filled⟩

/-- Under another name there is no claim that counts. -/
theorem NamesOnly.text?_of_ne {claims : Claims} {name value other : String}
    (only : claims.NamesOnly name value) (differs : other ≠ name) : claims.text? other = none := by
  rw [Option.eq_none_iff_forall_ne_some]
  intro text found
  obtain ⟨held, filled⟩ := text?_eq_some_iff.mp found
  exact differs (only.only other text ((Json.member?_eq_some_iff only.distinct).mp held) filled)

end Claims

/-- An extractor that the gateway brings along. -/
def Extractor.IsBuiltIn : Extractor → Prop
  | custom _ => False
  | _ => True

/-- A principal that built-in extractors find has a name. -/
theorem Resolver.isBlank_identifier {resolver : Resolver}
    (builtIn : ∀ extractor ∈ resolver.chain, extractor.IsBuiltIn)
    {token : String} {principal : Principal} (found : resolver.principal? token = some principal) :
    Text.isBlank principal.identifier = false := by
  unfold Resolver.principal? at found
  split at found
  · next claims _ =>
      obtain ⟨extractor, member, found⟩ := List.exists_of_findSome?_eq_some found
      cases extractor with
      | service claim =>
          obtain ⟨value, text, rfl⟩ := Option.map_eq_some_iff.mp found
          exact (Claims.text?_eq_some_iff.mp text).2
      | user names =>
          obtain ⟨value, first, rfl⟩ := Option.map_eq_some_iff.mp found
          obtain ⟨name, _, text⟩ := List.exists_of_findSome?_eq_some first
          exact (Claims.text?_eq_some_iff.mp text).2
      | custom rule => exact absurd (builtIn _ member) id
  · cases found

/-- Claims of which only a user's counts name this user, whichever claim is asked first. -/
theorem Config.KeyResolution.find?_eq_user (settings : KeyResolution) {claims : Claims}
    {name value : String} (only : claims.NamesOnly name value)
    (listed : name ∈ settings.userClaims) (differs : settings.serviceClaim ≠ name) :
    settings.resolver.find? claims = some (.user value) := by
  have service : (Extractor.service settings.serviceClaim).find? claims = none := by
    rw [Extractor.find?, only.text?_of_ne differs]
    rfl
  have first : settings.userClaims.findSome? claims.text? = some value := by
    cases asked : settings.userClaims.findSome? claims.text? with
    | none =>
        have missing := List.findSome?_eq_none_iff.mp asked name listed
        rw [only.text?] at missing
        cases missing
    | some found =>
        obtain ⟨other, _, text⟩ := List.exists_of_findSome?_eq_some asked
        by_cases same : other = name
        · rw [same, only.text?] at text
          exact text.symm
        · rw [only.text?_of_ne same] at text
          cases text
  have user : (Extractor.user settings.userClaims).find? claims = some (.user value) := by
    rw [Extractor.find?, first]
    rfl
  unfold resolver Resolver.ofClaims
  cases settings.precedence with
  | serviceFirst => simp [Resolver.find?, service, user]
  | userFirst => simp [Resolver.find?, user]

end Turnstile
