import Turnstile.Proofs.Token.RoundTrip

/-!
# Where a token is given up

A token without claims is given up at one of five stages, which `FailsAt` tells apart by the
segments of the token, the bytes of its payload and the JSON in them. Reading arrives at the
same stage (`read_eq_error_iff`), and the stage alone decides what is reported.
-/

namespace Turnstile.Token

/-- The stage at which a token is given up. -/
inductive FailsAt (token : String) : Failure → Prop
  | blank (blank : Text.isBlank token = true) : FailsAt token .blank
  /-- The number of segments leaves out empty ones at the end. -/
  | shape (filled : Text.isBlank token = false) (others : (segments token).length ≠ 3) :
      FailsAt token (.shape (segments token).length)
  | encoding {header payload signature : List Char}
      (found : segments token = [header, payload, signature])
      (undecoded : Base64url.decode? (Base64url.pad (String.ofList payload)).toList = none) :
      FailsAt token .encoding
  | malformed {header payload signature : List Char} {bytes : List UInt8}
      (found : segments token = [header, payload, signature])
      (decoded : Base64url.decode? (Base64url.pad (String.ofList payload)).toList = some bytes)
      (unread : Json.ofBytes? bytes = none) : FailsAt token .malformed
  | notObject {header payload signature : List Char} {bytes : List UInt8} {value : Json}
      (found : segments token = [header, payload, signature])
      (decoded : Base64url.decode? (Base64url.pad (String.ofList payload)).toList = some bytes)
      (spelled : Json.ofBytes? bytes = some value)
      (other : ∀ members, value ≠ .object members) : FailsAt token .notObject

theorem FailsAt.of_claimsOf {token : String} {header payload signature : List Char}
    {failure : Failure} (found : segments token = [header, payload, signature])
    (failed : claimsOf payload = .error failure) : FailsAt token failure := by
  unfold claimsOf at failed
  split at failed
  · next undecoded =>
      cases failed
      exact .encoding found undecoded
  · next bytes decoded =>
      split at failed
      · cases failed
      · next value other spelled =>
          cases failed
          exact .notObject found decoded spelled fun members same => other members same
      · next unread =>
          cases failed
          exact .malformed found decoded unread

/-- A token is given up where reading it ends. -/
theorem read_eq_error_iff {token : String} {failure : Failure} :
    read token = .error failure ↔ FailsAt token failure := by
  constructor
  · intro failed
    unfold read at failed
    split at failed
    · next blank =>
        cases failed
        exact .blank blank
    · next filled =>
        split at failed
        · next header payload signature found => exact .of_claimsOf found failed
        · next others =>
            cases failed
            refine .shape (Bool.eq_false_iff.mpr filled) fun three => ?_
            obtain ⟨header, payload, signature, found⟩ := List.length_eq_three.mp three
            exact others header payload signature found
  · intro stage
    cases stage with
    | blank blank => exact if_pos blank
    | shape filled others =>
        rw [read, filled, if_neg Bool.false_ne_true]
        split
        · next header payload signature found =>
            rw [found] at others
            exact absurd rfl others
        · rfl
    | encoding found undecoded =>
        simp only [read_of_segments found, claimsOf, undecoded]
    | malformed found decoded unread =>
        simp only [read_of_segments found, claimsOf, decoded, unread]
    | notObject found decoded spelled other =>
        simp only [read_of_segments found, claimsOf, decoded, spelled]

/-- The stage at which a token is given up is all that is reported of it. -/
theorem FailsAt.events_eq {token : String} {failure : Failure} (stage : FailsAt token failure) :
    events token = failure.events := by
  rw [events, read_eq_error_iff.mpr stage]

/-- A token has claims or is given up at some stage. -/
theorem read_or_failsAt (token : String) :
    (∃ claims, read token = .ok claims) ∨ ∃ failure, FailsAt token failure := by
  cases outcome : read token with
  | ok claims => exact .inl ⟨claims, rfl⟩
  | error failure => exact .inr ⟨failure, read_eq_error_iff.mp outcome⟩

end Turnstile.Token
