import Turnstile.Principal
import Turnstile.Proofs.Text.Blank

/-!
# Keys announce their kind

A key composed of one of the four announced kinds and any identifier is taken apart
again into that kind and that identifier, whatever text the identifier holds.
-/

namespace Turnstile

namespace Key

/-- A composed key is taken apart into what it was composed of. -/
theorem split?_compose {kind : Kind} (announced : kind ∈ Kind.announced) (identifier : String) :
    split? (compose kind identifier) = some (kind, identifier) := by
  simp only [split?, compose, String.toList_append]
  generalize rest : identifier.toList = chars
  have identifierEq : String.ofList chars = identifier := by rw [← rest, String.ofList_toList]
  rw [← identifierEq]
  cases kind with
  | user => rfl
  | service => rfl
  | ip => rfl
  | auth => rfl
  | unknown => exact absurd announced (by decide)

/-- The kind of a composed key is the one it was composed of. -/
theorem kind_compose {kind : Kind} (announced : kind ∈ Kind.announced) (identifier : String) :
    Key.kind (compose kind identifier) = kind := by
  rw [Key.kind, split?_compose announced]

/-- A composed key is not blank: it has a colon in it. -/
theorem isBlank_compose (kind : Kind) (identifier : String) :
    Text.isBlank (compose kind identifier) = false := by
  refine Text.isBlank_of_mem (c := ':') ?_ (by decide)
  simp [compose, Kind.lead]

/-- The identifier of a composed key is the one it was composed of. -/
theorem identifier_compose {kind : Kind} (announced : kind ∈ Kind.announced)
    (identifier : String) : Key.identifier (compose kind identifier) = identifier := by
  rw [Key.identifier, isBlank_compose, split?_compose announced]
  rfl

end Key

/-- A principal is of a kind that keys announce. -/
theorem Principal.kind_announced (principal : Principal) :
    principal.kind ∈ Key.Kind.announced := by
  cases principal <;> simp [Principal.kind, Key.Kind.announced]

/-- The key of a principal is of the principal's kind. -/
theorem Principal.kind_key (principal : Principal) : Key.kind principal.key = principal.kind :=
  Key.kind_compose principal.kind_announced _

/-- The identifier of a principal's key is the principal's. -/
theorem Principal.identifier_key (principal : Principal) :
    Key.identifier principal.key = principal.identifier :=
  Key.identifier_compose principal.kind_announced _

end Turnstile
