import Turnstile.Key

/-!
# Shown identifiers

An identifier is shown up to its hundredth character, however many bytes each of them takes:
the offset of the next one is the width of the first hundred (`cut?_eq_some_iff`), so that the
cut leaves exactly these (`display_eq`). What is shown depends on the first hundred and one
characters alone, the last of them telling only whether there are more than a hundred.
-/

namespace Turnstile.Key

/-- An identifier is cut exactly if it has more than a hundred characters, and behind these. -/
theorem cut?_eq_some_iff {identifier : String} {offset : Nat} :
    cut? identifier = some offset ↔ 100 < identifier.length ∧
      offset = (String.ofList (identifier.toList.take 100)).utf8ByteSize := by
  rw [cut?, Text.getElem?_offsets, Nat.zero_add, Option.ite_none_right_eq_some, Option.some_inj,
    String.length_toList, eq_comm (a := offset)]
  rfl

theorem cut?_eq_none_iff {identifier : String} :
    cut? identifier = none ↔ identifier.length ≤ 100 := by
  rw [Option.eq_none_iff_forall_ne_some]
  simp [cut?_eq_some_iff]

/-- What is shown of an identifier of these characters. -/
def abbreviated (chars : List Char) : String :=
  if chars.length ≤ 100 then String.ofList chars else String.ofList (chars.take 100) ++ "..."

/-- An identifier is shown up to its hundredth character. -/
theorem display_eq (key : String) : display key = abbreviated (identifier key).toList := by
  have shown : display? key = some (abbreviated (identifier key).toList) := by
    unfold display? abbreviated
    rw [String.length_toList]
    split
    · next offset found =>
        obtain ⟨long, _⟩ := cut?_eq_some_iff.mp found
        rw [if_neg (Nat.not_le.mpr long), Text.firstBytes?_of_offset found]
        rfl
    · next whole => rw [if_pos (cut?_eq_none_iff.mp whole), String.ofList_toList]
  simp [display, shown]

/-- Only the first hundred and one characters matter. -/
theorem abbreviated_take (chars : List Char) :
    abbreviated (chars.take 101) = abbreviated chars := by
  unfold abbreviated
  rcases Nat.lt_or_ge 100 chars.length with long | short
  · rw [if_neg (by simp; omega), if_neg (by omega), List.take_take]
    rfl
  · rw [List.take_of_length_le (by omega)]

theorem length_abbreviated_le (chars : List Char) : (abbreviated chars).length ≤ 103 := by
  unfold abbreviated
  split
  · next short =>
      rw [String.length_ofList]
      omega
  · have dots : "...".length = 3 := by decide
    rw [String.length_append, String.length_ofList, List.length_take, dots]
    omega

/-- How the identifier of a key is shown. -/
structure Displayed (key : String) : Prop where
  /-- An identifier of at most a hundred characters is shown as it is. -/
  whole : (identifier key).length ≤ 100 → display key = identifier key
  /-- Of a longer one the first hundred characters are shown, and three dots. -/
  shortened : 100 < (identifier key).length →
    display key = String.ofList ((identifier key).toList.take 100) ++ "..."
  /-- Of no identifier more is shown than that. -/
  length_le : (display key).length ≤ 103
  /-- A cut is made exactly in a longer one, and behind the bytes of the first hundred
  characters. -/
  cut : ∀ offset, cut? (identifier key) = some offset ↔ 100 < (identifier key).length ∧
    offset = (String.ofList ((identifier key).toList.take 100)).utf8ByteSize
  /-- No cut goes through a character. -/
  boundary : ∀ offset ∈ cut? (identifier key),
    (⟨offset⟩ : String.Pos.Raw).IsValid (identifier key)
  /-- So there always is something to be shown. -/
  total : display? key = some (display key)
  /-- Identifiers that start with the same hundred and one characters are shown alike. -/
  alike : ∀ other, (identifier other).toList.take 101 = (identifier key).toList.take 101 →
    display other = display key

/-- Every key is shown without cutting a character in two. -/
theorem displayed (key : String) : Displayed key where
  whole short := by
    rw [← String.length_toList] at short
    rw [display_eq, abbreviated, if_pos short, String.ofList_toList]
  shortened long := by
    rw [← String.length_toList] at long
    rw [display_eq, abbreviated, if_neg (Nat.not_le.mpr long)]
  length_le := by
    rw [display_eq]
    exact length_abbreviated_le _
  cut _ := cut?_eq_some_iff
  boundary _ found := Text.isValid_of_firstBytes? (Text.firstBytes?_of_offset found)
  total := (Option.some_get _).symm
  alike other same := by
    rw [display_eq, display_eq, ← abbreviated_take, same, abbreviated_take]

end Turnstile.Key
