/-!
# Offsets in bytes

A place in a text is told by the number of bytes in front of it, and a text can be cut only
between two of its characters, each of which takes one to four bytes. The offset of a character,
found by adding up the widths of those before it, is such a place (`firstBytes?_of_offset`).
-/

namespace Turnstile.Text

/-- The number of bytes in front of each character, if there are so many in front of the first. -/
def offsets (front : Nat) : List Char → List Nat
  | [] => []
  | c :: rest => front :: offsets (front + c.utf8Size) rest

/-- The first bytes of a text, unless they end within a character. -/
def firstBytes? (count : Nat) (text : String) : Option String :=
  if boundary : (⟨count⟩ : String.Pos.Raw).IsValid text then
    some (text.sliceTo ⟨⟨count⟩, boundary⟩).copy
  else none

/-- First bytes that are there end between two characters. -/
theorem isValid_of_firstBytes? {count : Nat} {text first : String}
    (found : firstBytes? count text = some first) :
    (⟨count⟩ : String.Pos.Raw).IsValid text := by
  unfold firstBytes? at found
  split at found
  · next boundary => exact boundary
  · cases found

/-- The offset of a character is the number of bytes that the characters before it take. -/
theorem getElem?_offsets (front : Nat) (chars : List Char) (index : Nat) :
    (offsets front chars)[index]? =
      if index < chars.length then
        some (front + (String.ofList (chars.take index)).utf8ByteSize)
      else none := by
  induction chars generalizing front index with
  | nil => rfl
  | cons c rest inductionHypothesis =>
      cases index with
      | zero => rfl
      | succ index =>
          rw [offsets, List.getElem?_cons_succ, inductionHypothesis, List.take_succ_cons,
            String.ofList_cons, String.utf8ByteSize_append, String.utf8ByteSize_singleton,
            Nat.add_assoc]
          simp

/-- A text can be cut behind any text that it starts with. -/
theorem firstBytes?_append (front behind : String) :
    firstBytes? front.utf8ByteSize (front ++ behind) = some front := by
  have boundary : front.rawEndPos.IsValid (front ++ behind) :=
    String.Pos.Raw.isValid_iff_exists_append.mpr ⟨front, behind, rfl, rfl⟩
  have splits : (⟨front.rawEndPos, boundary⟩ : (front ++ behind).Pos).Splits front behind :=
    ⟨rfl, rfl⟩
  exact (dif_pos boundary).trans (congrArg some splits.copy_sliceTo_eq)

/-- The second byte of a character is no place to cut. -/
example : firstBytes? 1 "é" = none := by
  decide

/-- At the offset of a character nothing is cut in two, and what stands before it is kept. -/
theorem firstBytes?_of_offset {text : String} {index offset : Nat}
    (found : (offsets 0 text.toList)[index]? = some offset) :
    firstBytes? offset text = some (String.ofList (text.toList.take index)) := by
  rw [getElem?_offsets, Nat.zero_add] at found
  obtain ⟨_, width⟩ := Option.ite_none_right_eq_some.mp found
  obtain rfl := Option.some.inj width
  have whole : String.ofList (text.toList.take index) ++ String.ofList (text.toList.drop index) =
      text := by
    rw [← String.ofList_append, List.take_append_drop, String.ofList_toList]
  have cut := firstBytes?_append (String.ofList (text.toList.take index))
    (String.ofList (text.toList.drop index))
  rwa [whole] at cut

end Turnstile.Text
