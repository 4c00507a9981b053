import Mathlib.Data.List.TakeWhile
import Turnstile.Text.Blank

/-!
# White space at the ends

Trimming takes white space off both ends of a text and nothing else. White space that is
put in front of a text or behind it is taken off again (`trim_append_left`,
`trim_append_right`), every other character stays (`mem_trimChars`), and a text without
white space at its ends is left as it is (`trimChars_eq_self_iff`).
-/

namespace Turnstile.Text

/-- A text with a character that is not white space is not blank. -/
theorem isBlank_of_mem {text : String} {c : Char} (member : c ∈ text.toList)
    (visible : isWhiteSpace c = false) : isBlank text = false := by
  rw [isBlank, List.all_eq_false]
  exact ⟨c, member, Bool.eq_false_iff.mp visible⟩

section

variable {blank : List Char} (white : ∀ c ∈ blank, isWhiteSpace c = true)
include white

private theorem trimChars_append_left (chars : List Char) :
    trimChars (blank ++ chars) = trimChars chars := by
  rw [trimChars, List.dropWhile_append_of_pos white]
  rfl

private theorem trimChars_append_right (chars : List Char) :
    trimChars (chars ++ blank) = trimChars chars := by
  have mirrored : ∀ c ∈ blank.reverse, isWhiteSpace c = true := by simpa using white
  unfold trimChars
  rw [List.dropWhile_append]
  split
  · next none => rw [List.isEmpty_iff.mp none, List.dropWhile_eq_nil_iff.mpr white]
  · rw [List.reverse_append, List.dropWhile_append_of_pos mirrored]

end

/-- White space in front is taken off. -/
theorem trim_append_left {blank : String} (white : isBlank blank = true) (text : String) :
    trim (blank ++ text) = trim text := by
  rw [trim, String.toList_append, trimChars_append_left (List.all_eq_true.mp white)]
  rfl

/-- White space behind is taken off. -/
theorem trim_append_right {blank : String} (white : isBlank blank = true) (text : String) :
    trim (text ++ blank) = trim text := by
  rw [trim, String.toList_append, trimChars_append_right (List.all_eq_true.mp white)]
  rfl

private theorem mem_dropWhile {chars : List Char} {c : Char} (member : c ∈ chars)
    (visible : isWhiteSpace c = false) : c ∈ chars.dropWhile isWhiteSpace := by
  rw [← List.takeWhile_append_dropWhile (p := isWhiteSpace) (l := chars)] at member
  rcases List.mem_append.mp member with taken | kept
  · rw [List.mem_takeWhile_imp taken] at visible
    cases visible
  · exact kept

/-- Other characters than white space stay. -/
theorem mem_trimChars {chars : List Char} {c : Char} (member : c ∈ chars)
    (visible : isWhiteSpace c = false) : c ∈ trimChars chars := by
  have front := mem_dropWhile member visible
  exact List.mem_reverse.mpr (mem_dropWhile (List.mem_reverse.mpr front) visible)

/-- Trimming leaves nothing exactly of text that holds white space alone. -/
theorem trim_isEmpty (text : String) : (trim text).isEmpty = isBlank text := by
  cases blank : isBlank text with
  | true =>
      rw [trim, trimChars, List.dropWhile_eq_nil_iff.mpr (List.all_eq_true.mp blank)]
      rfl
  | false =>
      obtain ⟨c, member, visible⟩ := List.all_eq_false.mp blank
      have kept := mem_trimChars member (Bool.eq_false_iff.mpr visible)
      rw [Bool.eq_false_iff, ne_eq, String.isEmpty_iff, ← String.toList_eq_nil_iff, trim,
        String.toList_ofList]
      exact List.ne_nil_of_mem kept

/-- A trimmed text is blank exactly if the text is. -/
theorem isBlank_trim (text : String) : isBlank (trim text) = isBlank text := by
  cases blank : isBlank text with
  | true =>
      rw [← trim_isEmpty, String.isEmpty_iff] at blank
      rw [blank]
      rfl
  | false =>
      obtain ⟨c, member, visible⟩ := List.all_eq_false.mp blank
      have visible := Bool.eq_false_iff.mpr visible
      refine isBlank_of_mem (c := c) ?_ visible
      rw [trim, String.toList_ofList]
      exact mem_trimChars member visible

private theorem dropWhile_eq_self_iff {chars : List Char} :
    chars.dropWhile isWhiteSpace = chars ↔ ∀ c ∈ chars.head?, isWhiteSpace c = false := by
  cases chars with
  | nil => simp
  | cons c rest =>
      by_cases white : isWhiteSpace c = true
      · have shorter := (List.dropWhile_suffix isWhiteSpace (l := rest)).length_le
        simp only [List.dropWhile_cons_of_pos white, List.head?_cons, Option.mem_some_iff,
          forall_eq', white, Bool.true_eq_false, iff_false]
        intro same
        rw [same, List.length_cons] at shorter
        omega
      · simpa [List.dropWhile_cons_of_neg white] using white

/-- Text is left as it is exactly if it has white space at neither end. -/
theorem trimChars_eq_self_iff {chars : List Char} :
    trimChars chars = chars ↔
      (∀ c ∈ chars.head?, isWhiteSpace c = false) ∧
        ∀ c ∈ chars.getLast?, isWhiteSpace c = false := by
  rw [← List.head?_reverse, ← dropWhile_eq_self_iff, ← dropWhile_eq_self_iff, trimChars]
  constructor
  · intro kept
    have front := List.dropWhile_suffix isWhiteSpace (l := chars)
    have behind := List.dropWhile_suffix isWhiteSpace
      (l := (chars.dropWhile isWhiteSpace).reverse)
    -- Each pass can only shorten the text, so neither does.
    have size := congrArg List.length kept
    have sizeFront := front.length_le
    have sizeBehind := behind.length_le
    rw [List.length_reverse] at size sizeBehind
    have whole := front.eq_of_length (by omega)
    rw [whole] at behind size
    exact ⟨whole, behind.eq_of_length (by rw [List.length_reverse]; omega)⟩
  · rintro ⟨front, behind⟩
    rw [front, behind, List.reverse_reverse]


/-- A text is what it holds up to its last character that is not white space, and white
space behind. -/
theorem exists_append_blank (text : String) :
    ∃ kept blank : String, text = kept ++ blank ∧ isBlank blank = true ∧
      ∀ c ∈ kept.toList.getLast?, isWhiteSpace c = false := by
  let chars := text.toList.reverse
  refine ⟨String.ofList (chars.dropWhile isWhiteSpace).reverse,
    String.ofList (chars.takeWhile isWhiteSpace).reverse, ?_, ?_, ?_⟩
  · rw [← String.ofList_append, ← List.reverse_append, List.takeWhile_append_dropWhile,
      List.reverse_reverse, String.ofList_toList]
  · rw [isBlank, String.toList_ofList, List.all_reverse, List.all_eq_true]
    intro c member
    exact List.mem_takeWhile_imp member
  · rw [String.toList_ofList, List.getLast?_reverse]
    intro c first
    have stopped := List.head?_dropWhile_not isWhiteSpace chars
    simpa [Option.mem_def.mp first] using stopped

end Turnstile.Text
