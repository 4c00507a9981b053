import Turnstile.Event.Line
import Turnstile.Proofs.Text.Digit

/-!
# One line for one event

What can take an event past the end of its line. Text in quotation marks cannot, whatever it
holds (`Text.oneLine_quoted`), and neither can what the program words itself: a line breaks
exactly where a field that is shown as it is does (`Event.oneLine_line_iff`), which may be
one with the words of a library.
-/

namespace Turnstile

namespace Text

/-- Characters that stay on one line. -/
def OneLine (chars : List Char) : Prop :=
  ∀ c ∈ chars, c ≠ '\n' ∧ c ≠ '\r'

instance (chars : List Char) : Decidable (OneLine chars) :=
  List.decidableBAll _ chars

@[simp]
theorem oneLine_nil : OneLine [] :=
  nofun

@[simp]
theorem oneLine_append {first second : List Char} :
    OneLine (first ++ second) ↔ OneLine first ∧ OneLine second :=
  List.forall_mem_append

@[simp]
theorem oneLine_cons {c : Char} {rest : List Char} :
    OneLine (c :: rest) ↔ (c ≠ '\n' ∧ c ≠ '\r') ∧ OneLine rest :=
  List.forall_mem_cons

/-- Some of the characters stay on the line that all of them are on. -/
theorem OneLine.subset {chars kept : List Char} (oneLine : OneLine chars) (part : kept ⊆ chars) :
    OneLine kept :=
  fun c member => oneLine c (part member)

/-- Numbers stay on one line. -/
theorem oneLine_toDigits {radix : Nat} (low : 1 < radix) (high : radix ≤ 16) (n : Nat) :
    OneLine (Nat.toDigits radix n) := by
  intro c member
  have digit := isDigitOf_of_mem_toDigits low high member
  constructor
  · rintro rfl
    cases digit
  · rintro rfl
    cases digit

private theorem oneLine_quotedChar (c : Char) : OneLine (quotedChar c) := by
  unfold quotedChar
  split
  · next mark => rcases mark with rfl | rfl <;> decide
  split
  · decide
  split
  · decide
  split
  · decide
  · next notFeed =>
      split
      · decide
      · next notReturn =>
          split
          · have digits := oneLine_toDigits (show 1 < 16 by decide) (by decide) c.toNat
            simp only [codePointChars, oneLine_append]
            exact ⟨⟨by decide, digits⟩, by decide⟩
          · intro other member
            rw [List.mem_singleton.mp member]
            exact ⟨notFeed, notReturn⟩

/-- Quoted text stays on one line, whatever it holds. -/
theorem oneLine_quoted (text : String) : OneLine (quoted text).toList := by
  have inner : OneLine (text.toList.flatMap quotedChar) := by
    intro c member
    obtain ⟨quotedOf, _, inside⟩ := List.mem_flatMap.mp member
    exact oneLine_quotedChar quotedOf c inside
  rw [quoted, String.toList_ofList, oneLine_append, oneLine_cons]
  exact ⟨⟨by decide, inner⟩, by decide⟩

end Text

open Text

/-- The texts that a field holds. -/
def FieldValue.texts : FieldValue → List String
  | number _ => []
  | flag _ => []
  | plain value => [value]
  | quoted value => [value]
  | optional value => value.toList

/-- A value in a line breaks it only if it is text shown as it is. -/
theorem FieldValue.oneLine_render_iff {value : FieldValue} :
    OneLine value.render.toList ↔ ∀ text, value = .plain text → OneLine text.toList := by
  cases value with
  | number value =>
      rw [render, String.toList_ofList]
      simpa using oneLine_toDigits (by decide) (by decide) value
  | flag value =>
      have words : ∀ value : Bool, OneLine (if value then "true" else "false").toList := by decide
      simpa [render] using words value
  | plain value => simp [render]
  | quoted value => simpa [render] using oneLine_quoted value
  | optional value =>
      cases value with
      | none => simp [render]
      | some value => simpa [render] using oneLine_quoted value

namespace Event

/-- The texts in the fields of an event. -/
def texts (complaints : Complaints) (event : Event) : List String :=
  (event.shownFields complaints).flatMap fun field => field.2.texts

/-- A field holds the words of a library or is filled by the gateway. -/
theorem mem_shownFields_iff {complaints : Complaints} {event : Event}
    {field : String × FieldValue} :
    field ∈ event.shownFields complaints ↔
      (∃ decoder ∈ event.decoder?, field = ("error", .plain (complaints decoder))) ∨
        field ∈ event.fields := by
  unfold shownFields
  cases event.decoder? with
  | none => simp
  | some decoder => simp

/-- What the program words itself stays on one line. -/
theorem oneLine_wording (event : Event) :
    OneLine event.level.name.toList ∧ OneLine event.target.toList ∧
      OneLine event.message.toList ∧ ∀ field ∈ event.fields, OneLine field.1.toList := by
  cases event <;> simp [level, Level.name, target, message, fields]

theorem oneLine_foldl (fields : List (String × FieldValue)) (start : String) :
    OneLine (fields.foldl (fun line (name, value) => line ++ " " ++ name ++ "=" ++ value.render)
        start).toList ↔
      OneLine start.toList ∧
        ∀ field ∈ fields, OneLine field.1.toList ∧ OneLine field.2.render.toList := by
  induction fields generalizing start with
  | nil => simp
  | cons field rest inductionHypothesis =>
      rw [List.foldl_cons, inductionHypothesis]
      simp [and_assoc]

/-- The line of an event breaks exactly where a field that is shown as it is does. -/
theorem oneLine_line_iff {complaints : Complaints} {span : Option Span} {event : Event} :
    OneLine (event.line complaints span).toList ↔
      (∀ shown ∈ span, OneLine shown.render.toList) ∧
        ∀ name text, (name, .plain text) ∈ event.shownFields complaints →
          OneLine text.toList := by
  obtain ⟨level, target, message, own⟩ := event.oneLine_wording
  have names : ∀ field ∈ event.shownFields complaints, OneLine field.1.toList := by
    intro field member
    rcases mem_shownFields_iff.mp member with ⟨decoder, _, rfl⟩ | filled
    · change OneLine "error".toList
      decide
    · exact own field filled
  have values : OneLine (event.text complaints).toList ↔
      ∀ name text, (name, .plain text) ∈ event.shownFields complaints → OneLine text.toList := by
    rw [Event.text, oneLine_foldl, and_iff_right message]
    constructor
    · intro each name text member
      exact FieldValue.oneLine_render_iff.mp (each _ member).2 text rfl
    · rintro each ⟨name, value⟩ member
      refine ⟨names _ member, FieldValue.oneLine_render_iff.mpr ?_⟩
      rintro text rfl
      exact each name text member
  cases span with
  | none => simp [line, level, target, values]
  | some shown => simp [line, level, target, values]

end Event

end Turnstile
