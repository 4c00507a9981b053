import Mathlib.Algebra.Ring.Nat
import Turnstile.Proofs.Toml.Sections

/-!
# What can be written in TOML

The grammar can say any text, any integer that is not negative, and any list of what it can
say; of the many spellings one is enough (`Writable`). Every character that is not printed
as it stands has an escape of eight digits. Sections under headers are spelled line by line
(`exists_spells`).
-/

namespace Turnstile.Toml.Grammar

/-! ## Digits -/

/-- A number in so many hexadecimal digits. -/
def hexDigits : Nat → Nat → List Char
  | 0, _ => []
  | count + 1, number => hexDigits count (number / 16) ++ [Text.hexDigit (number % 16)]

theorem hexValue?_hexDigit {digit : Nat} (small : digit < 16) :
    Text.hexValue? (Text.hexDigit digit) = some digit := by
  have each : ∀ digit < 16, Text.hexValue? (Text.hexDigit digit) = some digit := by decide
  exact each digit small

theorem length_hexDigits (count number : Nat) : (hexDigits count number).length = count := by
  induction count generalizing number with
  | zero => rfl
  | succ count inductionHypothesis => simp [hexDigits, inductionHypothesis]

theorem isDigitOf_of_mem_hexDigits {count number : Nat} {c : Char}
    (member : c ∈ hexDigits count number) : Text.isDigitOf 16 c = true := by
  induction count generalizing number with
  | zero => cases member
  | succ count inductionHypothesis =>
      rw [hexDigits, List.mem_append, List.mem_singleton] at member
      rcases member with earlier | rfl
      · exact inductionHypothesis earlier
      · have small := Nat.mod_lt number (show 16 > 0 by decide)
        rw [Text.isDigitOf, hexValue?_hexDigit small]
        exact decide_eq_true small

/-- The digits of a number have its value, if they are enough. -/
theorem valueOf_hexDigits {count number : Nat} (enough : number < 16 ^ count) :
    Text.valueOf 16 (hexDigits count number) = number := by
  induction count generalizing number with
  | zero =>
      rw [Nat.pow_zero] at enough
      rw [Nat.lt_one_iff.mp enough]
      rfl
  | succ count inductionHypothesis =>
      have fewer : number / 16 < 16 ^ count := by
        rw [Nat.pow_succ] at enough
        exact Nat.div_lt_of_lt_mul (by rwa [Nat.mul_comm])
      have earlier := inductionHypothesis fewer
      have last := hexValue?_hexDigit (Nat.mod_lt number (show 16 > 0 by decide))
      unfold Text.valueOf at earlier ⊢
      rw [hexDigits, List.foldl_append, earlier]
      simp only [List.foldl_cons, List.foldl_nil, last, Option.getD_some]
      exact Nat.div_add_mod' number 16

/-! ## Values -/

/-- What a value can be spelled as, whatever follows. -/
def Writable (value : Toml) : Prop :=
  ∃ spelled, ∀ rest, Value depthLimit (spelled ++ rest) value rest

/-- A character as it is written between quotation marks. -/
def writtenChar (c : Char) : List Char :=
  if isPrintable c = true ∧ c ≠ '"' ∧ c ≠ '\\' then [c]
  else '\\' :: 'U' :: hexDigits 8 c.toNat

theorem escape_hexDigits (c : Char) (rest : List Char) :
    Escape ('U' :: (hexDigits 8 c.toNat ++ rest)) c rest := by
  have small : c.toNat < 16 ^ 8 := c.val.toNat_lt
  exact .code (show ('U', 8) ∈ codeEscapes by decide)
    ⟨rfl, fun _ => isDigitOf_of_mem_hexDigits⟩ (length_hexDigits 8 _) (valueOf_hexDigits small)

/-- Any text can stand between quotation marks. -/
theorem quoted_written (body rest : List Char) :
    Quoted '"' (body.flatMap writtenChar ++ '"' :: rest) body rest := by
  induction body with
  | nil => exact .close
  | cons c body inductionHypothesis =>
      rw [List.flatMap_cons, List.append_assoc]
      by_cases plain : isPrintable c = true ∧ c ≠ '"' ∧ c ≠ '\\'
      · rw [writtenChar, if_pos plain]
        exact .plain plain.1 plain.2.1 (fun _ => plain.2.2) inductionHypothesis
      · rw [writtenChar, if_neg plain]
        exact .escape rfl (escape_hexDigits c _) inductionHypothesis

/-- Text as it is written. -/
def writtenText (text : String) : List Char :=
  '"' :: (text.toList.flatMap writtenChar ++ ['"'])

theorem writtenText_append (text : String) (rest : List Char) :
    writtenText text ++ rest = '"' :: (text.toList.flatMap writtenChar ++ '"' :: rest) := by
  rw [writtenText, List.cons_append, List.append_assoc, List.singleton_append]

private theorem scalar_writtenText (text : String) (rest : List Char) :
    Scalar (writtenText text ++ rest) (.text text) rest := by
  have scalar := Scalar.text (.line (.inl rfl) (quoted_written text.toList rest))
  rwa [String.ofList_toList, ← writtenText_append] at scalar

private theorem Value.of_scalar {depth : Nat} {value : Toml} {input rest : List Char}
    (scalar : Scalar input value rest) : Value depth input value rest := by
  cases depth with
  | zero => exact scalar
  | succ depth => exact .scalar scalar

/-- Any text can be written. -/
theorem writable_text (text : String) : Writable (.text text) :=
  ⟨writtenText text, fun rest => .of_scalar (scalar_writtenText text rest)⟩

private theorem digits_of_run {found : List Char} (nonempty : found ≠ [])
    (each : ∀ c ∈ found, Text.isDigitOf 16 c = true) (rest : List Char) :
    Digits 16 (found ++ rest) found rest := by
  induction found with
  | nil => exact absurd rfl nonempty
  | cons c found inductionHypothesis =>
      have digit := each c List.mem_cons_self
      cases found with
      | nil => exact .last digit
      | cons next found =>
          exact .more digit (inductionHypothesis (List.cons_ne_nil _ _)
            fun c member => each c (List.mem_cons_of_mem _ member))

/-- Any integer of 64 bits that is not negative can be written. -/
theorem writable_integer {number : Nat} (fits : number < 2 ^ 63) : Writable (.integer number) := by
  refine ⟨'0' :: 'x' :: hexDigits 16 number, fun rest => .of_scalar ?_⟩
  have value : Text.valueOf 16 (hexDigits 16 number) = number :=
    valueOf_hexDigits (Nat.lt_trans fits (by decide))
  have nonempty : hexDigits 16 number ≠ [] := by
    rw [← List.length_pos_iff, length_hexDigits]
    decide
  have digits := digits_of_run nonempty (fun _ => isDigitOf_of_mem_hexDigits) rest
  have integer := Integer.radix (show ('x', 16) ∈ radixes by decide) digits (by rwa [value])
  rw [value] at integer
  exact .integer integer

/-- Any list of texts can be written. -/
theorem writable_texts (texts : List String) : Writable (.array (texts.map .text)) := by
  have items : ∀ rest, Items (Value (depthLimit - 1))
      (texts.flatMap (fun text => writtenText text ++ [',']) ++ ']' :: rest)
      (texts.map .text) rest := by
    intro rest
    induction texts with
    | nil => exact .close (.spaces .none)
    | cons text texts inductionHypothesis =>
        rw [List.flatMap_cons, List.append_assoc, List.append_assoc]
        exact .more (.spaces .none) (.of_scalar (scalar_writtenText text _)) (.spaces .none)
          inductionHypothesis
  refine ⟨'[' :: (texts.flatMap (fun text => writtenText text ++ [',']) ++ [']']), fun rest => ?_⟩
  rw [List.cons_append, List.append_assoc]
  exact .array (items rest)

/-! ## Documents -/

private theorem key_writtenText (name : String) (rest : List Char) :
    Key (writtenText name ++ rest) [name] rest := by
  have simple := SimpleKey.quoted (.inl rfl) (quoted_written name.toList rest)
  rw [String.ofList_toList, ← writtenText_append] at simple
  exact ⟨.last simple, show 1 ≤ depthLimit by decide⟩

/-- What a line can be spelled as, whatever follows. -/
private def WritableLine (line : Line) : Prop :=
  ∃ spelled, ∀ rest, Statement (spelled ++ rest) [line] rest

private theorem writableLine_table (name : String) : WritableLine (.table [name]) := by
  refine ⟨'[' :: (writtenText name ++ [']']), fun rest => ?_⟩
  rw [List.cons_append, List.append_assoc]
  exact .table (.refl _) (key_writtenText name _) (.refl _)

private theorem writableLine_pair (name : String) {value : Toml} (writable : Writable value) :
    WritableLine (.pair [name] value) := by
  obtain ⟨spelled, held⟩ := writable
  refine ⟨writtenText name ++ '=' :: spelled, fun rest => ?_⟩
  rw [List.append_assoc]
  exact .pair (.mk (key_writtenText name _) (.refl _) (.refl _) (held rest))

private theorem writableLine_of_mem {part : String × List (String × Toml)}
    (writable : ∀ member ∈ part.2, Writable member.2) {line : Line}
    (there : line ∈ headerLines part) : WritableLine line := by
  rcases List.mem_cons.mp there with rfl | inSection
  · exact writableLine_table part.1
  · obtain ⟨member, memberThere, rfl⟩ := List.mem_map.mp inSection
    exact writableLine_pair member.1 (writable member memberThere)

private theorem exists_document {lines : List Line} (writable : ∀ line ∈ lines, WritableLine line) :
    ∃ input, Document input lines := by
  induction lines with
  | nil => exact ⟨[], .last (.refl _) .nothing (.refl _) .none⟩
  | cons line lines inductionHypothesis =>
      obtain ⟨spelled, statement⟩ := writable line List.mem_cons_self
      obtain ⟨input, document⟩ :=
        inductionHypothesis fun line member => writable line (List.mem_cons_of_mem _ member)
      exact ⟨spelled ++ '\n' :: input,
        .more (.refl _) (statement _) (.refl _) .none .feed document⟩

/-- Sections can be written under headers if their values can be written. -/
theorem exists_spells {sections : List (String × List (String × Toml))}
    (writable : ∀ part ∈ sections, ∀ member ∈ part.2, Writable member.2) :
    ∃ text, Spells text (sections.flatMap headerLines) := by
  have each : ∀ line ∈ sections.flatMap headerLines, WritableLine line := by
    intro line there
    obtain ⟨part, partThere, lineThere⟩ := List.mem_flatMap.mp there
    exact writableLine_of_mem (writable part partThere) lineThere
  obtain ⟨input, document⟩ := exists_document each
  exact ⟨String.ofList input, .plain document⟩

end Turnstile.Toml.Grammar
