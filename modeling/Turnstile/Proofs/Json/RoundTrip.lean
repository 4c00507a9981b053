import Mathlib.Data.List.Basic
import Mathlib.Data.List.Nodup
import Turnstile.Json.Reader
import Turnstile.Proofs.Text.Digit

/-!
# Reading what was written

The reader takes the spelling of a value back to the value (`value?_chars`), and the
spelling in UTF-8 as well (`ofBytes?_bytes`). This covers the values of which every number
is a 64-bit integer, every object has distinct names and the nesting is no deeper than the
reader goes (`Readable`). What follows a spelling must not go on with a number (`Stops`);
a comma, a closing bracket and the end of the text never do.
-/

namespace Turnstile.Json

/-- Characters that do not continue a number. -/
def Stops : List Char → Prop
  | [] => True
  | c :: _ => c.isDigit = false ∧ c ≠ '.' ∧ c ≠ 'e' ∧ c ≠ 'E'

/-- A value that is spelled as the reader takes it, nesting at most so many levels. -/
inductive Readable : Nat → Json → Prop
  | null {depth : Nat} : Readable depth .null
  | boolean {depth : Nat} {value : Bool} : Readable depth (.boolean value)
  | integer {depth : Nat} {value : Int} (low : -9223372036854775808 ≤ value)
      (high : value < 18446744073709551616) : Readable depth (.integer value)
  | text {depth : Nat} {value : String} : Readable depth (.text value)
  | array {depth : Nat} {items : List Json} (each : ∀ item ∈ items, Readable depth item) :
      Readable (depth + 1) (.array items)
  | object {depth : Nat} {members : List (String × Json)}
      (distinct : (members.map Prod.fst).Nodup)
      (each : ∀ member ∈ members, Readable depth member.2) :
      Readable (depth + 1) (.object members)

/-! ## Strings -/

/-- The escape of a control character is read back. -/
private theorem escape?_control {code : Nat} (control : code < 32) (rest : List Char) :
    escape? ('u' :: '0' :: '0' :: Text.hexDigit (code / 16) :: Text.hexDigit (code % 16) ::
      rest) = some (Char.ofNat code, rest) := by
  have digits : ∀ n < 32, Text.hexValue? (Text.hexDigit (n / 16)) = some (n / 16) ∧
      Text.hexValue? (Text.hexDigit (n % 16)) = some (n % 16) := by decide
  obtain ⟨high, low⟩ := digits code control
  have zero : Text.hexValue? '0' = some 0 := by decide
  have unit : codeUnit? ('0' :: '0' :: Text.hexDigit (code / 16) ::
      Text.hexDigit (code % 16) :: rest) = some (code, rest) := by
    simp only [codeUnit?, Text.hexNumber?, zero, high, low, Option.some.injEq,
      Prod.mk.injEq, and_true]
    omega
  have notLow : isLowSurrogate code = false := by
    simp only [isLowSurrogate, Bool.and_eq_false_iff, decide_eq_false_iff_not]
    omega
  have notHigh : isHighSurrogate code = false := by
    simp only [isHighSurrogate, Bool.and_eq_false_iff, decide_eq_false_iff_not]
    omega
  simp only [escape?, unicodeEscape?, unit, notLow, notHigh, Bool.false_eq_true, if_false]

/-- A string goes on after an escape. -/
private theorem stringBody?_escape {input rest : List Char} {c : Char}
    (read : escape? input = some (c, rest)) :
    stringBody? ('\\' :: input) =
      (stringBody? rest).map fun (body, rest) => (c :: body, rest) := by
  rw [stringBody?]
  split
  · next failed => simp [read] at failed
  · next other after same =>
      rw [read] at same
      cases same
      rfl

/-- A string goes on after the spelling of a character. -/
theorem stringBody?_escapedChar (c : Char) (rest : List Char) :
    stringBody? (escapedChar c ++ rest) =
      (stringBody? rest).map fun (body, rest) => (c :: body, rest) := by
  have named : ∀ code, c.toNat = code → Char.ofNat code = c := by
    rintro _ rfl
    exact Char.ofNat_toNat c
  unfold escapedChar
  split
  · next same =>
      subst same
      exact stringBody?_escape rfl
  split
  · next same =>
      subst same
      exact stringBody?_escape rfl
  split
  · next code =>
      rw [← named 8 code]
      exact stringBody?_escape rfl
  split
  · next code =>
      rw [← named 9 code]
      exact stringBody?_escape rfl
  split
  · next code =>
      rw [← named 10 code]
      exact stringBody?_escape rfl
  split
  · next code =>
      rw [← named 12 code]
      exact stringBody?_escape rfl
  split
  · next code =>
      rw [← named 13 code]
      exact stringBody?_escape rfl
  split
  · next control =>
      have read := escape?_control control rest
      rw [named _ rfl] at read
      exact stringBody?_escape read
  · next notQuote notBackslash _ _ _ _ _ printable =>
      rw [List.singleton_append, stringBody?, if_neg printable]
      · exact notQuote
      · exact notBackslash

/-- A string is read up to its closing quotation mark. -/
theorem stringBody?_escaped (body rest : List Char) :
    stringBody? (body.flatMap escapedChar ++ '"' :: rest) = some (body, rest) := by
  induction body with
  | nil => rw [List.flatMap_nil, List.nil_append, stringBody?]
  | cons c body inductionHypothesis =>
      rw [List.flatMap_cons, List.append_assoc, stringBody?_escapedChar, inductionHypothesis]
      rfl

/-! ## Numbers -/

private theorem isDigit_of_mem {size : Nat} {c : Char} (member : c ∈ Nat.toDigits 10 size) :
    c.isDigit = true :=
  Nat.isDigit_of_mem_toDigits (by decide) (by decide) member

/-- The digits of a number are those of ten. -/
private theorem digits_eq (input : List Char) :
    Spelling.digits input = Text.digits 10 input := by
  rw [Spelling.digits, Text.digits, funext Text.isDigitOf_ten]

theorem Stops.head_not_digit {rest : List Char} (stops : Stops rest) :
    ∀ c ∈ rest.head?, Text.isDigitOf 10 c = false := by
  cases rest with
  | nil => nofun
  | cons c rest =>
      rintro c ⟨rfl⟩
      rw [Text.isDigitOf_ten]
      exact stops.1

/-- A spelled number starts with a digit. -/
private theorem toDigits_eq_cons (size : Nat) :
    ∃ c rest, Nat.toDigits 10 size = c :: rest ∧ c.isDigit = true := by
  cases spelled : Nat.toDigits 10 size with
  | nil => exact absurd spelled Nat.toDigits_ne_nil
  | cons c rest =>
      refine ⟨c, rest, rfl, @isDigit_of_mem size c ?_⟩
      rw [spelled]
      exact List.mem_cons_self

/-- A whole number is read up to characters that do not continue it. -/
private theorem whole?_toDigits (size : Nat) {rest : List Char} (stops : Stops rest) :
    Spelling.whole? (Nat.toDigits 10 size ++ rest) = some (Nat.toDigits 10 size, rest) := by
  unfold Spelling.whole?
  rw [digits_eq, Text.digits_toDigits (by decide) (by decide) size stops.head_not_digit]
  split
  · next spelled =>
      simp only [Prod.mk.injEq] at spelled
      exact absurd spelled.1 Nat.toDigits_ne_nil
  · next spelled =>
      simp only [Prod.mk.injEq] at spelled
      rw [spelled.1, spelled.2]
  · next tail _ notZero spelled =>
      simp only [Prod.mk.injEq] at spelled
      exact absurd (Text.toDigits_eq_zero_cons (by decide) (by decide) spelled.1) notZero
  · next spelled =>
      simp only [Prod.mk.injEq] at spelled
      rw [spelled.1, spelled.2]

/-- No fraction is read where there is none. -/
private theorem fraction?_of_stops {rest : List Char} (stops : Stops rest) :
    Spelling.fraction? rest = some (none, rest) := by
  unfold Spelling.fraction?
  split
  · exact absurd rfl stops.2.1
  · rfl

/-- No exponent is read where there is none. -/
private theorem exponent?_of_stops {rest : List Char} (stops : Stops rest) :
    Spelling.exponent? rest = some (none, rest) := by
  cases rest with
  | nil => rfl
  | cons c rest =>
      have noLetter : ¬(c = 'e' ∨ c = 'E') := not_or.mpr ⟨stops.2.2.1, stops.2.2.2⟩
      simp only [Spelling.exponent?, if_neg noLetter]

/-- A sign in front of digits is told from the digits. -/
private theorem read?_integerChars (value : Int) {rest : List Char} (stops : Stops rest) :
    Spelling.read? (integerChars value ++ rest) =
      some (⟨value < 0, Nat.toDigits 10 value.natAbs, none, none⟩, rest) := by
  unfold integerChars Spelling.read?
  by_cases negative : value < 0
  · simp only [negative, if_true, decide_true, List.cons_append, whole?_toDigits _ stops,
      fraction?_of_stops stops, exponent?_of_stops stops, Option.bind_eq_bind, Option.bind_some]
  · simp only [negative, if_false, decide_false]
    split
    · next spelled =>
        obtain ⟨c, tail, digits, isDigit⟩ := toDigits_eq_cons value.natAbs
        rw [digits, List.cons_append] at spelled
        rw [(List.cons.inj spelled).1] at isDigit
        exact absurd isDigit (by decide)
    · simp only [whole?_toDigits _ stops, fraction?_of_stops stops, exponent?_of_stops stops,
        Option.bind_eq_bind, Option.bind_some]

/-- A spelled integer starts with a digit or a sign. -/
private theorem integerChars_eq_cons (value : Int) :
    ∃ c rest, integerChars value = c :: rest ∧
      ∀ other : Char, other.isDigit = false → other ≠ '-' → c ≠ other := by
  obtain ⟨c, rest, digits, isDigit⟩ := toDigits_eq_cons value.natAbs
  unfold integerChars
  split
  · exact ⟨'-', _, rfl, fun _ _ notSign => Ne.symm notSign⟩
  · refine ⟨c, rest, digits, fun other notDigit _ same => ?_⟩
    rw [same, notDigit] at isDigit
    cases isDigit

/-- An integer of 64 bits is read back. -/
theorem number?_integerChars {value : Int} (low : -9223372036854775808 ≤ value)
    (high : value < 18446744073709551616) {rest : List Char} (stops : Stops rest) :
    number? (integerChars value ++ rest) = some (.integer value, rest) := by
  have integer : Spelling.integer?
      ⟨value < 0, Nat.toDigits 10 value.natAbs, none, none⟩ = some value := by
    simp only [Spelling.integer?, Nat.ofDigitChars_ten_toDigits, Spelling.wordBound]
    by_cases negative : value < 0
    · simp only [negative, decide_true, if_true]
      rw [if_pos (by omega)]
      congr 1
      omega
    · simp only [negative, decide_false, Bool.false_eq_true, if_false]
      rw [if_pos (by omega)]
      congr 1
      omega
  simp only [number?, read?_integerChars value stops, integer]

/-! ## Sequences -/

private theorem skipSpace_cons {c : Char} (visible : isSpace c = false) (rest : List Char) :
    skipSpace (c :: rest) = c :: rest :=
  List.dropWhile_cons_of_neg (Bool.eq_false_iff.mp visible)

/-- The spelling of a sequence after its opening character. -/
def spelled {α : Type} (spell : α → List Char) (close : Char) : List α → List Char
  | [] => [close]
  | first :: others => spell first ++ (others.flatMap fun item => ',' :: spell item) ++ [close]

/-- A character that closes a sequence. -/
structure Closes (close : Char) : Prop where
  visible : isSpace close = false
  notComma : close ≠ ','
  stops : ∀ rest, Stops (close :: rest)

section Sequences

variable {α : Type} {item : List Char → Option (α × List Char)} {spell : α → List Char}
  {close : Char}

/-- Items that are read back one by one are read back as a sequence. -/
private theorem sequence?_spelled (closes : Closes close) {first : α} {others : List α}
    {count : Nat} (enough : others.length < count)
    (back : ∀ each ∈ first :: others, ∀ rest, Stops rest →
      item (spell each ++ rest) = some (each, rest)) (rest : List Char) :
    sequence? item close count
        (spell first ++ (others.flatMap fun item => ',' :: spell item) ++ close :: rest) =
      some (first :: others, rest) := by
  induction others generalizing first count with
  | nil =>
      obtain ⟨count, rfl⟩ := Nat.exists_eq_add_one_of_ne_zero (Nat.ne_zero_of_lt enough)
      rw [List.flatMap_nil, List.append_nil]
      simp only [sequence?, back first List.mem_cons_self _ (closes.stops rest),
        skipSpace_cons closes.visible, if_true]
  | cons second others inductionHypothesis =>
      obtain ⟨count, rfl⟩ := Nat.exists_eq_add_one_of_ne_zero (Nat.ne_zero_of_lt enough)
      have later := @inductionHypothesis second count (Nat.lt_of_succ_lt_succ enough)
        fun each member => back each (List.mem_cons_of_mem _ member)
      have comma : isSpace ',' = false := by decide
      rw [List.flatMap_cons, List.append_assoc, List.append_assoc, List.cons_append,
        ← List.append_assoc]
      have stops : ∀ tail, Stops (',' :: tail) := fun _ =>
        ⟨by decide, by decide, by decide, by decide⟩
      simp only [sequence?, back first List.mem_cons_self _ (stops _), skipSpace_cons comma,
        Ne.symm closes.notComma, if_false, if_true]
      rw [later]
      rfl

/-- Further items are no more than the characters they are spelled with. -/
private theorem length_le_flatMap (spell : α → List Char) (others : List α) :
    others.length ≤ (others.flatMap fun item => ',' :: spell item).length := by
  induction others with
  | nil => exact Nat.le_refl 0
  | cons first rest inductionHypothesis =>
      simp only [List.flatMap_cons, List.length_append, List.length_cons]
      omega

/-- A sequence is read back if its items are, and none of them looks like its end. -/
theorem items?_spelled (closes : Closes close) {items : List α}
    (back : ∀ each ∈ items, ∀ rest, Stops rest → item (spell each ++ rest) = some (each, rest))
    (start : ∀ each ∈ items, ∃ c tail, spell each = c :: tail ∧ isSpace c = false ∧ c ≠ close)
    (rest : List Char) :
    items? item close (spelled spell close items ++ rest) = some (items, rest) := by
  cases items with
  | nil =>
      rw [spelled, List.singleton_append]
      simp only [items?, skipSpace_cons closes.visible, if_true]
  | cons first others =>
      obtain ⟨c, tail, spelling, visible, notClose⟩ := start first List.mem_cons_self
      have input : spelled spell close (first :: others) ++ rest =
          spell first ++ (others.flatMap fun item => ',' :: spell item) ++ close :: rest := by
        rw [spelled, List.append_assoc, List.singleton_append]
      have size := length_le_flatMap spell others
      have enough : others.length <
          (spell first ++ (others.flatMap fun item => ',' :: spell item) ++
            close :: rest).length := by
        simp only [List.length_append, List.length_cons]
        omega
      have whole := sequence?_spelled closes enough back rest
      rw [input]
      rw [spelling, List.cons_append, List.cons_append] at whole ⊢
      simp only [items?, skipSpace_cons visible, notClose, if_false]
      exact whole

end Sequences

/-! ## Members -/

/-- The spelling of a member. -/
def spelledMember (member : String × Json) : List Char :=
  quotedChars member.1 ++ ':' :: chars member.2

/-- Quoted text is read back from its opening quotation mark. -/
private theorem quotedChars_append (text : String) (rest : List Char) :
    quotedChars text ++ rest =
      '"' :: (text.toList.flatMap escapedChar ++ '"' :: rest) := by
  simp [quotedChars]

/-- A member is read back if its value is. -/
private theorem memberOf?_spelled {value : List Char → Option (Json × List Char)}
    {member : String × Json} {rest : List Char}
    (back : value (chars member.2 ++ rest) = some (member.2, rest)) :
    memberOf? value (spelledMember member ++ rest) = some (member, rest) := by
  have quote : isSpace '"' = false := by decide
  have colon : isSpace ':' = false := by decide
  rw [spelledMember, List.append_assoc, List.cons_append, quotedChars_append]
  simp only [memberOf?, skipSpace_cons quote, stringBody?_escaped, skipSpace_cons colon, back,
    Option.map_some, String.ofList_toList]

/-- A new name is put at the end. -/
private theorem setMember_of_new {members : List (String × Json)} {name : String}
    (new : name ∉ members.map Prod.fst) (value : Json) :
    setMember members name value = members ++ [(name, value)] := by
  induction members with
  | nil => rfl
  | cons first rest inductionHypothesis =>
      obtain ⟨different, newRest⟩ := not_or.mp (mt List.mem_cons.mpr new)
      rw [setMember, if_neg (Ne.symm different), inductionHypothesis newRest]
      rfl

/-- Members with distinct names are all kept. -/
theorem lastMembers_of_distinct {members : List (String × Json)}
    (distinct : (members.map Prod.fst).Nodup) : lastMembers members = members := by
  have each : ∀ kept, ((kept ++ members).map Prod.fst).Nodup →
      members.foldl (fun kept member => setMember kept member.1 member.2) kept =
        kept ++ members := by
    clear distinct
    induction members with
    | nil => simp
    | cons first rest inductionHypothesis =>
        intro kept distinct
        have new : first.1 ∉ kept.map Prod.fst := by
          rw [List.map_append, List.nodup_append] at distinct
          intro member
          exact distinct.2.2 _ member _ List.mem_cons_self rfl
        rw [List.foldl_cons, setMember_of_new new, inductionHypothesis]
        · simp
        · simpa using distinct
  exact each [] distinct

/-! ## Values -/

/-- Without an opening bracket, a value is a scalar. -/
private theorem value?_of_scalar {depth : Nat} {c : Char} {input : List Char}
    (visible : isSpace c = false) (notArray : c ≠ '[') (notObject : c ≠ '\x7b') :
    value? depth (c :: input) = scalar? (c :: input) := by
  cases depth with
  | zero => rw [value?, skipSpace_cons visible]
  | succ depth =>
      rw [value?, skipSpace_cons visible]
      split
      · next same => exact absurd (List.cons.inj same).1 notArray
      · next same => exact absurd (List.cons.inj same).1 notObject
      · rfl

private theorem word?_append (word : String) (value : Json) (rest : List Char) :
    word? word value (word.toList ++ rest) = some (value, rest) := by
  rw [word?, List.isPrefixOf?_eq_some_iff_append_eq.mpr rfl]
  rfl

/-- The spelling of a value starts with neither white space nor a closing bracket. -/
private theorem chars_start {depth : Nat} {value : Json} (readable : Readable depth value) :
    ∃ c tail, chars value = c :: tail ∧ isSpace c = false ∧ c ≠ ']' := by
  cases readable with
  | null => exact ⟨_, _, rfl, by decide, by decide⟩
  | @boolean _ value =>
      cases value with
      | false => exact ⟨_, _, rfl, by decide, by decide⟩
      | true => exact ⟨_, _, rfl, by decide, by decide⟩
  | @integer _ value low high =>
      obtain ⟨c, tail, spelling, differs⟩ := integerChars_eq_cons value
      refine ⟨c, tail, spelling, ?_, differs _ (by decide) (by decide)⟩
      have blank := differs ' ' (by decide) (by decide)
      have line := differs '\n' (by decide) (by decide)
      have tab := differs '\t' (by decide) (by decide)
      have carriage := differs '\r' (by decide) (by decide)
      simp only [isSpace, blank, line, tab, carriage, decide_false, Bool.or_self]
  | text => exact ⟨_, _, rfl, by decide, by decide⟩
  | @array _ items _ =>
      cases items with
      | nil => exact ⟨_, _, rfl, by decide, by decide⟩
      | cons first rest => exact ⟨_, _, rfl, by decide, by decide⟩
  | @object _ members _ _ =>
      cases members with
      | nil => exact ⟨_, _, rfl, by decide, by decide⟩
      | cons first rest => exact ⟨_, _, rfl, by decide, by decide⟩

private theorem chars_array (items : List Json) :
    chars (.array items) = '[' :: spelled chars ']' items := by
  cases items with
  | nil => rfl
  | cons first rest =>
      have others : ∀ rest : List Json,
          itemChars rest = rest.flatMap fun item => ',' :: chars item := by
        intro rest
        induction rest with
        | nil => rfl
        | cons item rest inductionHypothesis =>
            rw [itemChars, inductionHypothesis, List.flatMap_cons]
      rw [chars, others, spelled, List.cons_append, List.cons_append]

private theorem chars_object (members : List (String × Json)) :
    chars (.object members) = '\x7b' :: spelled spelledMember '\x7d' members := by
  cases members with
  | nil => rfl
  | cons first rest =>
      have others : ∀ rest : List (String × Json),
          memberChars rest = rest.flatMap fun member => ',' :: spelledMember member := by
        intro rest
        induction rest with
        | nil => rfl
        | cons member rest inductionHypothesis =>
            rw [memberChars, inductionHypothesis, List.flatMap_cons]
            simp [spelledMember]
      rw [chars, others, spelled]
      simp [spelledMember]

/-- A value is read back from its spelling, and what follows is left. -/
theorem value?_chars {depth : Nat} {value : Json} (readable : Readable depth value)
    {rest : List Char} (stops : Stops rest) :
    value? depth (chars value ++ rest) = some (value, rest) := by
  induction readable generalizing rest with
  | null =>
      rw [chars]
      exact (value?_of_scalar (by decide) (by decide) (by decide)).trans
        (word?_append "ull" .null rest)
  | @boolean depth value =>
      cases value with
      | false =>
          rw [chars]
          exact (value?_of_scalar (by decide) (by decide) (by decide)).trans
            (word?_append "alse" (.boolean false) rest)
      | true =>
          rw [chars]
          exact (value?_of_scalar (by decide) (by decide) (by decide)).trans
            (word?_append "rue" (.boolean true) rest)
  | @integer depth value low high =>
      have read := number?_integerChars low high stops
      have start := chars_start (@Readable.integer depth value low high)
      obtain ⟨c, tail, spelling, differs⟩ := integerChars_eq_cons value
      rw [chars, spelling] at start
      obtain ⟨_, _, same, visible, _⟩ := start
      obtain ⟨rfl, rfl⟩ := List.cons.inj same
      have apart : ∀ other : Char, other.isDigit = false → other ≠ '-' →
          ∀ after, c :: (tail ++ rest) = other :: after → False :=
        fun other notDigit notSign _ same =>
          differs other notDigit notSign (List.cons.inj same).1
      rw [chars]
      rw [spelling, List.cons_append] at read ⊢
      rw [value?_of_scalar visible (differs _ (by decide) (by decide))
        (differs _ (by decide) (by decide)), scalar?]
      · exact read
      · exact apart '"' (by decide) (by decide)
      · exact apart 'n' (by decide) (by decide)
      · exact apart 't' (by decide) (by decide)
      · exact apart 'f' (by decide) (by decide)
  | @text depth value =>
      rw [chars, quotedChars_append, value?_of_scalar (by decide) (by decide) (by decide)]
      simp only [scalar?, stringBody?_escaped, Option.map_some, String.ofList_toList]
  | @array depth items each inductionHypothesis =>
      have closes : Closes ']' :=
        ⟨by decide, by decide, fun _ => ⟨by decide, by decide, by decide, by decide⟩⟩
      have read := items?_spelled closes
        (fun item member _ stops => inductionHypothesis item member stops)
        (fun item member => chars_start (each item member)) rest
      have bracket : isSpace '[' = false := by decide
      rw [chars_array, List.cons_append, value?, skipSpace_cons bracket]
      simp only [read, Option.map_some]
  | @object depth members distinct each inductionHypothesis =>
      have closes : Closes '\x7d' :=
        ⟨by decide, by decide, fun _ => ⟨by decide, by decide, by decide, by decide⟩⟩
      have read := items?_spelled closes
        (fun held member _ stops => memberOf?_spelled (inductionHypothesis held member stops))
        (fun held _ => ⟨'"', _, rfl, by decide, by decide⟩) rest
      have bracket : isSpace '\x7b' = false := by decide
      rw [chars_object, List.cons_append, value?, skipSpace_cons bracket]
      simp only [read, Option.map_some, lastMembers_of_distinct distinct]

/-- The text of a value is read back. -/
theorem ofChars?_render {value : Json} (readable : Readable depthLimit value) :
    ofChars? value.render.toList = some value := by
  have read := @value?_chars depthLimit value readable [] trivial
  rw [List.append_nil] at read
  rw [render, String.toList_ofList, ofChars?, read]
  rfl

/-- The text of a value in UTF-8. -/
def bytes (value : Json) : List UInt8 :=
  value.chars.flatMap String.utf8EncodeChar

/-- The text of a value is read back from its bytes. -/
theorem ofBytes?_bytes {value : Json} (readable : Readable depthLimit value) :
    ofBytes? value.bytes = some value := by
  have decoded : String.fromUTF8? value.bytes.toByteArray = some value.render := by
    have spelled : value.bytes.toByteArray = value.render.toByteArray :=
      (String.toByteArray_ofList (l := value.chars)).symm
    rw [spelled, String.fromUTF8?, dif_pos value.render.isValidUTF8]
    rfl
  rw [ofBytes?, decoded, Option.bind_some, ofChars?_render readable]

end Turnstile.Json
