import Turnstile.Proofs.Toml.Space

/-!
# Reading text of TOML

Every kind of quotation is read to the text that it stands for: escapes, text on one line
and text over several lines. Only the marks are delicate. Two marks without anything
between them are the start of three if a third one follows, and three marks close a text
over several lines even where up to two more of them belong to the text.
-/

namespace Turnstile.Toml.Grammar

/-! ## Escapes -/

theorem hexValue?_of_isDigitOf {radix : Nat} {c : Char} (digit : Text.isDigitOf radix c = true) :
    ∃ value, Text.hexValue? c = some value := by
  unfold Text.isDigitOf at digit
  split at digit
  · next value found => exact ⟨value, found⟩
  · cases digit

/-- A number is read by all of its digits. -/
private theorem hexNumber?_of_run {input found rest : List Char}
    (run : Run (Text.isDigitOf 16) input found rest) (start : Nat) :
    Text.hexNumber? found.length start input =
      some (found.foldl (fun value c => value * 16 + (Text.hexValue? c).getD 0) start, rest) := by
  obtain ⟨rfl, each⟩ := run
  induction found generalizing start with
  | nil => rfl
  | cons c found inductionHypothesis =>
      obtain ⟨value, digit⟩ := hexValue?_of_isDigitOf (each c List.mem_cons_self)
      rw [List.cons_append, List.length_cons, Text.hexNumber?]
      simp only [digit, List.foldl_cons, Option.getD_some]
      exact inductionHypothesis _ fun c member => each c (List.mem_cons_of_mem _ member)

/-- A character has its own number, which is neither a surrogate nor too great. -/
private theorem character?_toNat (c : Char) : character? c.toNat = some c := by
  have valid : c.toNat < 0xD800 ∨ (0xDFFF < c.toNat ∧ c.toNat < 0x110000) := c.valid
  rw [character?, if_pos valid, Char.ofNat_toNat]

/-- An escape is read to the character that it stands for. -/
theorem Escape.escape?_eq {input rest : List Char} {c : Char} (escape : Escape input c rest) :
    escape? input = some (c, rest) := by
  cases escape with
  | short listed =>
      simp only [shortEscapes, List.mem_cons, Prod.mk.injEq, List.not_mem_nil, or_false] at listed
      rcases listed with ⟨rfl, rfl⟩ | ⟨rfl, rfl⟩ | ⟨rfl, rfl⟩ | ⟨rfl, rfl⟩ | ⟨rfl, rfl⟩ |
        ⟨rfl, rfl⟩ | ⟨rfl, rfl⟩ <;> rfl
  | @code letter _ count input found _ listed digits length number =>
      have coded : coded? count input = some (c, rest) := by
        rw [coded?, ← length, hexNumber?_of_run digits 0]
        change (character? (Text.valueOf 16 found)).map _ = _
        rw [number, character?_toNat]
        rfl
      simp only [codeEscapes, List.mem_cons, Prod.mk.injEq, List.not_mem_nil, or_false] at listed
      rcases listed with ⟨rfl, rfl⟩ | ⟨rfl, rfl⟩
      · exact coded
      · exact coded

theorem Escape.length_lt {input rest : List Char} {c : Char} (escape : Escape input c rest) :
    rest.length < input.length :=
  length_of_escape? escape.escape?_eq

/-! ## Text on one line -/

private theorem basicBody?_escape {input rest : List Char} {c : Char}
    (read : escape? input = some (c, rest)) :
    basicBody? ('\\' :: input) = (basicBody? rest).map (consTo c) := by
  rw [basicBody?]
  split
  · next failed => simp [read] at failed
  · next same =>
      rw [read] at same
      cases same
      rfl

/-- Text between quotation marks is read to what it stands for. -/
theorem Quoted.basicBody?_eq {input body rest : List Char}
    (quoted : Quoted '"' input body rest) : basicBody? input = some (body, rest) := by
  induction quoted with
  | close => rw [basicBody?]
  | plain printable notMark notEscape _ inductionHypothesis =>
      rw [basicBody?, if_pos printable, inductionHypothesis]
      · rfl
      · exact notMark
      · exact notEscape rfl
  | escape _ escape _ inductionHypothesis =>
      rw [basicBody?_escape escape.escape?_eq, inductionHypothesis]
      rfl

/-- Text between apostrophes is read as it stands. -/
theorem Quoted.literalBody?_eq {input body rest : List Char}
    (quoted : Quoted '\'' input body rest) : literalBody? input = some (body, rest) := by
  induction quoted with
  | close => rw [literalBody?]
  | plain printable notMark _ _ inductionHypothesis =>
      rw [literalBody?, if_pos printable, inductionHypothesis]
      · rfl
      · exact notMark
  | escape escapes => exact absurd escapes (by decide)

theorem Quoted.quotedLine?_eq {mark : Char} (isMark : IsMark mark) {input body rest : List Char}
    (quoted : Quoted mark input body rest) : quotedLine? (mark :: input) = some (body, rest) := by
  rcases isMark with rfl | rfl
  · exact quoted.basicBody?_eq
  · exact quoted.literalBody?_eq

theorem Quoted.length_lt {mark : Char} {input body rest : List Char}
    (quoted : Quoted mark input body rest) : rest.length < input.length := by
  induction quoted with
  | close => exact Nat.lt_succ_self _
  | plain _ _ _ _ inductionHypothesis =>
      rw [List.length_cons]
      omega
  | escape _ escape _ inductionHypothesis =>
      have := escape.length_lt
      rw [List.length_cons]
      omega

/-! ## Text over several lines -/

/-- At the end of text over several lines there may be up to five marks. -/
theorem closing?_replicate {mark : Char} {rest : List Char} (stops : Stops (· = mark) rest)
    {extra : Nat} (few : extra ≤ 2) :
    closing? mark (List.replicate extra mark ++ rest) = some (List.replicate extra mark, rest) := by
  have run : Run (· = mark) (List.replicate extra mark ++ rest) (List.replicate extra mark)
      rest := ⟨rfl, fun c member => by simp [List.eq_of_mem_replicate member]⟩
  simp only [closing?, run.takeWhile_eq stops, List.length_replicate, few, if_true]
  rw [List.drop_left' List.length_replicate]

/-- Text over several lines that starts with a mark is at its end, or the mark is its own. -/
private theorem QuotedLines.of_mark {mark : Char} (isMark : IsMark mark) {marks : Nat}
    {input body rest : List Char} (quoted : QuotedLines mark marks (mark :: input) body rest) :
    (input = mark :: mark :: rest ∧ body = []) ∨
      ∃ later, marks < 2 ∧ body = mark :: later ∧
        QuotedLines mark (marks + 1) input later rest := by
  have notBackslash : mark ≠ '\\' := by rcases isMark with rfl | rfl <;> decide
  generalize spelled : mark :: input = all at quoted
  cases quoted with
  | close => exact .inl ⟨(List.cons.inj spelled).2, rfl⟩
  | mark few later =>
      obtain ⟨_, rfl⟩ := List.cons.inj spelled
      exact .inr ⟨_, few, rfl, later⟩
  | plain _ notMark => exact absurd (List.cons.inj spelled).1.symm notMark
  | newline newline =>
      cases newline <;> rcases isMark with rfl | rfl <;> cases spelled
  | escape => exact absurd (List.cons.inj spelled).1 notBackslash
  | continued => exact absurd (List.cons.inj spelled).1 notBackslash

/-- A reader of text over several lines, case by case. -/
private structure LinesReader (mark : Char)
    (read : List Char → Option (List Char × List Char)) : Prop where
  close : ∀ rest, read (mark :: mark :: mark :: rest) = closing? mark rest
  ownMark : ∀ rest, (∀ after, rest ≠ mark :: mark :: after) →
    read (mark :: rest) = (read rest).map (consTo mark)
  plain : ∀ c rest, isPrintable c = true → c ≠ mark → (mark = '"' → c ≠ '\\') →
    read (c :: rest) = (read rest).map (consTo c)
  newline : ∀ input rest, Newline input rest → read input = (read rest).map (consTo '\n')
  escape : mark = '"' → ∀ input c rest, Escape input c rest →
    read ('\\' :: input) = (read rest).map (consTo c)
  continued : mark = '"' → ∀ input line next rest, Blanks input line → Newline line next →
    Spaces next rest → (∀ after, Spaces rest after → after = rest) →
    read ('\\' :: input) = read rest

/-- One more mark is read in front of text, be it part of the text's last marks or not. -/
private theorem LinesReader.read_mark {mark : Char}
    {read : List Char → Option (List Char × List Char)} (reader : LinesReader mark read)
    (isMark : IsMark mark) {marks : Nat} (few : marks < 2) {input body rest : List Char}
    (quoted : QuotedLines mark (marks + 1) input body rest) (stops : Stops (· = mark) rest)
    (back : read input = some (body, rest)) : read (mark :: input) = some (mark :: body, rest) := by
  by_cases ahead : ∃ after, input = mark :: mark :: after
  · obtain ⟨after, rfl⟩ := ahead
    rw [reader.close]
    rcases quoted.of_mark isMark with ⟨closed, rfl⟩ | ⟨body, _, rfl, later⟩
    · obtain ⟨_, rfl⟩ := List.cons.inj closed
      exact closing?_replicate stops (show 1 ≤ 2 by decide)
    · rcases later.of_mark isMark with ⟨rfl, rfl⟩ | ⟨_, tooMany, _⟩
      · exact closing?_replicate stops (show 2 ≤ 2 by decide)
      · omega
  · rw [reader.ownMark input (not_exists.mp ahead), back]
    rfl

/-- Text over several lines is read to what it stands for. -/
private theorem LinesReader.read_eq {mark : Char}
    {read : List Char → Option (List Char × List Char)} (reader : LinesReader mark read)
    (isMark : IsMark mark) {marks : Nat} {input body rest : List Char}
    (quoted : QuotedLines mark marks input body rest) (stops : Stops (· = mark) rest) :
    read input = some (body, rest) := by
  induction quoted with
  | close =>
      rw [reader.close]
      exact closing?_replicate stops (show 0 ≤ 2 by decide)
  | mark few later inductionHypothesis =>
      exact reader.read_mark isMark few later stops (inductionHypothesis stops)
  | plain printable notMark notEscape _ inductionHypothesis =>
      rw [reader.plain _ _ printable notMark notEscape, inductionHypothesis stops]
      rfl
  | newline newline _ inductionHypothesis =>
      rw [reader.newline _ _ newline, inductionHypothesis stops]
      rfl
  | escape escapes escape _ inductionHypothesis =>
      rw [reader.escape escapes _ _ _ escape, inductionHypothesis stops]
      rfl
  | continued escapes blanks newline spaces all _ inductionHypothesis =>
      rw [reader.continued escapes _ _ _ _ blanks newline spaces all, inductionHypothesis stops]

/-- An escape starts with a visible character. -/
private theorem Escape.starts {input rest : List Char} {c : Char} (escape : Escape input c rest) :
    Starts isVisible input := by
  cases escape with
  | @short letter _ _ listed =>
      have each : ∀ pair ∈ shortEscapes, isVisible pair.1 = true := by decide
      exact ⟨letter, _, rfl, each _ listed⟩
  | @code letter _ _ _ _ _ listed =>
      have each : ∀ pair ∈ codeEscapes, isVisible pair.1 = true := by decide
      exact ⟨letter, _, rfl, each _ listed⟩

/-- What the reader skips are white space and line ends. -/
private theorem spaces_skipLines (input : List Char) : Spaces input (skipLines input) := by
  fun_induction skipLines input with
  | case1 _ inductionHypothesis => exact .blank rfl inductionHypothesis
  | case2 _ inductionHypothesis => exact .blank rfl inductionHypothesis
  | case3 _ inductionHypothesis => exact .newline .feed inductionHypothesis
  | case4 _ inductionHypothesis => exact .newline .both inductionHypothesis
  | case5 => exact .none

private theorem linesBody?_escape {input rest : List Char} {c : Char}
    (escape : Escape input c rest) :
    linesBody? ('\\' :: input) = (linesBody? rest).map (consTo c) := by
  have noNewline : newline? (skipBlanks input) = none := by
    obtain ⟨letter, tail, rfl, visible⟩ := escape.starts
    have notBlank : isBlank letter = false := by
      simp only [isVisible, Bool.not_eq_true', Bool.or_eq_false_iff] at visible
      exact visible.1.1
    rw [skipBlanks_of_stops (stops_cons notBlank tail), Option.eq_none_iff_forall_ne_some]
    intro after read
    cases newline?_eq_some_iff.mp read <;> cases visible
  rw [linesBody?]
  simp only [noNewline]
  split
  · next failed => simp [escape.escape?_eq] at failed
  · next same =>
      rw [escape.escape?_eq] at same
      cases same
      rfl

private theorem Blanks.spaces {input rest : List Char} (blanks : Blanks input rest) :
    Spaces input rest := by
  obtain ⟨found, rfl, each⟩ := blanks
  induction found with
  | nil => exact .none
  | cons c found inductionHypothesis =>
      exact .blank (each c List.mem_cons_self)
        (inductionHypothesis fun c member => each c (List.mem_cons_of_mem _ member))

private theorem linesBody?_continued {input line next rest : List Char}
    (blanks : Blanks input line) (newline : Newline line next) (spaces : Spaces next rest)
    (all : ∀ after, Spaces rest after → after = rest) :
    linesBody? ('\\' :: input) = linesBody? rest := by
  have skipped : skipLines input = rest := by
    rw [blanks.spaces.skipLines_eq, newline.skipLines_eq, spaces.skipLines_eq,
      all _ (spaces_skipLines rest)]
  rw [linesBody?]
  simp only [blanks.skipBlanks_eq, skipBlanks_of_stops newline.stops_isBlank,
    newline.newline?_eq, skipped]

private theorem linesReader_linesBody? : LinesReader '"' linesBody? where
  close rest := by rw [linesBody?]
  ownMark rest notThree := by
    rw [linesBody?]
    rintro after rfl
    exact notThree after rfl
  plain c rest printable notMark notEscape := by
    rw [linesBody?, if_pos (.inr printable)]
    · rintro after rfl
      exact absurd rfl notMark
    · exact notMark
    · exact notEscape rfl
    · rintro after rfl
      exact absurd printable (by decide)
  newline input rest newline := by
    cases newline
    · rw [linesBody?, if_pos (.inl rfl)] <;> simp
    · rw [linesBody?]
  escape _ _ _ _ := linesBody?_escape
  continued _ _ _ _ _ := linesBody?_continued

private theorem linesReader_literalLinesBody? : LinesReader '\'' literalLinesBody? where
  close rest := by rw [literalLinesBody?]
  ownMark rest notThree := by
    rw [literalLinesBody?, if_pos (.inr (by decide))]
    · rintro after _ rfl
      exact notThree after rfl
    · simp
  plain c rest printable notMark _ := by
    rw [literalLinesBody?, if_pos (.inr printable)]
    · rintro after rfl
      exact absurd rfl notMark
    · rintro after rfl
      exact absurd printable (by decide)
  newline input rest newline := by
    cases newline
    · rw [literalLinesBody?, if_pos (.inl rfl)] <;> simp
    · rw [literalLinesBody?]
  escape escapes := absurd escapes (by decide)
  continued escapes := absurd escapes (by decide)

theorem QuotedLines.length_lt {mark : Char} {marks : Nat} {input body rest : List Char}
    (quoted : QuotedLines mark marks input body rest) : rest.length < input.length := by
  induction quoted with
  | close => simp only [List.length_cons]; omega
  | mark _ _ inductionHypothesis | plain _ _ _ _ inductionHypothesis =>
      rw [List.length_cons]
      omega
  | newline newline _ inductionHypothesis =>
      have := newline.length_lt
      omega
  | escape _ escape _ inductionHypothesis =>
      have := escape.length_lt
      rw [List.length_cons]
      omega
  | continued _ blanks newline spaces _ _ inductionHypothesis =>
      have before := blanks.length_le
      have line := newline.length_lt
      have after := spaces.length_le
      rw [List.length_cons]
      omega

/-! ## Text -/

theorem Opening.skipNewline_eq {input rest : List Char} (opening : Opening input rest) :
    skipNewline input = rest := by
  cases opening with
  | newline newline => rw [skipNewline, newline.newline?_eq, Option.getD_some]
  | none noNewline =>
      have unread : newline? input = Option.none := by
        rw [Option.eq_none_iff_forall_ne_some]
        exact fun after read => noNewline after (newline?_eq_some_iff.mp read)
      rw [skipNewline, unread, Option.getD_none]

theorem Opening.length_le {input rest : List Char} (opening : Opening input rest) :
    rest.length ≤ input.length := by
  cases opening with
  | newline newline => exact Nat.le_of_lt newline.length_lt
  | none => exact Nat.le_refl _

theorem Text.length_lt {input body rest : List Char} (text : Text input body rest) :
    rest.length < input.length := by
  cases text with
  | line _ quoted =>
      have := quoted.length_lt
      rw [List.length_cons]
      omega
  | lines _ opening quoted =>
      have first := opening.length_le
      have := quoted.length_lt
      simp only [List.length_cons]
      omega

/-- Two marks in front of text on one line are all of it. -/
private theorem Quoted.of_mark {mark : Char} {input body rest : List Char}
    (isMark : IsMark mark) (quoted : Quoted mark (mark :: input) body rest) : input = rest := by
  have notBackslash : mark ≠ '\\' := by rcases isMark with rfl | rfl <;> decide
  generalize spelled : mark :: input = all at quoted
  cases quoted with
  | close => exact (List.cons.inj spelled).2
  | plain _ notMark => exact absurd (List.cons.inj spelled).1.symm notMark
  | escape => exact absurd (List.cons.inj spelled).1 notBackslash

/-- Quoted text of any kind is read to what it stands for, if no mark follows it. -/
theorem Text.quoted?_eq {input body rest : List Char} (text : Text input body rest)
    (ends : Ends rest) : quoted? input = some (body, rest) := by
  have stops : ∀ {mark : Char}, IsMark mark → Stops (· = mark) rest := by
    rintro mark (rfl | rfl)
    · exact ends.stops (by decide)
    · exact ends.stops (by decide)
  cases text with
  | @line mark input _ _ isMark quoted =>
      have notThree : ∀ after, input ≠ mark :: mark :: after := by
        rintro after rfl
        have same := quoted.of_mark isMark
        subst same
        exact absurd (stops isMark mark rfl) (by simp)
      rw [← quoted.quotedLine?_eq isMark, quoted?]
      · rintro after same
        obtain ⟨rfl, rfl⟩ := List.cons.inj same
        exact notThree after rfl
      · rintro after same
        obtain ⟨rfl, rfl⟩ := List.cons.inj same
        exact notThree after rfl
  | lines isMark opening quoted =>
      rcases isMark with rfl | rfl
      · rw [quoted?, opening.skipNewline_eq]
        exact linesReader_linesBody?.read_eq (.inl rfl) quoted (stops (.inl rfl))
      · rw [quoted?, opening.skipNewline_eq]
        exact linesReader_literalLinesBody?.read_eq (.inr rfl) quoted (stops (.inr rfl))

end Turnstile.Toml.Grammar
