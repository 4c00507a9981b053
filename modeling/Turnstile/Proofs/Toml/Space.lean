import Turnstile.Proofs.Toml.Grammar

/-!
# Reading the space of a document

A reader takes as much of a kind of characters as there is, a rule takes some. The two end
up at the same place where what follows is of another kind (`Stops`). A value, a key and a
statement are each followed by space and then by a character that ends them or by nothing
(`Ends`), and this is all that their readers need to know of what follows.
-/

namespace Turnstile.Toml.Grammar

/-! ## What follows -/

/-- Nothing follows, or a character of another kind. -/
def Stops (kind : Char → Bool) (rest : List Char) : Prop := ∀ c ∈ rest.head?, kind c = false

theorem stops_nil (kind : Char → Bool) : Stops kind [] := by
  simp [Stops]

theorem stops_cons {kind : Char → Bool} {c : Char} (other : kind c = false) (rest : List Char) :
    Stops kind (c :: rest) := by
  simpa [Stops] using other

/-- Without a character of a kind in front, there is none at the end of its run. -/
theorem Stops.mono {narrow wide : Char → Bool} {rest : List Char} (stops : Stops wide rest)
    (included : ∀ c, narrow c = true → wide c = true) : Stops narrow rest := by
  intro c head
  have notWide : wide c = false := stops c head
  cases isNarrow : narrow c with
  | false => rfl
  | true => rw [← notWide, included c isNarrow]

/-- A character of a kind comes next. -/
def Starts (kind : Char → Bool) (input : List Char) : Prop :=
  ∃ c tail, input = c :: tail ∧ kind c = true

theorem Starts.mono {narrow wide : Char → Bool} {input : List Char} (starts : Starts narrow input)
    (included : ∀ c, narrow c = true → wide c = true) : Starts wide input := by
  obtain ⟨c, tail, same, isNarrow⟩ := starts
  exact ⟨c, tail, same, included c isNarrow⟩

/-- What is of a kind is not what is of another. -/
theorem ne_of_kind {kind : Char → Bool} {c other : Char} (isKind : kind c = true)
    (notKind : kind other = false) : c ≠ other := by
  rintro rfl
  rw [isKind] at notKind
  cases notKind

theorem Starts.ne_cons {kind : Char → Bool} {input : List Char} (starts : Starts kind input)
    {other : Char} (notKind : kind other = false) (rest : List Char) : input ≠ other :: rest := by
  obtain ⟨c, tail, rfl, isKind⟩ := starts
  exact fun same => ne_of_kind isKind notKind (List.cons.inj same).1

/-- The characters that may come after a value and white space. -/
def endings : List Char := ['\n', '\r', '#', ',', ']', '\x7d']

/-- White space follows, and then the end or a character that ends a value. -/
def Ends (rest : List Char) : Prop := ∀ c ∈ (skipBlanks rest).head?, c ∈ endings

theorem ends_nil : Ends [] := by
  simp [Ends, skipBlanks]

/-- What ends a value starts with white space or with an ending. -/
theorem Ends.head {rest : List Char} (ends : Ends rest) :
    ∀ c ∈ rest.head?, isBlank c = true ∨ c ∈ endings := by
  cases rest with
  | nil => simp
  | cons first rest =>
      rintro c head
      obtain rfl : first = c := by simpa using head
      by_cases blank : isBlank first = true
      · exact .inl blank
      · refine .inr (ends first ?_)
        rw [skipBlanks, List.dropWhile_cons_of_neg blank]
        rfl

/-- A kind that is tested on a list of characters has none of them. -/
theorem eq_false_of_any {kind : Char → Bool} {listed : List Char} (others : listed.any kind = false)
    {c : Char} (member : c ∈ listed) : kind c = false :=
  Bool.eq_false_iff.mpr (List.any_eq_false.mp others c member)

/-- A run ends before a value's end, unless white space or an ending is of its kind. -/
theorem Ends.stops {rest : List Char} (ends : Ends rest) {kind : Char → Bool}
    (others : (' ' :: '\t' :: endings).any kind = false) : Stops kind rest := by
  intro c head
  refine eq_false_of_any others ?_
  rcases ends.head c head with blank | ending
  · have either : c = ' ' ∨ c = '\t' := by simpa [isBlank] using blank
    rcases either with rfl | rfl <;> simp
  · simp [ending]

/-! ## White space and line ends -/

/-- Where no character of a kind is next, none is dropped. -/
theorem Stops.dropWhile_eq {kind : Char → Bool} {rest : List Char} (stops : Stops kind rest) :
    rest.dropWhile kind = rest := by
  cases rest with
  | nil => rfl
  | cons c rest => exact List.dropWhile_cons_of_neg (by simp [stops c rfl])

/-- The reader takes a whole run. -/
theorem Run.takeWhile_eq {kind : Char → Bool} {input found rest : List Char}
    (run : Run kind input found rest) (stops : Stops kind rest) :
    input.takeWhile kind = found := by
  rw [run.split, List.takeWhile_append_of_pos run.each]
  cases rest with
  | nil => simp
  | cons c rest =>
      rw [List.takeWhile_cons_of_neg (by simp [stops c rfl]), List.append_nil]

/-- What follows a run is left. -/
theorem Run.dropWhile_eq {kind : Char → Bool} {input found rest : List Char}
    (run : Run kind input found rest) (stops : Stops kind rest) :
    input.dropWhile kind = rest := by
  rw [run.split, List.dropWhile_append_of_pos run.each, stops.dropWhile_eq]

theorem Run.length_eq {kind : Char → Bool} {input found rest : List Char}
    (run : Run kind input found rest) : input.length = found.length + rest.length := by
  rw [run.split, List.length_append]

theorem Run.starts {kind : Char → Bool} {input found rest : List Char}
    (run : Run kind input found rest) (nonempty : found ≠ []) : Starts kind input := by
  obtain ⟨c, found, rfl⟩ := List.exists_cons_of_ne_nil nonempty
  exact ⟨c, found ++ rest, run.split, run.each c List.mem_cons_self⟩

theorem Blanks.refl (rest : List Char) : Blanks rest rest :=
  ⟨[], rfl, by simp⟩

theorem Blanks.length_le {input rest : List Char} (blanks : Blanks input rest) :
    rest.length ≤ input.length := by
  obtain ⟨found, run⟩ := blanks
  have := run.length_eq
  omega

theorem skipBlanks_of_stops {rest : List Char} (stops : Stops isBlank rest) :
    skipBlanks rest = rest :=
  stops.dropWhile_eq

/-- Behind white space there is as much to skip as in front of it. -/
theorem Blanks.skipBlanks_eq {input rest : List Char} (blanks : Blanks input rest) :
    skipBlanks input = skipBlanks rest := by
  obtain ⟨found, run⟩ := blanks
  rw [run.split, skipBlanks, List.dropWhile_append_of_pos run.each, skipBlanks]

/-- White space is skipped up to a visible character. -/
theorem Blanks.skipBlanks_cons {input rest : List Char} {c : Char}
    (blanks : Blanks input (c :: rest)) (visible : isBlank c = false) :
    skipBlanks input = c :: rest := by
  rw [blanks.skipBlanks_eq, skipBlanks_of_stops (stops_cons visible rest)]

theorem Ends.of_blanks {input rest : List Char} (ends : Ends rest) (blanks : Blanks input rest) :
    Ends input := by
  rwa [Ends, blanks.skipBlanks_eq]

theorem ends_cons {c : Char} (ending : c ∈ endings) (rest : List Char) : Ends (c :: rest) := by
  have others : endings.any isBlank = false := by decide
  have visible : isBlank c = false := eq_false_of_any others ending
  rw [Ends, skipBlanks_of_stops (stops_cons visible rest)]
  simpa using ending

theorem Newline.newline?_eq {input rest : List Char} (newline : Newline input rest) :
    newline? input = some rest := by
  cases newline <;> rfl

theorem newline?_eq_some_iff {input rest : List Char} :
    newline? input = some rest ↔ Newline input rest := by
  refine ⟨fun read => ?_, Newline.newline?_eq⟩
  unfold newline? at read
  split at read
  · cases read
    exact .feed
  · cases read
    exact .both
  · cases read

theorem Newline.length_lt {input rest : List Char} (newline : Newline input rest) :
    rest.length < input.length :=
  length_of_newline? newline.newline?_eq

theorem Newline.ends {input rest : List Char} (newline : Newline input rest) : Ends input := by
  cases newline
  · exact ends_cons (by decide) _
  · exact ends_cons (by decide) _

theorem Newline.skipLines_eq {input rest : List Char} (newline : Newline input rest) :
    skipLines input = skipLines rest := by
  cases newline
  · rw [skipLines]
  · rw [skipLines]

theorem skipLines_cons_blank {c : Char} (blank : isBlank c = true) (rest : List Char) :
    skipLines (c :: rest) = skipLines rest := by
  have either : c = ' ' ∨ c = '\t' := by simpa [isBlank] using blank
  rcases either with rfl | rfl
  · rw [skipLines]
  · rw [skipLines]

/-- Behind space there is as much to skip as in front of it. -/
theorem Spaces.skipLines_eq {input rest : List Char} (spaces : Spaces input rest) :
    skipLines input = skipLines rest := by
  induction spaces with
  | none => rfl
  | blank blank _ inductionHypothesis => rw [skipLines_cons_blank blank, inductionHypothesis]
  | newline newline _ inductionHypothesis => rw [newline.skipLines_eq, inductionHypothesis]

theorem Spaces.length_le {input rest : List Char} (spaces : Spaces input rest) :
    rest.length ≤ input.length := by
  induction spaces with
  | none => exact Nat.le_refl _
  | blank _ _ inductionHypothesis =>
      rw [List.length_cons]
      omega
  | newline newline _ inductionHypothesis =>
      have := newline.length_lt
      omega

theorem Spaces.ends {input rest : List Char} (spaces : Spaces input rest) (ends : Ends rest) :
    Ends input := by
  induction spaces with
  | none => exact ends
  | @blank c input _ blank _ inductionHypothesis =>
      have blanks : Blanks (c :: input) input := ⟨[c], rfl, by simpa using blank⟩
      exact (inductionHypothesis ends).of_blanks blanks
  | newline newline _ _ => exact newline.ends

/-- A visible character starts neither white space nor a line end. -/
def isVisible (c : Char) : Bool := !(isBlank c || c = '\n' || c = '\r')

theorem skipLines_of_visible {c : Char} (visible : isVisible c = true) (rest : List Char) :
    skipLines (c :: rest) = c :: rest := by
  have starts : Starts isVisible (c :: rest) := ⟨c, rest, rfl, visible⟩
  unfold skipLines
  split
  · next same => exact absurd same (starts.ne_cons (by decide) _)
  · next same => exact absurd same (starts.ne_cons (by decide) _)
  · next same => exact absurd same (starts.ne_cons (by decide) _)
  · next same => exact absurd same (starts.ne_cons (by decide) _)
  · rfl

/-- Space is skipped up to a visible character. -/
theorem Spaces.skipLines_cons {input rest : List Char} {c : Char}
    (spaces : Spaces input (c :: rest)) (visible : isVisible c = true) :
    skipLines input = c :: rest := by
  rw [spaces.skipLines_eq, skipLines_of_visible visible]

/-! ## Comments -/

theorem Newline.stops_printable {input rest : List Char} (newline : Newline input rest) :
    Stops isPrintable input := by
  cases newline
  · exact stops_cons (by decide) _
  · exact stops_cons (by decide) _

theorem Comment.length_le {input rest : List Char} (comment : Comment input rest) :
    rest.length ≤ input.length := by
  cases comment with
  | none => exact Nat.le_refl _
  | mark text =>
      have := text.length_eq
      rw [List.length_cons]
      omega

/-- A comment is skipped up to the end of its line. -/
theorem Comment.skipComment_eq {input rest : List Char} (comment : Comment input rest)
    (stops : Stops isPrintable rest) : skipComment input = rest := by
  cases comment with
  | none =>
      unfold skipComment
      split
      · have hash : isPrintable '#' = false := stops '#' rfl
        exact absurd hash (by decide)
      · rfl
  | mark text => rw [skipComment, text.dropWhile_eq stops]

theorem Comment.stops_isBlank {input rest : List Char} (comment : Comment input rest)
    (stops : Stops isBlank rest) : Stops isBlank input := by
  cases comment with
  | none => exact stops
  | mark text => exact stops_cons (by decide) _

theorem Newline.stops_isBlank {input rest : List Char} (newline : Newline input rest) :
    Stops isBlank input := by
  cases newline
  · exact stops_cons (by decide) _
  · exact stops_cons (by decide) _

/-- The rest of the last line is skipped. -/
theorem lineEnd?_of_last {input line : List Char} (blanks : Blanks input line)
    (comment : Comment line []) : lineEnd? input = some [] := by
  rw [lineEnd?, blanks.skipBlanks_eq,
    skipBlanks_of_stops (comment.stops_isBlank (stops_nil _)),
    comment.skipComment_eq (stops_nil _)]

/-- The rest of a line is skipped, its end included. -/
theorem lineEnd?_of_newline {input line ending rest : List Char} (blanks : Blanks input line)
    (comment : Comment line ending) (newline : Newline ending rest) :
    lineEnd? input = some rest := by
  rw [lineEnd?, blanks.skipBlanks_eq,
    skipBlanks_of_stops (comment.stops_isBlank newline.stops_isBlank),
    comment.skipComment_eq newline.stops_printable, ← newline.newline?_eq]
  cases newline <;> rfl

theorem Filler.length_le {input rest : List Char} (filler : Filler input rest) :
    rest.length ≤ input.length := by
  induction filler with
  | spaces spaces => exact spaces.length_le
  | comment spaces text newline _ inductionHypothesis =>
      have mark := spaces.length_le
      have comment := text.length_eq
      have line := newline.length_lt
      rw [List.length_cons] at mark
      omega

theorem Filler.ends {input rest : List Char} (filler : Filler input rest) (ends : Ends rest) :
    Ends input := by
  induction filler with
  | spaces spaces => exact spaces.ends ends
  | comment spaces => exact spaces.ends (ends_cons (by decide) _)

/-- Filler is skipped up to a visible character that starts no comment. -/
theorem Filler.skipFiller?_cons {input rest : List Char} {c : Char}
    (filler : Filler input (c :: rest)) (visible : isVisible c = true) (notComment : c ≠ '#')
    {count : Nat} (enough : input.length < count) :
    skipFiller? count input = some (c :: rest) := by
  generalize follows : c :: rest = next at filler
  induction filler generalizing count with
  | spaces spaces =>
      subst follows
      obtain ⟨count, rfl⟩ := Nat.exists_eq_add_one_of_ne_zero (Nat.ne_zero_of_lt enough)
      rw [skipFiller?, spaces.skipLines_cons visible]
      split
      · next same => exact absurd (List.cons.inj same).1 notComment
      · rfl
  | comment spaces text newline _ inductionHypothesis =>
      obtain ⟨count, rfl⟩ := Nat.exists_eq_add_one_of_ne_zero (Nat.ne_zero_of_lt enough)
      have mark := spaces.length_le
      have comment := text.length_eq
      have line := newline.length_lt
      rw [List.length_cons] at mark
      rw [skipFiller?, spaces.skipLines_cons (by decide)]
      simp only [text.dropWhile_eq newline.stops_printable, newline.newline?_eq]
      exact inductionHypothesis (by omega) follows

theorem Filler.filler?_cons {input rest : List Char} {c : Char}
    (filler : Filler input (c :: rest)) (visible : isVisible c = true) (notComment : c ≠ '#') :
    filler? input = some (c :: rest) :=
  filler.skipFiller?_cons visible notComment (Nat.lt_succ_self _)

end Turnstile.Toml.Grammar
