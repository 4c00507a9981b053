import Turnstile.Proofs.Toml.Value

/-!
# Reading documents of TOML

A document is read to the lines that it spells (`Document.lines?_eq`), with or without the
mark of its encoding in front (`Spells.ofString?_eq`): what it means is then a matter of its
lines alone.
-/

namespace Turnstile.Toml.Grammar

/-! ## Lines -/

private theorem bind_cons (line : Line) (later : Option (List Line)) :
    (later.bind fun lines => some (line :: lines)) = later.map (line :: ·) := by
  cases later <;> rfl

/-- What starts a key starts no line of another sort. -/
private theorem lines?_of_pair {pair : List String × Toml} {input start rest next : List Char}
    (before : Blanks input start) (held : Pair (Value depthLimit) start pair rest)
    (ends : Ends rest) (ended : lineEnd? rest = some next) (count : Nat) :
    lines? (count + 1) input = (lines? count next).map (Line.pair pair.1 pair.2 :: ·) := by
  have read : pairLine? start = some (.pair pair.1 pair.2, next) := by
    simp only [pairLine?, held.pair?_eq (Value.reads depthLimit) (Blanks.refl start) ends, ended,
      Option.map_some]
  have starts := held.starts
  have skipped : skipBlanks input = start := by
    rw [before.skipBlanks_eq, skipBlanks_of_keyStart starts]
  obtain ⟨c, tail, rfl, _⟩ := held.starts
  rw [lines?, skipped]
  split
  · next same => cases same
  · next same => exact absurd same (starts.ne_cons (by decide) _)
  · next same => exact absurd same (starts.ne_cons (by decide) _)
  · next same => exact absurd same (starts.ne_cons (by decide) _)
  · next same => exact absurd same (starts.ne_cons (by decide) _)
  · simp only [read, Option.bind_eq_bind, Option.bind_some]
    exact bind_cons _ _

/-- A header is read up to the end of its line. -/
private theorem lines?_of_header {line : Line} {input start next : List Char}
    (before : Blanks input ('[' :: start)) (read : header? start = some (line, next))
    (count : Nat) : lines? (count + 1) input = (lines? count next).map (line :: ·) := by
  simp only [lines?, before.skipBlanks_cons (show isBlank '[' = false by decide), read,
    Option.bind_eq_bind, Option.bind_some]
  exact bind_cons _ _

/-- The header of a table does not go on with a second bracket. -/
private theorem header?_of_table {path : List String} {input start afterKey rest next : List Char}
    (before : Blanks input start) (key : Key start path afterKey)
    (after : Blanks afterKey (']' :: rest)) (ended : lineEnd? rest = some next) :
    header? input = some (.table path, next) := by
  have read := key.key?_eq before after (.inr rfl)
  have notBracket : ∀ tail, input ≠ '[' :: tail := by
    rintro tail rfl
    have skipped := before.skipBlanks_eq
    rw [skipBlanks_of_keyStart key.starts,
      skipBlanks_of_stops (stops_cons (by decide) tail)] at skipped
    exact key.starts.ne_cons (by decide) tail skipped.symm
  unfold header?
  split
  · next tail => exact absurd rfl (notBracket tail)
  · simp only [read, ended, Option.map_some]

/-- A statement that says something is read as one line. -/
private theorem Statement.lines?_eq {said : List Line} {input start rest next : List Char}
    (before : Blanks input start) (statement : Statement start said rest) (ends : Ends rest)
    (ended : lineEnd? rest = some next) (something : said ≠ []) (count : Nat) :
    lines? (count + 1) input = (lines? count next).map (said ++ ·) := by
  cases statement with
  | nothing => exact absurd rfl something
  | table blanks key after =>
      exact lines?_of_header before (header?_of_table blanks key after ended) count
  | @element path input _ _ _ blanks key after =>
      have read : header? ('[' :: input) = some (.element path, next) := by
        simp only [header?, key.key?_eq blanks after (.inr rfl), ended, Option.map_some]
      exact lines?_of_header before read count
  | pair held => exact lines?_of_pair before held ends ended count

theorem Statement.length_lt {said : List Line} {input rest : List Char}
    (statement : Statement input said rest) (something : said ≠ []) :
    rest.length < input.length := by
  cases statement with
  | nothing => exact absurd rfl something
  | table before key after | element before key after =>
      have first := before.length_le
      have second := key.parts.length_lt
      have third := after.length_le
      simp only [List.length_cons] at third ⊢
      omega
  | pair held => exact held.length_lt (Value.reads depthLimit)

/-- What says nothing takes nothing. -/
private theorem Statement.eq_of_nil {input rest : List Char}
    (statement : Statement input [] rest) : rest = input := by
  cases statement
  rfl

theorem Statement.length_le {said : List Line} {input rest : List Char}
    (statement : Statement input said rest) : rest.length ≤ input.length := by
  cases said with
  | nil => exact Nat.le_of_eq (congrArg List.length statement.eq_of_nil)
  | cons => exact Nat.le_of_lt (statement.length_lt (List.cons_ne_nil _ _))

/-- A line without a statement is skipped. -/
private theorem lines?_of_nothing {input line ending next : List Char}
    (before : Blanks input line) (comment : Comment line ending) (newline : Newline ending next)
    (count : Nat) : lines? (count + 1) input = lines? count next := by
  have skipped : skipBlanks input = line := by
    rw [before.skipBlanks_eq, skipBlanks_of_stops (comment.stops_isBlank newline.stops_isBlank)]
  rw [lines?, skipped]
  cases comment with
  | none => cases newline <;> rfl
  | mark text =>
      have ended := lineEnd?_of_newline (Blanks.refl _) (.mark text) newline
      simp only [ended, Option.bind_eq_bind, Option.bind_some]

private theorem Comment.ends {line ending : List Char} (comment : Comment line ending)
    (ends : Ends ending) : Ends line := by
  cases comment with
  | none => exact ends
  | mark => exact ends_cons (by decide) _

/-- The last line may be without a statement. -/
private theorem lines?_of_comment {input line : List Char} (before : Blanks input line)
    (comment : Comment line []) {count : Nat} (enough : input.length < count) :
    lines? count input = some [] := by
  obtain ⟨count, rfl⟩ := Nat.exists_eq_add_one_of_ne_zero (Nat.ne_zero_of_lt enough)
  have skipped : skipBlanks input = line := by
    rw [before.skipBlanks_eq, skipBlanks_of_stops (comment.stops_isBlank (stops_nil _))]
  rw [lines?, skipped]
  cases comment with
  | none => rfl
  | mark text =>
      have length := before.length_le
      rw [List.length_cons] at length
      obtain ⟨count, rfl⟩ : ∃ n, count = n + 1 := ⟨count - 1, by omega⟩
      simp only [lineEnd?_of_last (Blanks.refl _) (.mark text), Option.bind_eq_bind,
        Option.bind_some]
      rfl

theorem Blanks.trans {input middle rest : List Char} (first : Blanks input middle)
    (second : Blanks middle rest) : Blanks input rest := by
  obtain ⟨found, rfl, each⟩ := first
  obtain ⟨more, rfl, eachMore⟩ := second
  refine ⟨found ++ more, (List.append_assoc ..).symm, fun c member => ?_⟩
  exact (List.mem_append.mp member).elim (each c) (eachMore c)

/-- A document is read to the lines that it spells. -/
theorem Document.lines?_eq {input : List Char} {lines : List Line}
    (document : Document input lines) {count : Nat} (enough : input.length < count) :
    lines? count input = some lines := by
  induction document generalizing count with
  | @last said _ _ afterStatement _ before statement after comment =>
      by_cases something : said = []
      · subst something
        obtain rfl := statement.eq_of_nil
        exact lines?_of_comment (before.trans after) comment enough
      · have first := before.length_le
        have second := statement.length_lt something
        obtain ⟨count, rfl⟩ : ∃ n, count = n + 2 := ⟨count - 2, by omega⟩
        have ends : Ends afterStatement := (comment.ends ends_nil).of_blanks after
        have ended : lines? (count + 1) [] = some [] := rfl
        rw [statement.lines?_eq before ends (lineEnd?_of_last after comment) something, ended,
          Option.map_some, List.append_nil]
  | @more said _ _ _ afterStatement _ _ next before statement after comment newline _
      inductionHypothesis =>
      have first := before.length_le
      have second := statement.length_le
      have third := after.length_le
      have fourth := comment.length_le
      have fifth := newline.length_lt
      obtain ⟨count, rfl⟩ := Nat.exists_eq_add_one_of_ne_zero (Nat.ne_zero_of_lt enough)
      have later := @inductionHypothesis count (by omega)
      by_cases something : said = []
      · subst something
        obtain rfl := statement.eq_of_nil
        rw [lines?_of_nothing (before.trans after) comment newline, later, List.nil_append]
      · have ends : Ends afterStatement := (comment.ends newline.ends).of_blanks after
        rw [statement.lines?_eq before ends (lineEnd?_of_newline after comment newline) something,
          later, Option.map_some]

/-- The mark of an encoding starts no line. -/
private theorem lines?_mark (count : Nat) (rest : List Char) :
    lines? count (Char.ofNat 0xFEFF :: rest) = none := by
  cases count with
  | zero => rfl
  | succ count =>
      have noKey : key? (Char.ofNat 0xFEFF :: rest) = none := rfl
      have noPair : pairLine? (Char.ofNat 0xFEFF :: rest) = none := by
        simp only [pairLine?, pair?, noKey]
      change pairLine? (Char.ofNat 0xFEFF :: rest) >>= _ = none
      rw [noPair]
      rfl

/-- A text is read to what the lines that it spells make. -/
theorem Spells.ofString?_eq {text : String} {lines : List Line} (spells : Spells text lines) :
    ofString? text = ofLines? lines := by
  cases spells with
  | @plain input _ document =>
      have read := document.lines?_eq (Nat.lt_succ_self input.length)
      have unmarked : withoutMark input = input := by
        cases input with
        | nil => rfl
        | cons c rest =>
            rw [withoutMark, if_neg]
            intro code
            obtain rfl : c = Char.ofNat 0xFEFF := by rw [← code, Char.ofNat_toNat]
            rw [lines?_mark] at read
            cases read
      rw [ofString?, String.toList_ofList, unmarked]
      simp only [read, Option.bind_eq_bind, Option.bind_some]
  | @marked input _ document =>
      have read := document.lines?_eq (Nat.lt_succ_self input.length)
      have unmarked : withoutMark (Char.ofNat 0xFEFF :: input) = input := rfl
      rw [ofString?, String.toList_ofList, unmarked]
      simp only [read, Option.bind_eq_bind, Option.bind_some]

end Turnstile.Toml.Grammar
