import Turnstile.Proofs.Toml.Number
import Turnstile.Proofs.Toml.Quoted

/-!
# Reading keys and values of TOML

Every key and every value is read to what it spells, and what follows is left. The values
of one level are read if those within them are (`Reads`), and the levels follow by
induction. A value is recognized by its first character, which no space, no comment and no
closing bracket has.
-/

namespace Turnstile.Toml.Grammar

/-! ## Keys -/

/-- White space and a character behind it end what holds neither. -/
theorem Blanks.stops {input rest : List Char} {c : Char} (blanks : Blanks input (c :: rest))
    {kind : Char → Bool} (others : [' ', '\t', c].any kind = false) :
    Stops kind input := by
  obtain ⟨found, split, each⟩ := blanks
  subst split
  cases found with
  | nil => exact stops_cons (eq_false_of_any others (by simp)) rest
  | cons first found =>
      have either : first = ' ' ∨ first = '\t' := by
        simpa [isBlank] using each first List.mem_cons_self
      refine stops_cons (eq_false_of_any others ?_) _
      rcases either with rfl | rfl <;> simp

/-- A character that a key may start with. -/
def isKeyStart (c : Char) : Bool := isBareKeyChar c || c = '"' || c = '\''

theorem SimpleKey.starts {part : String} {input rest : List Char}
    (simple : SimpleKey input part rest) : Starts isKeyStart input := by
  cases simple with
  | bare bare nonempty =>
      exact (bare.starts nonempty).mono fun c isBare => by simp [isKeyStart, isBare]
  | quoted isMark =>
      rcases isMark with rfl | rfl
      · exact ⟨'"', _, rfl, by decide⟩
      · exact ⟨'\'', _, rfl, by decide⟩

theorem SimpleKey.length_lt {part : String} {input rest : List Char}
    (simple : SimpleKey input part rest) : rest.length < input.length := by
  cases simple with
  | bare bare nonempty =>
      have length := bare.length_eq
      have positive := List.length_pos_iff.mpr nonempty
      omega
  | quoted _ quoted => exact Nat.lt_succ_of_lt quoted.length_lt

/-- A part of a key is read, if no character of one follows. -/
theorem SimpleKey.simpleKey?_eq {part : String} {input rest : List Char}
    (simple : SimpleKey input part rest) (stops : Stops isBareKeyChar rest) :
    simpleKey? input = some (part, rest) := by
  cases simple with
  | bare bare nonempty =>
      have unquoted : quotedLine? input = none := by
        have starts := bare.starts nonempty
        rw [quotedLine?]
        · exact starts.ne_cons (by decide)
        · exact starts.ne_cons (by decide)
      simp only [simpleKey?, unquoted, bare.takeWhile_eq stops, bare.dropWhile_eq stops]
  | quoted isMark quoted => simp only [simpleKey?, quoted.quotedLine?_eq isMark]

/-- A key may stand behind white space. -/
theorem Blanks.keyParts?_eq {input start : List Char} (blanks : Blanks input start)
    (count : Nat) : keyParts? count input = keyParts? count start := by
  cases count with
  | zero => rfl
  | succ count => simp only [keyParts?, blanks.skipBlanks_eq]

theorem skipBlanks_of_keyStart {input : List Char} (starts : Starts isKeyStart input) :
    skipBlanks input = input := by
  obtain ⟨c, tail, rfl, keyStart⟩ := starts
  refine skipBlanks_of_stops (stops_cons ?_ tail)
  have notSpace : c ≠ ' ' := ne_of_kind keyStart (by decide)
  have notTab : c ≠ '\t' := ne_of_kind keyStart (by decide)
  simp [isBlank, notSpace, notTab]

/-- A key is read up to the character that ends it. -/
theorem KeyParts.keyParts?_eq {path : List String} {input afterKey rest : List Char} {c : Char}
    (parts : KeyParts input path afterKey) (blanks : Blanks afterKey (c :: rest))
    (closes : c = '=' ∨ c = ']') {count : Nat} (enough : path.length ≤ count) :
    keyParts? count input = some (path, c :: rest) := by
  induction parts generalizing count with
  | last simple =>
      obtain ⟨count, rfl⟩ : ∃ n, count = n + 1 := ⟨count - 1, by simp at enough; omega⟩
      have visible : isBlank c = false := by rcases closes with rfl | rfl <;> decide
      have stops : Stops isBareKeyChar _ :=
        blanks.stops (by rcases closes with rfl | rfl <;> decide)
      simp only [keyParts?, skipBlanks_of_keyStart simple.starts, simple.simpleKey?_eq stops,
        blanks.skipBlanks_cons visible]
      split
      · next same =>
          obtain ⟨rfl, _⟩ := List.cons.inj same
          exact absurd closes (by decide)
      · rfl
  | more simple before after _ inductionHypothesis =>
      rw [List.length_cons] at enough
      obtain ⟨count, rfl⟩ : ∃ n, count = n + 1 := ⟨count - 1, by omega⟩
      have stops : Stops isBareKeyChar _ := before.stops (by decide)
      simp only [keyParts?, skipBlanks_of_keyStart simple.starts, simple.simpleKey?_eq stops,
        before.skipBlanks_cons (by decide), after.keyParts?_eq,
        inductionHypothesis blanks (Nat.le_of_succ_le_succ enough), Option.map_some]

theorem KeyParts.length_lt {path : List String} {input rest : List Char}
    (parts : KeyParts input path rest) : rest.length < input.length := by
  induction parts with
  | last simple => exact simple.length_lt
  | more simple before after _ inductionHypothesis =>
      have first := simple.length_lt
      have dot := before.length_le
      have next := after.length_le
      rw [List.length_cons] at dot
      omega

theorem Key.starts {path : List String} {input rest : List Char} (key : Key input path rest) :
    Starts isKeyStart input := by
  cases key.parts with
  | last simple => exact simple.starts
  | more simple => exact simple.starts

/-- A key with white space around it is read up to the character that ends it. -/
theorem Key.key?_eq {path : List String} {input start afterKey rest : List Char} {c : Char}
    (before : Blanks input start) (key : Key start path afterKey)
    (after : Blanks afterKey (c :: rest)) (closes : c = '=' ∨ c = ']') :
    key? input = some (path, c :: rest) := by
  rw [key?, before.keyParts?_eq, key.parts.keyParts?_eq after closes key.short]

/-! ## Values that hold no others -/

/-- A character that a number or a moment may start with. -/
def isNumericStart (c : Char) : Bool := c.isDigit || isSign c || c = 'i' || c = 'n'

/-- A character that a value may start with, if it holds no others. -/
def isScalarStart (c : Char) : Bool :=
  isNumericStart c || c = 't' || c = 'f' || c = '"' || c = '\''

/-- A character that a value may start with. -/
def isValueStart (c : Char) : Bool := isScalarStart c || c = '[' || c = '\x7b'

private theorem Sign.startsNumeric {negative : Bool} {input start : List Char}
    (sign : Sign input negative start) (numeric : Starts isNumericStart start) :
    Starts isNumericStart input := by
  cases sign with
  | none => exact numeric
  | plus | minus => exact ⟨_, _, rfl, by decide⟩

private theorem Whole.startsNumeric {input found rest : List Char}
    (whole : Whole input found rest) : Starts isNumericStart input :=
  whole.starts.mono fun c digit => by simp [isNumericStart, digit]

private theorem Integer.starts {value : Int} {input rest : List Char}
    (integer : Integer input value rest) : Starts isNumericStart input := by
  cases integer with
  | positive sign whole | negative sign whole => exact sign.startsNumeric whole.startsNumeric
  | radix => exact ⟨'0', _, rfl, by decide⟩

private theorem Decimal.starts {input rest : List Char} (decimal : Decimal input rest) :
    Starts isNumericStart input := by
  cases decimal with
  | mk sign wholePart => exact sign.startsNumeric wholePart.startsNumeric

private theorem Special.starts {input rest : List Char} (special : Special input rest) :
    Starts isNumericStart input := by
  cases special with
  | infinity sign | notNumber sign => exact sign.startsNumeric ⟨_, _, rfl, by decide⟩

private theorem TwoDigits.startsNumeric {low high value : Nat} {input rest : List Char}
    (twoDigits : TwoDigits low high input value rest) : Starts isNumericStart input := by
  cases twoDigits with
  | mk isDigit => exact ⟨_, _, rfl, by simp [isNumericStart, isDigit.1]⟩

private theorem Moment.starts {input rest : List Char} (moment : Moment input rest) :
    Starts isNumericStart input := by
  cases moment with
  | date date | both date =>
      cases date with
      | mk centuryPart => exact centuryPart.startsNumeric
  | time time =>
      cases time with
      | mk hourPart => exact hourPart.startsNumeric

private theorem scalar?_of_numeric {input : List Char} (starts : Starts isNumericStart input) :
    scalar? input = numeric? input := by
  rw [scalar?]
  · exact starts.ne_cons (by decide)
  · exact starts.ne_cons (by decide)
  · exact starts.ne_cons (by decide)
  · exact starts.ne_cons (by decide)

/-- A value that holds no others is read. -/
theorem Scalar.scalar?_eq {value : Toml} {input rest : List Char}
    (scalar : Scalar input value rest) (ends : Ends rest) :
    scalar? input = some (value, rest) := by
  cases scalar with
  | @text _ body _ text =>
      have read : (quoted? input).map (fun found => (Toml.text (String.ofList found.1), found.2)) =
          some (.text (String.ofList body), rest) := by
        rw [text.quoted?_eq ends, Option.map_some]
      cases text with
      | line isMark | lines isMark =>
          rcases isMark with rfl | rfl
          · exact read
          · exact read
  | yes | no => rfl
  | integer integer => rw [scalar?_of_numeric integer.starts, integer.numeric?_eq ends]
  | decimal decimal => rw [scalar?_of_numeric decimal.starts, decimal.numeric?_eq ends]
  | special special => rw [scalar?_of_numeric special.starts, special.numeric?_eq]
  | moment moment => rw [scalar?_of_numeric moment.starts, moment.numeric?_eq ends]

theorem Scalar.starts {value : Toml} {input rest : List Char} (scalar : Scalar input value rest) :
    Starts isScalarStart input := by
  have ofNumeric : Starts isNumericStart input → Starts isScalarStart input :=
    fun starts => starts.mono fun c numeric => by simp [isScalarStart, numeric]
  cases scalar with
  | text text =>
      cases text with
      | line isMark | lines isMark =>
          rcases isMark with rfl | rfl
          · exact ⟨'"', _, rfl, by decide⟩
          · exact ⟨'\'', _, rfl, by decide⟩
  | yes => exact ⟨'t', _, rfl, by decide⟩
  | no => exact ⟨'f', _, rfl, by decide⟩
  | integer integer => exact ofNumeric integer.starts
  | decimal decimal => exact ofNumeric decimal.starts
  | special special => exact ofNumeric special.starts
  | moment moment => exact ofNumeric moment.starts

theorem Scalar.startsValue {value : Toml} {input rest : List Char}
    (scalar : Scalar input value rest) : Starts isValueStart input :=
  scalar.starts.mono fun c scalarStart => by simp [isValueStart, scalarStart]

theorem Scalar.length_lt {value : Toml} {input rest : List Char}
    (scalar : Scalar input value rest) : rest.length < input.length := by
  cases scalar with
  | text text => exact text.length_lt
  | yes | no => simp only [List.length_cons]; omega
  | integer integer => exact integer.length_lt
  | decimal decimal => exact decimal.length_lt
  | special special => exact special.length_lt
  | moment moment => exact moment.length_lt

/-! ## Values that hold others -/

/-- A reader reads the values of a grammar rule: each of them starts as values do, takes at
least one character and is read if its end follows. -/
structure Reads (Inner : List Char → Toml → List Char → Prop)
    (read : List Char → Option (Toml × List Char)) : Prop where
  starts : ∀ {value input rest}, Inner input value rest → Starts isValueStart input
  length_lt : ∀ {value input rest}, Inner input value rest → rest.length < input.length
  read_eq : ∀ {value input rest}, Inner input value rest → Ends rest →
    read input = some (value, rest)

theorem isVisible_of_valueStart {c : Char} (valueStart : isValueStart c = true) :
    isVisible c = true := by
  have notSpace : c ≠ ' ' := ne_of_kind valueStart (by decide)
  have notTab : c ≠ '\t' := ne_of_kind valueStart (by decide)
  have notFeed : c ≠ '\n' := ne_of_kind valueStart (by decide)
  have notReturn : c ≠ '\r' := ne_of_kind valueStart (by decide)
  simp [isVisible, isBlank, notSpace, notTab, notFeed, notReturn]

section

variable {Inner : List Char → Toml → List Char → Prop}
  {read : List Char → Option (Toml × List Char)}

/-- With an item next, the reader of an array takes it and looks at what follows. -/
private theorem items?_of_item (reads : Reads Inner read) {item : Toml}
    {input start afterItem : List Char} (before : Filler input start)
    (held : Inner start item afterItem) (ends : Ends afterItem) (count : Nat) :
    items? read (count + 1) input =
      match filler? afterItem with
      | some (']' :: rest) => some ([item], rest)
      | some (',' :: rest) =>
          (items? read count rest).map fun (items, rest) => (item :: items, rest)
      | _ => none := by
  obtain ⟨c, tail, rfl, valueStart⟩ := reads.starts held
  have notBracket : c ≠ ']' := ne_of_kind valueStart (by decide)
  simp only [items?, before.filler?_cons (isVisible_of_valueStart valueStart)
    (ne_of_kind valueStart (by decide))]
  split
  · next same => cases same
  · next same =>
      cases same
      exact absurd rfl notBracket
  · next same =>
      cases same
      have readsItem := reads.read_eq held ends
      generalize read (c :: tail) = found at readsItem ⊢
      subst readsItem
      rfl

/-- An item takes its part of an array, and so does what follows it. -/
private theorem length_lt_of_item (reads : Reads Inner read) {item : Toml} {c : Char}
    {input start afterItem rest : List Char} (before : Filler input start)
    (held : Inner start item afterItem) (after : Filler afterItem (c :: rest)) :
    rest.length < input.length := by
  have first := before.length_le
  have second := reads.length_lt held
  have third := after.length_le
  rw [List.length_cons] at third
  omega

/-- An array is read if its items are. -/
theorem Items.items?_eq (reads : Reads Inner read) {items : List Toml} {input rest : List Char}
    (spelled : Items Inner input items rest) {count : Nat} (enough : input.length < count) :
    items? read count input = some (items, rest) := by
  induction spelled generalizing count with
  | close filler =>
      obtain ⟨count, rfl⟩ := Nat.exists_eq_add_one_of_ne_zero (Nat.ne_zero_of_lt enough)
      simp only [items?, filler.filler?_cons (by decide) (by decide)]
  | last before held after =>
      obtain ⟨count, rfl⟩ := Nat.exists_eq_add_one_of_ne_zero (Nat.ne_zero_of_lt enough)
      simp only [items?_of_item reads before held (after.ends (ends_cons (by decide) _)),
        after.filler?_cons (by decide) (by decide)]
  | more before held after _ inductionHypothesis =>
      obtain ⟨count, rfl⟩ := Nat.exists_eq_add_one_of_ne_zero (Nat.ne_zero_of_lt enough)
      have shorter := length_lt_of_item reads before held after
      simp only [items?_of_item reads before held (after.ends (ends_cons (by decide) _)),
        after.filler?_cons (by decide) (by decide)]
      rw [inductionHypothesis (by omega), Option.map_some]

theorem Items.length_lt (reads : Reads Inner read) {items : List Toml} {input rest : List Char}
    (spelled : Items Inner input items rest) : rest.length < input.length := by
  induction spelled with
  | close filler => exact filler.length_le
  | last before held after => exact length_lt_of_item reads before held after
  | more before held after _ inductionHypothesis =>
      exact Nat.lt_trans inductionHypothesis (length_lt_of_item reads before held after)

/-- A key with its value is read if the value is. -/
theorem Pair.pair?_eq (reads : Reads Inner read) {pair : List String × Toml}
    {input start rest : List Char} (blanks : Blanks input start)
    (spelled : Pair Inner start pair rest) (ends : Ends rest) :
    pair? read input = some (pair, rest) := by
  cases spelled with
  | mk key before after held =>
      obtain ⟨c, tail, rfl, valueStart⟩ := reads.starts held
      have visible : isBlank c = false := by
        have := isVisible_of_valueStart valueStart
        simp only [isVisible, Bool.not_eq_true', Bool.or_eq_false_iff] at this
        exact this.1.1
      simp only [pair?, key.key?_eq blanks before (.inl rfl), after.skipBlanks_cons visible,
        reads.read_eq held ends, Option.map_some]

theorem Pair.starts {pair : List String × Toml} {input rest : List Char}
    (spelled : Pair Inner input pair rest) : Starts isKeyStart input := by
  cases spelled with
  | mk key => exact key.starts

theorem Pair.length_lt (reads : Reads Inner read) {pair : List String × Toml}
    {input rest : List Char} (spelled : Pair Inner input pair rest) :
    rest.length < input.length := by
  cases spelled with
  | mk key before after held =>
      have first := key.parts.length_lt
      have second := before.length_le
      have third := after.length_le
      have fourth := reads.length_lt held
      rw [List.length_cons] at second
      omega

/-- A pair takes its part of an inline table, and so does what follows it. -/
private theorem length_lt_of_pair (reads : Reads Inner read) {pair : List String × Toml} {c : Char}
    {input start afterPair rest : List Char} (before : Blanks input start)
    (held : Pair Inner start pair afterPair) (after : Blanks afterPair (c :: rest)) :
    rest.length < input.length := by
  have first := before.length_le
  have second := held.length_lt reads
  have third := after.length_le
  rw [List.length_cons] at third
  omega

/-- The pairs of an inline table are read if their values are. -/
theorem Pairs.pairs?_eq (reads : Reads Inner read) {pairs : List (List String × Toml)}
    {input rest : List Char} (spelled : Pairs Inner input pairs rest) {count : Nat}
    (enough : input.length < count) : pairs? read count input = some (pairs, rest) := by
  induction spelled generalizing count with
  | last before held after =>
      obtain ⟨count, rfl⟩ := Nat.exists_eq_add_one_of_ne_zero (Nat.ne_zero_of_lt enough)
      have ends : Ends _ := (ends_cons (by decide) _).of_blanks after
      simp only [pairs?, held.pair?_eq reads before ends, after.skipBlanks_cons (by decide)]
  | more before held after _ inductionHypothesis =>
      obtain ⟨count, rfl⟩ := Nat.exists_eq_add_one_of_ne_zero (Nat.ne_zero_of_lt enough)
      have shorter := length_lt_of_pair reads before held after
      have ends : Ends _ := (ends_cons (by decide) _).of_blanks after
      simp only [pairs?, held.pair?_eq reads before ends, after.skipBlanks_cons (by decide)]
      rw [inductionHypothesis (by omega), Option.map_some]

theorem Pairs.length_lt (reads : Reads Inner read) {pairs : List (List String × Toml)}
    {input rest : List Char} (spelled : Pairs Inner input pairs rest) :
    rest.length < input.length := by
  induction spelled with
  | last before held after => exact length_lt_of_pair reads before held after
  | more before held after _ inductionHypothesis =>
      exact Nat.lt_trans inductionHypothesis (length_lt_of_pair reads before held after)

/-- The first pair of an inline table is not its closing brace. -/
private theorem Pairs.skipBlanks_ne {pairs : List (List String × Toml)} {input rest : List Char}
    (spelled : Pairs Inner input pairs rest) (after : List Char) :
    skipBlanks input ≠ '\x7d' :: after := by
  have ofPair : ∀ {start rest : List Char} {pair : List String × Toml}, Blanks input start →
      Pair Inner start pair rest → skipBlanks input ≠ '\x7d' :: after := by
    intro start rest pair before held same
    rw [before.skipBlanks_eq, skipBlanks_of_keyStart held.starts] at same
    exact held.starts.ne_cons (by decide) after same
  cases spelled with
  | last before held => exact ofPair before held
  | more before held => exact ofPair before held

/-- A value is read if those within it are. -/
theorem Nested.reads {depth : Nat} (inner : Reads Inner (value? depth)) :
    Reads (Nested Inner) (value? (depth + 1)) where
  starts nested := by
    cases nested with
    | scalar scalar => exact scalar.startsValue
    | array => exact ⟨'[', _, rfl, by decide⟩
    | emptyTable | table => exact ⟨'\x7b', _, rfl, by decide⟩
  length_lt nested := by
    cases nested with
    | scalar scalar => exact scalar.length_lt
    | array held => exact Nat.lt_succ_of_lt (held.length_lt inner)
    | emptyTable blanks =>
        have := blanks.length_le
        rw [List.length_cons] at this ⊢
        omega
    | table held => exact Nat.lt_succ_of_lt (held.length_lt inner)
  read_eq nested ends := by
    cases nested with
    | scalar scalar =>
        rw [value?]
        · exact scalar.scalar?_eq ends
        · exact scalar.starts.ne_cons (by decide)
        · exact scalar.starts.ne_cons (by decide)
    | array held => rw [value?, held.items?_eq inner (Nat.lt_succ_self _), Option.map_some]
    | emptyTable blanks =>
        simp only [value?, inlineTable?, blanks.skipBlanks_cons (by decide)]
    | table held made =>
        simp only [value?, inlineTable?, held.pairs?_eq inner (Nat.lt_succ_self _), made,
          Option.map_some]
        split
        · next after same => exact absurd same (held.skipBlanks_ne after)
        · rfl

end

/-- Every value is read that nests no more levels than the reader goes. -/
theorem Value.reads (depth : Nat) : Reads (Value depth) (value? depth) := by
  induction depth with
  | zero =>
      exact {
        starts := Scalar.startsValue
        length_lt := Scalar.length_lt
        read_eq := Scalar.scalar?_eq }
  | succ depth inductionHypothesis => exact Nested.reads inductionHypothesis

end Turnstile.Toml.Grammar
