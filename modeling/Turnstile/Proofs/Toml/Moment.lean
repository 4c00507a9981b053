import Turnstile.Proofs.Toml.Space

/-!
# Reading moments of TOML

A moment is read up to what ends a value. A date may be followed by a space and a time of
day, so the reader looks past a space after a date: what ends a value has no digit there.
A text that is read as a moment starts with two digits, and the digits in front are followed
by a colon or a hyphen (`skip?_digits`); this tells numbers from moments.
-/

namespace Turnstile.Toml.Grammar

theorem TwoDigits.pair?_eq {low high value : Nat} {input rest : List Char}
    (twoDigits : TwoDigits low high input value rest) :
    Moment.pair? low high input = some (value, rest) := by
  cases twoDigits with
  | mk isDigit above below => simp only [Moment.pair?, isDigit, above, below, and_self, if_true]

theorem TwoDigits.length_eq {low high value : Nat} {input rest : List Char}
    (twoDigits : TwoDigits low high input value rest) : input.length = rest.length + 2 := by
  cases twoDigits
  rfl

private theorem TwoDigits.mono {low high higher value : Nat} {input rest : List Char}
    (twoDigits : TwoDigits low high input value rest) (le : high ≤ higher) :
    TwoDigits low higher input value rest := by
  cases twoDigits with
  | mk isDigit above below => exact .mk isDigit above (Nat.le_trans below le)

/-- A date is read. -/
theorem Date.date?_eq {input rest : List Char} (date : Date input rest) :
    Moment.date? input = some rest := by
  cases date with
  | mk centuryPart yearPart monthPart dayPart inMonth =>
      simp only [Moment.date?, centuryPart.pair?_eq, yearPart.pair?_eq, Moment.expect?,
        monthPart.pair?_eq, dayPart.pair?_eq, Option.bind_eq_bind, Option.bind_some, if_true,
        inMonth]

theorem Date.length_lt {input rest : List Char} (date : Date input rest) :
    rest.length < input.length := by
  cases date with
  | mk centuryPart yearPart monthPart dayPart =>
      have century := centuryPart.length_eq
      have year := yearPart.length_eq
      have month := monthPart.length_eq
      have day := dayPart.length_eq
      simp only [List.length_cons] at year month
      omega

/-- A fraction of a second is skipped up to what goes on with neither it nor a digit. -/
private theorem SecondFraction.skipFraction_eq {input rest : List Char}
    (fraction : SecondFraction input rest) (noPoint : Stops (· = '.') rest)
    (noDigit : Stops Char.isDigit rest) : Moment.skipFraction input = rest := by
  cases fraction with
  | none =>
      unfold Moment.skipFraction
      split
      · exact absurd (noPoint '.' rfl) (by decide)
      · rfl
  | point first digits =>
      rw [Moment.skipFraction, if_pos first, digits.dropWhile_eq noDigit]

private theorem SecondFraction.length_le {input rest : List Char}
    (fraction : SecondFraction input rest) : rest.length ≤ input.length := by
  cases fraction with
  | none => exact Nat.le_refl _
  | point _ digits =>
      have := digits.length_eq
      simp only [List.length_cons]
      omega

/-- A time of day is read. -/
private theorem Time.time?_eq {input rest : List Char} (time : Time input rest)
    (noPoint : Stops (· = '.') rest) (noDigit : Stops Char.isDigit rest) :
    Moment.time? input = some rest := by
  cases time with
  | mk hourPart minutePart secondPart fraction =>
      simp only [Moment.time?, hourPart.pair?_eq, minutePart.pair?_eq, secondPart.pair?_eq,
        Moment.expect?, if_true, Option.bind_eq_bind, Option.bind_some,
        fraction.skipFraction_eq noPoint noDigit]

private theorem Time.length_lt {input rest : List Char} (time : Time input rest) :
    rest.length < input.length := by
  cases time with
  | mk hourPart minutePart secondPart fraction =>
      have hour := hourPart.length_eq
      have minute := minutePart.length_eq
      have second := secondPart.length_eq
      have last := fraction.length_le
      simp only [List.length_cons] at hour minute
      omega

/-- Two digits are not read where there is none. -/
private theorem pair?_of_stops {low high : Nat} {input : List Char}
    (stops : Stops Char.isDigit input) : Moment.pair? low high input = none := by
  unfold Moment.pair?
  split
  · next first _ _ =>
      have notDigit : first.isDigit = false := stops first rfl
      rw [if_neg (by simp [notDigit])]
  · rfl

/-- A time of day has a colon after its two first digits, so it starts no date. -/
private theorem Time.date?_eq_none {input rest : List Char} (time : Time input rest) :
    Moment.date? input = none := by
  cases time with
  | @mk _ _ _ _ afterHour _ _ _ hourPart =>
      have noYear : Moment.pair? 0 99 (':' :: afterHour) = none :=
        pair?_of_stops (stops_cons (by decide) _)
      have century := (hourPart.mono (show 23 ≤ 99 by decide)).pair?_eq
      simp only [Moment.date?, century, Option.bind_eq_bind, Option.bind_some, noYear,
        Option.bind_none]

/-- An offset is skipped. -/
private theorem Offset.skipOffset_eq {input rest : List Char} (offset : Offset input rest)
    (ends : Ends rest) : Moment.skipOffset input = rest := by
  cases offset with
  | none =>
      cases input with
      | nil => rfl
      | cons c rest =>
          have noUniversal : Stops (fun c => c = 'Z' || c = 'z') (c :: rest) :=
            ends.stops (by decide)
          have noSign : Stops (fun c => c = '+' || c = '-') (c :: rest) := ends.stops (by decide)
          have universal : ¬(c = 'Z' ∨ c = 'z') := by simpa using noUniversal c rfl
          have sign : ¬(c = '+' ∨ c = '-') := by simpa using noSign c rfl
          rw [Moment.skipOffset, if_neg universal, if_neg sign]
  | universal letter => rw [Moment.skipOffset, if_pos letter]
  | @numeric c _ _ _ _ _ sign hourPart minutePart =>
      have notUniversal : ¬(c = 'Z' ∨ c = 'z') := by rcases sign with rfl | rfl <;> decide
      rw [Moment.skipOffset, if_neg notUniversal, if_pos sign]
      simp only [Moment.numericOffset?, hourPart.pair?_eq, minutePart.pair?_eq, Moment.expect?,
        if_true, Option.bind_eq_bind, Option.bind_some, Option.getD_some]

/-- An offset does not go on with a time of day. -/
private theorem Offset.stops {input rest : List Char} (offset : Offset input rest)
    (ends : Ends rest) {kind : Char → Bool}
    (others : ('Z' :: 'z' :: '+' :: '-' :: ' ' :: '\t' :: endings).any kind = false) :
    Stops kind input := by
  cases offset with
  | none =>
      refine ends.stops ?_
      simp only [List.any_cons, Bool.or_eq_false_iff] at others ⊢
      exact others.2.2.2.2
  | universal letter =>
      refine stops_cons (eq_false_of_any others ?_) _
      rcases letter with rfl | rfl <;> simp
  | numeric sign =>
      refine stops_cons (eq_false_of_any others ?_) _
      rcases sign with rfl | rfl <;> simp

private theorem Offset.length_le {input rest : List Char} (offset : Offset input rest) :
    rest.length ≤ input.length := by
  cases offset with
  | none => exact Nat.le_refl _
  | universal => exact Nat.le_succ _
  | numeric _ hourPart minutePart =>
      have hour := hourPart.length_eq
      have minute := minutePart.length_eq
      simp only [List.length_cons] at hour ⊢
      omega

/-- What ends a date has no time of day, not even after a space. -/
private theorem skipTime_of_ends {rest : List Char} (ends : Ends rest) :
    Moment.skipTime rest = rest := by
  cases rest with
  | nil => rfl
  | cons c rest =>
      by_cases separator : c = 'T' ∨ c = 't' ∨ c = ' '
      · have noLetter : Stops (fun c => c = 'T' || c = 't') (c :: rest) := ends.stops (by decide)
        have notLetter : ¬(c = 'T' ∨ c = 't') := by simpa using noLetter c rfl
        obtain rfl : c = ' ' := by
          rcases separator with upper | lower | space
          · exact absurd (.inl upper) notLetter
          · exact absurd (.inr lower) notLetter
          · exact space
        have later : Ends rest := by
          rwa [Ends, skipBlanks, List.dropWhile_cons_of_pos (by decide)] at ends
        have noTime : Moment.time? rest = none := by
          simp only [Moment.time?, pair?_of_stops (later.stops (by decide)), Option.bind_eq_bind,
            Option.bind_none]
        rw [Moment.skipTime, if_pos separator, noTime]
      · rw [Moment.skipTime, if_neg separator]

/-- A moment is read. -/
theorem Moment.skip?_eq {input rest : List Char} (moment : Moment input rest)
    (ends : Ends rest) : Toml.Moment.skip? input = some rest := by
  cases moment with
  | date date => simp only [Toml.Moment.skip?, date.date?_eq, skipTime_of_ends ends]
  | both date separator time offset =>
      have timeRead := time.time?_eq (offset.stops ends (by decide)) (offset.stops ends (by decide))
      simp only [Toml.Moment.skip?, date.date?_eq, Toml.Moment.skipTime, if_pos separator, timeRead,
        offset.skipOffset_eq ends]
  | time time =>
      have timeRead := time.time?_eq (ends.stops (by decide)) (ends.stops (by decide))
      simp only [Toml.Moment.skip?, time.date?_eq_none, timeRead]

theorem Moment.length_lt {input rest : List Char} (moment : Moment input rest) :
    rest.length < input.length := by
  cases moment with
  | date date => exact date.length_lt
  | both date _ time offset =>
      have first := date.length_lt
      have second := time.length_lt
      have last := offset.length_le
      rw [List.length_cons] at first
      omega
  | time time => exact time.length_lt

/-! ## What is no moment -/

private theorem of_pair? {low high value : Nat} {input rest : List Char}
    (read : Moment.pair? low high input = some (value, rest)) :
    ∃ tens ones, input = tens :: ones :: rest ∧ tens.isDigit = true ∧ ones.isDigit = true := by
  unfold Moment.pair? at read
  split at read
  · next tens ones after =>
      split at read
      · next isDigit =>
          simp only [Option.ite_none_right_eq_some, Option.some.injEq, Prod.mk.injEq] at read
          obtain ⟨_, _, rfl⟩ := read
          exact ⟨tens, ones, rfl, isDigit⟩
      · cases read
  · cases read

private theorem of_expect? {c : Char} {input rest : List Char}
    (read : Moment.expect? c input = some rest) : input = c :: rest := by
  unfold Moment.expect? at read
  split at read
  · next first after =>
      split at read
      · next same =>
          cases read
          rw [same]
      · cases read
  · cases read

/-- A moment starts with digits, and a colon or a hyphen follows them. -/
theorem skip?_digits {input rest : List Char} (read : Moment.skip? input = some rest) :
    ¬Stops Char.isDigit input ∧
      ¬Stops (fun c => c = ':' || c = '-') (input.dropWhile Char.isDigit) := by
  unfold Moment.skip? at read
  split at read
  · next after date =>
      simp only [Moment.date?, Option.bind_eq_bind, Option.bind_eq_some_iff, Prod.exists] at date
      obtain ⟨_, _, century, _, _, year, _, hyphen, _⟩ := date
      obtain ⟨a, b, rfl, isDigitA, isDigitB⟩ := of_pair? century
      obtain ⟨c, d, rfl, isDigitC, isDigitD⟩ := of_pair? year
      rw [of_expect? hyphen]
      have notDigit : ¬('-'.isDigit = true) := by decide
      simp [Stops, List.dropWhile, isDigitA, isDigitB, isDigitC, isDigitD, notDigit]
  · simp only [Moment.time?, Option.bind_eq_bind, Option.bind_eq_some_iff, Prod.exists] at read
    obtain ⟨_, _, hour, _, colon, _⟩ := read
    obtain ⟨a, b, rfl, isDigitA, isDigitB⟩ := of_pair? hour
    rw [of_expect? colon]
    have notDigit : ¬(':'.isDigit = true) := by decide
    simp [Stops, List.dropWhile, isDigitA, isDigitB, notDigit]

end Turnstile.Toml.Grammar
