import Mathlib.Data.List.TakeWhile
import Turnstile.Text.Digit

/-!
# Numbers in digits

A number written in a radix up to sixteen is read back: its digits are digits of the radix
(`isDigitOf_of_mem_toDigits`), they are read up to a character that does not continue them
(`digits_toDigits`), and they spell the number (`valueOf_toDigits`).
-/

namespace Turnstile.Text

/-- The digit of a number below sixteen has that value. -/
theorem hexValue?_digitChar {n : Nat} (small : n < 16) : hexValue? n.digitChar = some n := by
  have each : ∀ n < 16, hexValue? (Nat.digitChar n) = some n := by decide
  exact each n small

/-- The digits of ten are those of core. -/
theorem isDigitOf_ten (c : Char) : isDigitOf 10 c = c.isDigit := by
  have above : ∀ d : Char, d ≤ c ↔ d.toNat ≤ c.toNat := fun _ => Iff.rfl
  have below : ∀ d : Char, c ≤ d ↔ c.toNat ≤ d.toNat := fun _ => Iff.rfl
  have isDigit : c.isDigit = (decide ('0' ≤ c) && decide (c ≤ '9')) := rfl
  rw [isDigit]
  simp only [isDigitOf, hexValue?, above, below, Char.reduceToNat]
  by_cases digit : 48 ≤ c.toNat ∧ c.toNat ≤ 57
  · rw [if_pos digit]
    simp only [digit.1, digit.2, decide_true, Bool.and_self, decide_eq_true_eq]
    omega
  · have notDigit : (decide (48 ≤ c.toNat) && decide (c.toNat ≤ 57)) = false := by
      simpa using digit
    rw [if_neg digit, notDigit]
    split
    · next value found =>
        split at found
        · cases found
          rw [decide_eq_false_iff_not]
          omega
        · split at found
          · cases found
            rw [decide_eq_false_iff_not]
            omega
          · cases found
    · rfl

/-- Digits are read up to a character that does not continue them. -/
theorem digits_append {radix : Nat} {found rest : List Char}
    (each : ∀ c ∈ found, isDigitOf radix c = true)
    (stops : ∀ c ∈ rest.head?, isDigitOf radix c = false) :
    digits radix (found ++ rest) = (found, rest) := by
  unfold digits
  rw [List.takeWhile_append_of_pos each, List.dropWhile_append_of_pos each]
  cases rest with
  | nil => simp
  | cons c rest =>
      have other : ¬isDigitOf radix c = true := Bool.eq_false_iff.mp (stops c rfl)
      rw [List.takeWhile_cons_of_neg other, List.dropWhile_cons_of_neg other, List.append_nil]

variable {radix : Nat} (low : 1 < radix) (high : radix ≤ 16)
include high

private theorem isDigitOf_digitChar {n : Nat} (small : n < radix) :
    isDigitOf radix n.digitChar = true := by
  rw [isDigitOf, hexValue?_digitChar (Nat.lt_of_lt_of_le small high)]
  exact decide_eq_true small

include low

/-- A number is written in digits of its radix. -/
theorem isDigitOf_of_mem_toDigits {n : Nat} {c : Char} (member : c ∈ Nat.toDigits radix n) :
    isDigitOf radix c = true := by
  induction n using Nat.strongRecOn with
  | ind n inductionHypothesis =>
      by_cases small : n < radix
      · rw [Nat.toDigits_of_lt_base small, List.mem_singleton] at member
        rw [member]
        exact isDigitOf_digitChar high small
      · rw [Nat.toDigits_of_base_le low (by omega), List.mem_append, List.mem_singleton] at member
        rcases member with earlier | last
        · exact inductionHypothesis (n / radix) (Nat.div_lt_self (by omega) low) earlier
        · rw [last]
          exact isDigitOf_digitChar high (Nat.mod_lt n (by omega))

/-- The digits of a number spell it. -/
theorem valueOf_toDigits (n : Nat) : valueOf radix (Nat.toDigits radix n) = n := by
  induction n using Nat.strongRecOn with
  | ind n inductionHypothesis =>
      by_cases small : n < radix
      · rw [Nat.toDigits_of_lt_base small, valueOf, List.foldl_cons, List.foldl_nil,
          hexValue?_digitChar (Nat.lt_of_lt_of_le small high)]
        simp
      · have earlier := inductionHypothesis (n / radix) (Nat.div_lt_self (by omega) low)
        have last := hexValue?_digitChar
          (Nat.lt_of_lt_of_le (Nat.mod_lt n (show 0 < radix by omega)) high)
        rw [valueOf] at earlier
        rw [Nat.toDigits_of_base_le low (by omega), valueOf, List.foldl_append, earlier,
          List.foldl_cons, List.foldl_nil, last]
        exact Nat.div_add_mod' n radix

/-- The digits of a number are read up to a character that does not continue them. -/
theorem digits_toDigits (n : Nat) {rest : List Char}
    (stops : ∀ c ∈ rest.head?, isDigitOf radix c = false) :
    digits radix (Nat.toDigits radix n ++ rest) = (Nat.toDigits radix n, rest) :=
  digits_append (fun _ => isDigitOf_of_mem_toDigits low high) stops

/-- Only zero is written with a zero in front. -/
theorem toDigits_eq_zero_cons {n : Nat} {rest : List Char}
    (spelled : Nat.toDigits radix n = '0' :: rest) : rest = [] := by
  induction n using Nat.strongRecOn generalizing rest with
  | ind n inductionHypothesis =>
      by_cases small : n < radix
      · rw [Nat.toDigits_of_lt_base small] at spelled
        exact (List.cons.inj spelled).2.symm
      · rw [Nat.toDigits_of_base_le low (by omega)] at spelled
        cases front : Nat.toDigits radix (n / radix) with
        | nil => exact absurd front Nat.toDigits_ne_nil
        | cons c tail =>
            rw [front, List.cons_append] at spelled
            obtain ⟨rfl, _⟩ := List.cons.inj spelled
            rw [inductionHypothesis _ (Nat.div_lt_self (by omega) low) front] at front
            have zero := valueOf_toDigits low high (n / radix)
            rw [front] at zero
            have positive := Nat.div_pos (show radix ≤ n by omega) (by omega)
            have none : valueOf radix ['0'] = 0 := by simp [valueOf, hexValue?]
            omega

end Turnstile.Text
