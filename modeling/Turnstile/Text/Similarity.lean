import Turnstile.Binary64

/-!
# Likeness of words

How alike two words are, from zero to one. A character of the first word matches
the first character of the second that is equal, not matched yet and not further
away than half the longer word. Alike are words of which many characters match,
and match in the same order.
-/

namespace Turnstile.Text

/-- The word with a first match for a character marked, if there is one between
two positions; `position` is that of the first character. -/
def mark? (c : Char) (low high position : Nat) :
    List (Char × Bool) → Option (List (Char × Bool))
  | [] => none
  | (d, marked) :: rest =>
      if low ≤ position ∧ position < high ∧ c = d ∧ marked = false then some ((d, true) :: rest)
      else (mark? c low high (position + 1) rest).map ((d, marked) :: ·)

/-- The characters of a word that match another word, in the order of the word,
and the other word with their matches marked. -/
def markAll (reach position : Nat) (other : List (Char × Bool)) :
    List Char → List Char × List (Char × Bool)
  | [] => ([], other)
  | c :: rest =>
      match mark? c (position - reach) (position + reach + 1) 0 other with
      | some marked =>
          let (matched, last) := markAll reach (position + 1) marked rest
          (c :: matched, last)
      | none => markAll reach (position + 1) other rest

/-- The characters of two words that match, in the order of either. -/
def common (left right : List Char) : List Char × List Char :=
  let longer := if left.length < right.length then right.length else left.length
  let (matched, marked) := markAll (longer / 2 - 1) 0 (right.map (·, false)) left
  (matched, (marked.filter Prod.snd).map Prod.fst)

/-- The number of pairs that are out of order between two lists of the same characters. -/
def transpositions (left right : List Char) : Nat :=
  ((left.zip right).filter fun (a, b) => a != b).length / 2

/-- The likeness of two words: the mean of the shares of either word that match
and of the share of the matches that is in order. -/
def similarity (left right : String) : Binary64 :=
  let (ofLeft, ofRight) := common left.toList right.toList
  let matched := ofLeft.length
  let share (part whole : Nat) : Binary64 := .ofNat part / .ofNat whole
  if left.isEmpty ∧ right.isEmpty then .ofNat 1
  else if matched = 0 then .ofNat 0
  else
    (share matched left.length + share matched right.length +
      share (matched - transpositions ofLeft ofRight) matched) / .ofNat 3

end Turnstile.Text
