/-!
# Base64 with the URL-safe alphabet

Three bytes are written as four characters of 64, an incomplete last group with
`=` up to a multiple of four. Decoding accepts the padded text of some bytes and
nothing else: the bits that a short last group leaves over are zero.
-/

namespace Turnstile.Base64url

/-- The character of a 6-bit number. -/
def digit (n : Nat) : Char :=
  if n < 26 then Char.ofNat (65 + n)
  else if n < 52 then Char.ofNat (71 + n)
  else if n < 62 then Char.ofNat (n - 4)
  else if n = 62 then '-'
  else '_'

/-- The 6-bit number of a character. -/
def value? (c : Char) : Option Nat :=
  if 'A' ≤ c ∧ c ≤ 'Z' then some (c.toNat - 65)
  else if 'a' ≤ c ∧ c ≤ 'z' then some (c.toNat - 71)
  else if '0' ≤ c ∧ c ≤ '9' then some (c.toNat + 4)
  else if c = '-' then some 62
  else if c = '_' then some 63
  else none

/-- The text of bytes without padding. -/
def encode : List UInt8 → List Char
  | [] => []
  | [a] =>
      let n := a.toNat * 16
      [digit (n / 64), digit (n % 64)]
  | [a, b] =>
      let n := (a.toNat * 256 + b.toNat) * 4
      [digit (n / 4096), digit (n / 64 % 64), digit (n % 64)]
  | a :: b :: c :: rest =>
      let n := (a.toNat * 256 + b.toNat) * 256 + c.toNat
      digit (n / 262144) :: digit (n / 4096 % 64) :: digit (n / 64 % 64) :: digit (n % 64) ::
        encode rest

/-- The count of `=` that fills a text of this many bytes to a multiple of four. -/
def missing (size : Nat) : Nat :=
  (4 - size % 4) % 4

/-- Text with `=` up to the next multiple of four bytes. -/
def pad (text : String) : String :=
  text ++ String.ofList (List.replicate (missing text.utf8ByteSize) '=')

/-- The byte of a last group of two characters. -/
def lastByte? (a b : Char) : Option (List UInt8) := do
  let n := (← value? a) * 64 + (← value? b)
  if n % 16 = 0 then some [UInt8.ofNat (n / 16)] else none

/-- The two bytes of a last group of three characters. -/
def lastPair? (a b c : Char) : Option (List UInt8) := do
  let n := ((← value? a) * 64 + (← value? b)) * 64 + (← value? c)
  if n % 4 = 0 then some [UInt8.ofNat (n / 1024), UInt8.ofNat (n / 4)] else none

/-- The three bytes of a whole group. -/
def group? (a b c d : Char) : Option (List UInt8) := do
  let n := (((← value? a) * 64 + (← value? b)) * 64 + (← value? c)) * 64 + (← value? d)
  some [UInt8.ofNat (n / 65536), UInt8.ofNat (n / 256), UInt8.ofNat n]

/-- The bytes of a padded text. -/
def decode? : List Char → Option (List UInt8)
  | [] => some []
  | [a, b, '=', '='] => lastByte? a b
  | [a, b, c, '='] => lastPair? a b c
  | a :: b :: c :: d :: rest => do
      let bytes ← group? a b c d
      let further ← decode? rest
      some (bytes ++ further)
  | _ => none

end Turnstile.Base64url
