import Turnstile.Address

/-!
# Reading socket addresses

`a.b.c.d:n`, or an IPv6 address in brackets with an optional numeric scope. An
octet has no leading zero; the number after the last colon may have any. In an
IPv6 address `::` stands once for one or more zero groups, and an IPv4 address
may stand for the last two groups.
-/

namespace Turnstile.SocketAddress

/-- A number of a radix below a bound. -/
def number? (radix bound : Nat) (input : List Char) : Option (Nat × List Char) :=
  match Text.digits radix input with
  | ([], _) => none
  | (found, rest) =>
      let value := Text.valueOf radix found
      if value < bound then some (value, rest) else none

/-- A number of at most so many digits. -/
def shortNumber? (radix most bound : Nat) (input : List Char) : Option (Nat × List Char) :=
  if most < (Text.digits radix input).1.length then none else number? radix bound input

/-- An octet: at most three digits, and no zero before another one. -/
def octet? (input : List Char) : Option (UInt8 × List Char) :=
  match Text.digits 10 input with
  | ('0' :: _ :: _, _) => none
  | _ => (shortNumber? 10 3 256 input).map fun (value, rest) => (UInt8.ofNat value, rest)

/-- What follows a fixed character. -/
def expect? (c : Char) : List Char → Option (List Char)
  | first :: rest => if first = c then some rest else none
  | [] => none

/-- Four octets. -/
def ipv4? (input : List Char) : Option (Ipv4 × List Char) := do
  let (a, input) ← octet? input
  let (b, input) ← octet? (← expect? '.' input)
  let (c, input) ← octet? (← expect? '.' input)
  let (d, input) ← octet? (← expect? '.' input)
  some (⟨a, b, c, d⟩, input)

/-- A group: at most four hexadecimal digits. -/
def group? (input : List Char) : Option (UInt16 × List Char) :=
  (shortNumber? 16 4 65536 input).map fun (value, rest) => (UInt16.ofNat value, rest)

/-- The two groups of an IPv4 address. -/
def ipv4Groups (address : Ipv4) : List UInt16 :=
  [UInt16.ofNat (address.a.toNat * 256 + address.b.toNat),
    UInt16.ofNat (address.c.toNat * 256 + address.d.toNat)]

/-- Groups as far as they go and at most so many, each but the first after a
colon. An IPv4 address is taken where two groups have room, and ends them. -/
def groups (first : Bool) : Nat → List Char → List UInt16 × Bool × List Char
  | 0, input => ([], false, input)
  | room + 1, input =>
      match if first then some input else expect? ':' input with
      | none => ([], false, input)
      | some start =>
          match if room = 0 then none else ipv4? start with
          | some (address, rest) => (ipv4Groups address, true, rest)
          | none =>
              match group? start with
              | none => ([], false, input)
              | some (group, rest) =>
                  let (more, embedded, rest) := groups false room rest
                  (group :: more, embedded, rest)

/-- Eight groups from those before and after the gap of zeros. -/
def fill (head tail : List UInt16) : Ipv6 :=
  let zeros := List.replicate (8 - (head.length + tail.length)) 0
  ⟨Vector.ofFn fun index => (head ++ zeros ++ tail).getD index.val 0⟩

/-- An IPv6 address. -/
def ipv6? (input : List Char) : Option (Ipv6 × List Char) :=
  let (head, embedded, rest) := groups true 8 input
  if head.length = 8 then some (fill head [], rest)
  else if embedded then none
  else
    match rest with
    | ':' :: ':' :: rest =>
        let (tail, _, rest) := groups true (8 - (head.length + 1)) rest
        some (fill head tail, rest)
    | _ => none

/-- A scope after a percent sign, zero if there is none. -/
def scope (input : List Char) : UInt32 × List Char :=
  match expect? '%' input >>= number? 10 4294967296 with
  | some (value, rest) => (UInt32.ofNat value, rest)
  | none => (0, input)

/-- The number after a colon. -/
def portNumber? (input : List Char) : Option (UInt16 × List Char) := do
  let (value, rest) ← number? 10 65536 (← expect? ':' input)
  some (UInt16.ofNat value, rest)

/-- An IPv4 socket address. -/
def readV4? (input : List Char) : Option (SocketAddress × List Char) := do
  let (address, input) ← ipv4? input
  let (service, input) ← portNumber? input
  some (.v4 address service, input)

/-- An IPv6 socket address. -/
def readV6? (input : List Char) : Option (SocketAddress × List Char) := do
  let (address, input) ← ipv6? (← expect? '[' input)
  let (scope, input) := scope input
  let (service, input) ← portNumber? (← expect? ']' input)
  some (.v6 address service 0 scope, input)

/-- The socket address that a text is, whole. -/
def ofString? (text : String) : Option SocketAddress :=
  match (readV4? text.toList).or (readV6? text.toList) with
  | some (address, []) => some address
  | _ => none

end Turnstile.SocketAddress
