import Turnstile.Text.Digit

/-!
# Network addresses

IP addresses of both versions and their one written form each: four decimal
octets, or the groups of RFC 5952 in which the longest run of zeros, if it is
longer than one group, is left out. An IPv6 address that carries an IPv4 one
ends in its octets.
-/

namespace Turnstile

/-- An IPv4 address by its octets. -/
structure Ipv4 where
  a : UInt8
  b : UInt8
  c : UInt8
  d : UInt8
  deriving DecidableEq, Repr

/-- An IPv6 address by its eight groups. -/
structure Ipv6 where
  groups : Vector UInt16 8
  deriving DecidableEq, Repr

/-- An IP address. -/
inductive IpAddress where
  | v4 (address : Ipv4)
  | v6 (address : Ipv6)
  deriving DecidableEq, Repr

/-- An IP address with the number of a service on its host; the scope and the
flow label of an IPv6 socket do not belong to the address. -/
inductive SocketAddress where
  | v4 (address : Ipv4) (portNumber : UInt16)
  | v6 (address : Ipv6) (portNumber : UInt16) (flowLabel scope : UInt32)
  deriving DecidableEq, Repr

/-- The address of a socket's host. -/
def SocketAddress.ip : SocketAddress → IpAddress
  | v4 address _ => .v4 address
  | v6 address .. => .v6 address

namespace Ipv4

/-- The characters of an octet. -/
def octetChars (octet : UInt8) : List Char := Nat.toDigits 10 octet.toNat

/-- The characters of an address. -/
def chars (address : Ipv4) : List Char :=
  octetChars address.a ++ '.' :: octetChars address.b ++ '.' :: octetChars address.c ++
    '.' :: octetChars address.d

end Ipv4

namespace Ipv6

/-- The IPv4 address in the last two groups of a mapped address, one of five
zero groups and one of ones before them. -/
def mapped? (address : Ipv6) : Option Ipv4 :=
  match address.groups.toList with
  | [0, 0, 0, 0, 0, 0xffff, high, low] =>
      some ⟨(high >>> 8).toUInt8, high.toUInt8, (low >>> 8).toUInt8, low.toUInt8⟩
  | _ => none

/-- A run of groups: where it starts and how long it is. -/
structure ZeroRun where
  start : Nat
  length : Nat
  deriving DecidableEq, Repr

/-- The first of the longest runs of zero groups, given the run that ends before
these groups and the best one so far. -/
def longestRun (position : Nat) (current best : ZeroRun) : List UInt16 → ZeroRun
  | [] => best
  | group :: rest =>
      if group = 0 then
        let current : ZeroRun :=
          if current.length = 0 then ⟨position, 1⟩ else ⟨current.start, current.length + 1⟩
        longestRun (position + 1) current
          (if best.length < current.length then current else best) rest
      else longestRun (position + 1) ⟨0, 0⟩ best rest

/-- The characters of a group. -/
def groupChars (group : UInt16) : List Char := Nat.toDigits 16 group.toNat

/-- Groups with a colon between each two. -/
def joinGroups : List UInt16 → List Char
  | [] => []
  | [group] => groupChars group
  | group :: rest => groupChars group ++ ':' :: joinGroups rest

/-- The characters of an address. -/
def chars (address : Ipv6) : List Char :=
  match address.mapped? with
  | some inner => "::ffff:".toList ++ inner.chars
  | none =>
      let groups := address.groups.toList
      let run := longestRun 0 ⟨0, 0⟩ ⟨0, 0⟩ groups
      if 1 < run.length then
        joinGroups (groups.take run.start) ++ "::".toList ++
          joinGroups (groups.drop (run.start + run.length))
      else joinGroups groups

end Ipv6

/-- The written form of an address. -/
def IpAddress.render : IpAddress → String
  | v4 address => String.ofList address.chars
  | v6 address => String.ofList address.chars

/-- The written form of a socket's host: an IPv6 address in brackets, with its
scope if it has one. -/
def SocketAddress.host : SocketAddress → String
  | v4 address _ => String.ofList address.chars
  | v6 address _ _ scope =>
      let zone := if scope = 0 then [] else '%' :: Nat.toDigits 10 scope.toNat
      String.ofList ('[' :: address.chars ++ zone ++ [']'])

end Turnstile
