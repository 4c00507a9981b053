import Turnstile.Proofs.Address.Grammar

/-!
# Written addresses are read back

The written form of an address is spelled as the grammar has it (`octets_chars`,
`groups_chars`), and so it is read as this address; no two addresses are written alike
(`render_injective`). Of an IPv6 address the reader gets back what stands on both sides of the
gap; what the gap left out is a run of zeros (`IsZeroRun.longestRun`), and zeros are what the
reader fills in.
-/

namespace Turnstile

namespace SocketAddress

open Grammar

/-! ## Numbers and groups -/

/-- A number is spelled by its digits. -/
theorem numeral_toDigits {radix : Nat} (low : 1 < radix) (high : radix ≤ 16) (value : Nat)
    (rest : List Char) :
    Numeral radix (Nat.toDigits radix value ++ rest) (Nat.toDigits radix value) value rest where
  split := rfl
  nonempty := Nat.toDigits_ne_nil
  each _ := Text.isDigitOf_of_mem_toDigits low high
  value := Text.valueOf_toDigits low high value

theorem octet_octetChars (octet : UInt8) (rest : List Char) :
    Octet (Ipv4.octetChars octet ++ rest) octet rest := by
  have small : octet.toNat < 256 := octet.toNat_lt
  have short : (Nat.toDigits 10 octet.toNat).length ≤ 3 :=
    (Nat.length_toDigits_le_iff (by decide) (by decide)).mpr (by omega)
  exact .digits (numeral_toDigits (by decide) (by decide) _ rest) short
    fun _ leading => Text.toDigits_eq_zero_cons (by decide) (by decide) leading

/-- A written IPv4 address is spelled as one. -/
theorem octets_chars (address : Ipv4) (rest : List Char) :
    Octets (address.chars ++ rest) address rest := by
  simp only [Ipv4.chars, List.append_assoc, List.cons_append]
  exact .dotted (octet_octetChars _ _) (octet_octetChars _ _) (octet_octetChars _ _)
    (octet_octetChars _ _)

theorem group_groupChars (group : UInt16) (rest : List Char) :
    Group (Ipv6.groupChars group ++ rest) group rest := by
  have small : group.toNat < 65536 := group.toNat_lt
  have short : (Nat.toDigits 16 group.toNat).length ≤ 4 :=
    (Nat.length_toDigits_le_iff (by decide) (by decide)).mpr (by omega)
  exact .digits (numeral_toDigits (by decide) (by decide) _ rest) short

theorem joinGroups_cons (group : UInt16) (others : List UInt16) :
    Ipv6.joinGroups (group :: others) =
      Ipv6.groupChars group ++ others.flatMap fun other => ':' :: Ipv6.groupChars other := by
  induction others generalizing group with
  | nil => rw [Ipv6.joinGroups, List.flatMap_nil, List.append_nil]
  | cons next others inductionHypothesis =>
      rw [Ipv6.joinGroups, inductionHypothesis, List.flatMap_cons, List.cons_append]
      nofun

/-- Groups with a colon before each are a row from a later one on. -/
private theorem row_flatMap (others : List UInt16) (rest : List Char) :
    Row false ((others.flatMap fun other => ':' :: Ipv6.groupChars other) ++ rest) others false
      rest := by
  induction others with
  | nil => exact .none
  | cons group others inductionHypothesis =>
      rw [List.flatMap_cons, List.append_assoc]
      exact .group .colon (group_groupChars group _) inductionHypothesis

/-- Joined groups are a row. -/
theorem row_joinGroups (written : List UInt16) (rest : List Char) :
    Row true (Ipv6.joinGroups written ++ rest) written false rest := by
  cases written with
  | nil => exact .none
  | cons group others =>
      rw [joinGroups_cons, List.append_assoc]
      exact .group .first (group_groupChars group _) (row_flatMap others rest)

end SocketAddress

/-! ## The gap -/

namespace Ipv6

/-- The groups of a run are all zero. -/
def IsZeroRun (groups : List UInt16) (run : ZeroRun) : Prop :=
  ∃ front behind, groups = front ++ List.replicate run.length 0 ++ behind ∧
    front.length = run.start

/-- The groups end in the zeros of a run, if it is one. -/
private def EndsInZeros (groups : List UInt16) (run : ZeroRun) : Prop :=
  run.length = 0 ∨
    ∃ front, groups = front ++ List.replicate run.length 0 ∧ front.length = run.start

private theorem EndsInZeros.isZeroRun {groups : List UInt16} {run : ZeroRun}
    (ends : EndsInZeros groups run) (nonempty : 0 < run.length) : IsZeroRun groups run := by
  rcases ends with empty | ⟨front, same, length⟩
  · omega
  · exact ⟨front, [], by rw [same, List.append_nil], length⟩

/-- The run that one more zero at a position makes of the run before it. -/
private def ZeroRun.extend (position : Nat) (run : ZeroRun) : ZeroRun :=
  if run.length = 0 then ⟨position, 1⟩ else ⟨run.start, run.length + 1⟩

private theorem longestRun_zero (position : Nat) (current best : ZeroRun) (rest : List UInt16) :
    longestRun position current best (0 :: rest) =
      longestRun (position + 1) (current.extend position)
        (if best.length < (current.extend position).length then current.extend position else best)
        rest := rfl

private theorem longestRun_of_ne {group : UInt16} (nonzero : group ≠ 0) (position : Nat)
    (current best : ZeroRun) (rest : List UInt16) :
    longestRun position current best (group :: rest) =
      longestRun (position + 1) ⟨0, 0⟩ best rest := by
  rw [longestRun, if_neg nonzero]

private theorem EndsInZeros.extend {groups : List UInt16} {run : ZeroRun}
    (ends : EndsInZeros groups run) :
    EndsInZeros (groups ++ [0]) (run.extend groups.length) := by
  unfold ZeroRun.extend
  split
  · exact .inr ⟨groups, rfl, rfl⟩
  · next nonempty =>
      rcases ends with empty | ⟨front, same, length⟩
      · exact absurd empty nonempty
      · refine .inr ⟨front, ?_, length⟩
        rw [same, List.append_assoc, List.replicate_succ']

private theorem IsZeroRun.snoc {groups : List UInt16} {run : ZeroRun}
    (zeros : IsZeroRun groups run) (group : UInt16) : IsZeroRun (groups ++ [group]) run := by
  obtain ⟨front, behind, same, length⟩ := zeros
  exact ⟨front, behind ++ [group], by rw [same, List.append_assoc], length⟩

/-- Going on from groups that end in the current run, the best run stays one of zeros. -/
private theorem IsZeroRun.longestRun_append {seen : List UInt16} {current best : ZeroRun}
    (zeros : IsZeroRun seen best) (ends : EndsInZeros seen current) (rest : List UInt16) :
    IsZeroRun (seen ++ rest) (longestRun seen.length current best rest) := by
  induction rest generalizing seen current best with
  | nil => rwa [longestRun, List.append_nil]
  | cons group rest inductionHypothesis =>
      have length : seen.length + 1 = (seen ++ [group]).length := by simp
      have joined : seen ++ group :: rest = (seen ++ [group]) ++ rest := by simp
      by_cases zero : group = 0
      · subst zero
        rw [joined, longestRun_zero, length]
        have endsNow := ends.extend
        refine inductionHypothesis ?_ endsNow
        split
        · exact endsNow.isZeroRun (by omega)
        · exact zeros.snoc 0
      · rw [joined, longestRun_of_ne zero, length]
        exact inductionHypothesis (zeros.snoc group) (.inl rfl)

/-- The longest run is one of zeros. -/
theorem IsZeroRun.longestRun (groups : List UInt16) :
    IsZeroRun groups (longestRun 0 ⟨0, 0⟩ ⟨0, 0⟩ groups) := by
  have nothing : IsZeroRun [] ⟨0, 0⟩ := ⟨[], [], rfl, rfl⟩
  exact nothing.longestRun_append (.inl rfl) groups

/-- What stands around a run of zeros, and as many zeros between, is all there is. -/
theorem IsZeroRun.around {groups : List UInt16} {run : ZeroRun} (zeros : IsZeroRun groups run) :
    groups.take run.start ++ List.replicate run.length 0 ++
        groups.drop (run.start + run.length) = groups := by
  obtain ⟨front, behind, rfl, length⟩ := zeros
  have taken : (front ++ List.replicate run.length 0 ++ behind).take run.start = front := by
    rw [← length, List.append_assoc, List.take_left]
  have dropped : (front ++ List.replicate run.length 0 ++ behind).drop
      (run.start + run.length) = behind := by
    rw [List.drop_left' (by rw [List.length_append, List.length_replicate, length])]
  rw [taken, dropped]

end Ipv6

namespace SocketAddress

open Grammar

/-! ## IPv6 addresses -/

/-- The groups of a mapped address are five zeros, one of ones and those of its octets. -/
theorem groups_of_mapped? {address : Ipv6} {inner : Ipv4} (mapped : address.mapped? = some inner) :
    address.groups.toList = [0, 0, 0, 0, 0, 0xffff] ++ ipv4Groups inner := by
  have halves : ∀ group : UInt16,
      UInt16.ofNat ((group >>> 8).toUInt8.toNat * 256 + group.toUInt8.toNat) = group := by
    intro group
    have small := group.toNat_lt
    have sum : (group >>> 8).toUInt8.toNat * 256 + group.toUInt8.toNat = group.toNat := by
      simp [Nat.shiftRight_eq_div_pow]
      omega
    rw [sum, UInt16.ofNat_toNat]
  unfold Ipv6.mapped? at mapped
  split at mapped
  · next high low same =>
      cases mapped
      rw [same, ipv4Groups, halves, halves]
      rfl
  · cases mapped

/-- A mapped address is spelled with a gap, a group of ones and four octets. -/
private theorem groups_mapped {address : Ipv6} {inner : Ipv4}
    (mapped : address.mapped? = some inner) (rest : List Char) :
    Groups ("::ffff:".toList ++ inner.chars ++ rest) address rest := by
  have ones : Ipv6.groupChars 0xffff = ['f', 'f', 'f', 'f'] := by decide
  have tail : Row true ("ffff:".toList ++ inner.chars ++ rest) (0xffff :: ipv4Groups inner) true
      rest := by
    have group := group_groupChars 0xffff (':' :: (inner.chars ++ rest))
    rw [ones] at group
    exact .group .first group (.octets .colon (octets_chars inner rest))
  have filled : address.groups.toList =
      [] ++ List.replicate (4 + 1) 0 ++ (0xffff :: ipv4Groups inner) := groups_of_mapped? mapped
  exact .gap .none tail filled

/-- An address with a gap is spelled by its groups on both sides. -/
private theorem groups_gap {address : Ipv6} {run : Ipv6.ZeroRun}
    (zeros : Ipv6.IsZeroRun address.groups.toList run) (long : 1 < run.length)
    (rest : List Char) :
    Groups (Ipv6.joinGroups (address.groups.toList.take run.start) ++ "::".toList ++
      Ipv6.joinGroups (address.groups.toList.drop (run.start + run.length)) ++ rest) address
        rest := by
  obtain ⟨start, length⟩ := run
  obtain ⟨more, rfl⟩ : ∃ more, length = more + 1 := ⟨length - 1, by dsimp at long; omega⟩
  rw [List.append_assoc, List.append_assoc]
  exact .gap (row_joinGroups _ _) (row_joinGroups _ rest) zeros.around.symm

/-- A written IPv6 address is spelled as one. -/
theorem groups_chars (address : Ipv6) (rest : List Char) :
    Groups (address.chars ++ rest) address rest := by
  unfold Ipv6.chars
  split
  · next mapped => exact groups_mapped mapped rest
  · dsimp only
    split
    · next long => exact groups_gap (.longestRun _) long rest
    · exact .whole (row_joinGroups _ rest)

end SocketAddress

/-! ## Different addresses are written differently -/

/-- Octets are written with dots between them and no colon. -/
theorem Ipv4.colon_notMem_chars (address : Ipv4) : ':' ∉ address.chars := by
  have octet : ∀ octet : UInt8, ':' ∉ octetChars octet := by
    intro octet member
    have digit := Text.isDigitOf_of_mem_toDigits (by decide) (by decide) member
    exact absurd digit (by decide)
  simp [chars, octet]

theorem Ipv4.dot_mem_chars (address : Ipv4) : '.' ∈ address.chars := by
  simp [chars]

/-- However it is written, an IPv6 address has a colon in it. -/
theorem Ipv6.colon_mem_chars (address : Ipv6) : ':' ∈ address.chars := by
  unfold chars
  split
  · simp
  · dsimp only
    split
    · simp
    · -- All eight groups are written, with a colon behind the first.
      have size : address.groups.toList.length = 8 := by simp
      generalize address.groups.toList = groups at size
      rcases groups with _ | ⟨first, _ | ⟨second, rest⟩⟩
      · cases size
      · cases size
      · simp [joinGroups]

namespace IpAddress

theorem toList_render (address : IpAddress) :
    address.render.toList = match address with
      | v4 address => address.chars
      | v6 address => address.chars := by
  cases address <;> exact String.toList_ofList

/-- No two addresses are written alike. -/
theorem render_injective : Function.Injective render := by
  have read4 : ∀ address : Ipv4, SocketAddress.ipv4? address.chars = some (address, []) := by
    intro address
    have spelled := SocketAddress.octets_chars address []
    rw [List.append_nil] at spelled
    exact spelled.ipv4? nofun
  have read6 : ∀ address : Ipv6, SocketAddress.ipv6? address.chars = some (address, []) := by
    intro address
    have spelled := SocketAddress.groups_chars address []
    rw [List.append_nil] at spelled
    exact spelled.ipv6? nofun
  intro address other same
  have chars := congrArg String.toList same
  rw [toList_render, toList_render] at chars
  cases address with
  | v4 address =>
      cases other with
      | v4 other =>
          have reads := read4 address
          rw [show address.chars = other.chars from chars, read4] at reads
          cases reads
          rfl
      | v6 other =>
          have colon := other.colon_mem_chars
          rw [← show address.chars = other.chars from chars] at colon
          exact absurd colon address.colon_notMem_chars
  | v6 address =>
      cases other with
      | v4 other =>
          have colon := address.colon_mem_chars
          rw [show address.chars = other.chars from chars] at colon
          exact absurd colon other.colon_notMem_chars
      | v6 other =>
          have reads := read6 address
          rw [show address.chars = other.chars from chars, read6] at reads
          cases reads
          rfl

end IpAddress

end Turnstile
