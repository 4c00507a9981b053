import Turnstile.Address.Reader
import Turnstile.Proofs.Text.Digit

/-!
# The grammar of socket addresses

How socket addresses are spelled, said without a reader. A relation holds between an input,
what the start of the input spells and what follows that start; one rule after the other is
a chain of inputs. The reader takes as much as it can and never goes back: that it takes
exactly the texts of the grammar (`ofString?_eq_some_iff`) rests on what may stand behind an
octet, a group and a row of groups, where nothing that continues them does.
-/

namespace Turnstile.SocketAddress.Grammar

/-! ## Spelling -/

/-- Digits of a radix, one at least, and the number that they spell. -/
structure Numeral (radix : Nat) (input found : List Char) (value : Nat) (rest : List Char) :
    Prop where
  split : input = found ++ rest
  nonempty : found ≠ []
  each : ∀ c ∈ found, Text.isDigitOf radix c = true
  value : Text.valueOf radix found = value

/-- An octet: at most three decimal digits, and no zero before another one. -/
inductive Octet : List Char → UInt8 → List Char → Prop
  | digits {input found rest : List Char} {octet : UInt8}
      (numeral : Numeral 10 input found octet.toNat rest) (short : found.length ≤ 3)
      (plain : ∀ behind, found = '0' :: behind → behind = []) : Octet input octet rest

/-- An IPv4 address: four octets with a dot between each two. -/
inductive Octets : List Char → Ipv4 → List Char → Prop
  | dotted {first second third fourth rest : List Char} {a b c d : UInt8}
      (one : Octet first a ('.' :: second)) (two : Octet second b ('.' :: third))
      (three : Octet third c ('.' :: fourth)) (four : Octet fourth d rest) :
      Octets first ⟨a, b, c, d⟩ rest

/-- A group: at most four hexadecimal digits. -/
inductive Group : List Char → UInt16 → List Char → Prop
  | digits {input found rest : List Char} {group : UInt16}
      (numeral : Numeral 16 input found group.toNat rest) (short : found.length ≤ 4) :
      Group input group rest

/-- Nothing before the first group, and a colon before every other one. -/
inductive Lead : Bool → List Char → List Char → Prop
  | first {rest : List Char} : Lead true rest rest
  | colon {rest : List Char} : Lead false (':' :: rest) rest

/-- Groups in a row, from the first or from a later one, and whether an IPv4 address stands
for the last two. -/
inductive Row : Bool → List Char → List UInt16 → Bool → List Char → Prop
  | none {first : Bool} {rest : List Char} : Row first rest [] false rest
  | octets {first : Bool} {input start rest : List Char} {address : Ipv4}
      (lead : Lead first input start) (octets : Octets start address rest) :
      Row first input (ipv4Groups address) true rest
  | group {first embedded : Bool} {input start next rest : List Char} {group : UInt16}
      {others : List UInt16} (lead : Lead first input start) (one : Group start group next)
      (more : Row false next others embedded rest) :
      Row first input (group :: others) embedded rest

/-- An IPv6 address: all eight groups, or groups on both sides of two colons that stand for
one or more zeros. An IPv4 address may stand for the last two groups, but not before the
colons. -/
inductive Groups : List Char → Ipv6 → List Char → Prop
  | whole {input rest : List Char} {address : Ipv6} {embedded : Bool}
      (row : Row true input address.groups.toList embedded rest) : Groups input address rest
  | gap {input next rest : List Char} {address : Ipv6} {front behind : List UInt16}
      {embedded : Bool} {zeros : Nat} (head : Row true input front false (':' :: ':' :: next))
      (tail : Row true next behind embedded rest)
      (filled : address.groups.toList = front ++ List.replicate (zeros + 1) 0 ++ behind) :
      Groups input address rest

/-- A scope after a percent sign, or none, which is zero. -/
inductive Scope : List Char → UInt32 → List Char → Prop
  | none {rest : List Char} : Scope rest 0 rest
  | percent {input found rest : List Char} {scope : UInt32}
      (numeral : Numeral 10 input found scope.toNat rest) : Scope ('%' :: input) scope rest

/-- An IPv4 address and a port after a colon, or an IPv6 address in brackets, maybe with a
scope, and a port. A port is any decimal digits that spell one. -/
inductive Socket : List Char → SocketAddress → List Char → Prop
  | v4 {input digits found rest : List Char} {address : Ipv4} {portNumber : UInt16}
      (octets : Octets input address (':' :: digits))
      (service : Numeral 10 digits found portNumber.toNat rest) :
      Socket input (.v4 address portNumber) rest
  | v6 {input zoned digits found rest : List Char} {address : Ipv6} {scope : UInt32}
      {portNumber : UInt16} (groups : Groups input address zoned)
      (zone : Scope zoned scope (']' :: ':' :: digits))
      (service : Numeral 10 digits found portNumber.toNat rest) :
      Socket ('[' :: input) (.v6 address portNumber 0 scope) rest

end Grammar

open Grammar

/-- A text is that of a socket address. -/
def Spells (text : String) (address : SocketAddress) : Prop :=
  Socket text.toList address []

/-! ## Numbers -/

/-- A character that is no digit of a radix stops a number. -/
theorem stops_cons {radix : Nat} {c : Char} (other : Text.isDigitOf radix c = false)
    (rest : List Char) : ∀ first ∈ (c :: rest).head?, Text.isDigitOf radix first = false := by
  rintro first ⟨rfl⟩
  exact other

section

variable {radix bound most value : Nat} {input found rest : List Char}

theorem numeral_of_number? (read : number? radix bound input = some (value, rest)) :
    Numeral radix input (Text.digits radix input).1 value rest ∧ value < bound := by
  unfold number? at read
  split at read
  · cases read
  · next found behind nonempty digits =>
      obtain ⟨small, same⟩ := Option.ite_none_right_eq_some.mp read
      cases same
      rw [digits]
      have split := List.takeWhile_append_dropWhile (p := Text.isDigitOf radix) (l := input)
      have each : ∀ c ∈ input.takeWhile (Text.isDigitOf radix), Text.isDigitOf radix c = true :=
        fun c member => List.mem_takeWhile_imp member
      obtain ⟨rfl, rfl⟩ := Prod.mk.inj digits
      exact ⟨⟨split.symm, nonempty, each, rfl⟩, small⟩

theorem numeral_of_shortNumber?
    (read : shortNumber? radix most bound input = some (value, rest)) :
    Numeral radix input (Text.digits radix input).1 value rest ∧
      (Text.digits radix input).1.length ≤ most ∧ value < bound := by
  unfold shortNumber? at read
  split at read
  · cases read
  · next short =>
      obtain ⟨numeral, small⟩ := numeral_of_number? read
      exact ⟨numeral, Nat.not_lt.mp short, small⟩

variable (numeral : Numeral radix input found value rest)
include numeral

/-- A number starts with a digit. -/
theorem Grammar.Numeral.starts : ∃ c ∈ input.head?, Text.isDigitOf radix c = true := by
  obtain ⟨c, others, rfl⟩ := List.exists_cons_of_ne_nil numeral.nonempty
  exact ⟨c, by rw [numeral.split]; rfl, numeral.each c List.mem_cons_self⟩

variable (stops : ∀ c ∈ rest.head?, Text.isDigitOf radix c = false)
include stops

theorem Grammar.Numeral.digits : Text.digits radix input = (found, rest) := by
  rw [numeral.split]
  exact Text.digits_append numeral.each stops

theorem Grammar.Numeral.number? (small : value < bound) :
    number? radix bound input = some (value, rest) := by
  unfold SocketAddress.number?
  rw [numeral.digits stops]
  split
  · next nothing => exact absurd (Prod.mk.inj nothing).1 numeral.nonempty
  · next same =>
      obtain ⟨rfl, rfl⟩ := Prod.mk.inj same
      rw [numeral.value]
      exact if_pos small

theorem Grammar.Numeral.shortNumber? (short : found.length ≤ most) (small : value < bound) :
    shortNumber? radix most bound input = some (value, rest) := by
  rw [SocketAddress.shortNumber?, numeral.digits stops, if_neg (Nat.not_lt.mpr short)]
  exact numeral.number? stops small

end

/-! ## IPv4 addresses -/

/-- A decimal digit is a hexadecimal one. -/
theorem isDigitOf_sixteen {c : Char} (other : Text.isDigitOf 16 c = false) :
    Text.isDigitOf 10 c = false := by
  unfold Text.isDigitOf at other ⊢
  split
  · next value found =>
      rw [found] at other
      simp only [decide_eq_false_iff_not] at other ⊢
      omega
  · rfl

section

variable {input rest : List Char}

theorem octet_of_octet? {octet : UInt8} (read : octet? input = some (octet, rest)) :
    Octet input octet rest := by
  unfold octet? at read
  split at read
  · cases read
  · next plain =>
      obtain ⟨⟨value, behind⟩, number, same⟩ := Option.map_eq_some_iff.mp read
      cases same
      obtain ⟨numeral, short, small⟩ := numeral_of_shortNumber? number
      have same : (UInt8.ofNat value).toNat = value := UInt8.toNat_ofNat_of_lt' small
      refine .digits (by rwa [same]) short fun behind leading => ?_
      cases behind with
      | nil => rfl
      | cons c behind => exact (plain c behind _ (Prod.ext leading rfl)).elim

theorem Grammar.Octet.octet? {octet : UInt8} (spelled : Octet input octet rest)
    (stops : ∀ c ∈ rest.head?, Text.isDigitOf 10 c = false) :
    octet? input = some (octet, rest) := by
  obtain ⟨numeral, short, plain⟩ := spelled
  have number := numeral.shortNumber? stops short octet.toNat_lt
  unfold SocketAddress.octet?
  rw [numeral.digits stops, number]
  split
  · next leading => cases plain _ (Prod.mk.inj leading).1
  · exact congrArg (fun octet => some (octet, rest)) UInt8.ofNat_toNat

theorem expect?_eq_some_iff {c : Char} : expect? c input = some rest ↔ input = c :: rest := by
  cases input with
  | nil => simp [expect?]
  | cons first behind =>
      rw [expect?, Option.ite_none_right_eq_some]
      simp

theorem octets_of_ipv4? {address : Ipv4} (read : ipv4? input = some (address, rest)) :
    Octets input address rest := by
  simp only [ipv4?, Option.bind_eq_bind, Option.bind_eq_some_iff, Prod.exists,
    expect?_eq_some_iff] at read
  obtain ⟨a, _, one, _, rfl, b, _, two, _, rfl, c, _, three, _, rfl, d, _, four, same⟩ := read
  cases same
  exact .dotted (octet_of_octet? one) (octet_of_octet? two) (octet_of_octet? three)
    (octet_of_octet? four)

theorem Grammar.Octets.ipv4? {address : Ipv4} (spelled : Octets input address rest)
    (stops : ∀ c ∈ rest.head?, Text.isDigitOf 10 c = false) :
    ipv4? input = some (address, rest) := by
  obtain ⟨one, two, three, four⟩ := spelled
  have dot (rest : List Char) := stops_cons (show Text.isDigitOf 10 '.' = false from rfl) rest
  simp only [SocketAddress.ipv4?, one.octet? (dot _), two.octet? (dot _), three.octet? (dot _),
    four.octet? stops, expect?, Option.bind_eq_bind, Option.bind_some, if_true]

end

/-- Without a dot behind the first digits there is no IPv4 address. -/
theorem ipv4?_of_no_dot {input : List Char}
    (noDot : ∀ c ∈ (input.dropWhile (Text.isDigitOf 10)).head?, c ≠ '.') :
    ipv4? input = none := by
  rw [Option.eq_none_iff_forall_ne_some]
  rintro ⟨address, rest⟩ read
  obtain ⟨⟨numeral, _, _⟩, _, _, _⟩ := octets_of_ipv4? read
  have behind : input.dropWhile (Text.isDigitOf 10) = '.' :: _ :=
    congrArg Prod.snd (numeral.digits (stops_cons rfl _))
  rw [behind] at noDot
  exact noDot '.' rfl rfl

/-! ## Groups -/

/-- What stands behind a group: no digit that continues it, and no dot, which would make it
an octet. -/
def EndsGroup (rest : List Char) : Prop :=
  ∀ c ∈ rest.head?, Text.isDigitOf 16 c = false ∧ c ≠ '.'

theorem endsGroup_colon (rest : List Char) : EndsGroup (':' :: rest) := by
  intro c head
  rw [← Option.some.inj head]
  exact ⟨rfl, by decide⟩

/-- No group starts here, neither at once nor behind a colon. -/
def Unread (rest : List Char) : Prop :=
  ∀ first start, Lead first rest start → ∀ c ∈ start.head?, Text.isDigitOf 16 c = false

theorem unread_gap (rest : List Char) : Unread (':' :: ':' :: rest) := by
  rintro first start (_ | _) c ⟨rfl⟩ <;> rfl

section

variable {first embedded : Bool} {room : Nat} {input start rest : List Char}
  {found : List UInt16} {group : UInt16}

theorem group_of_group? (read : group? input = some (group, rest)) : Group input group rest := by
  obtain ⟨⟨value, behind⟩, number, same⟩ := Option.map_eq_some_iff.mp read
  cases same
  obtain ⟨numeral, short, small⟩ := numeral_of_shortNumber? number
  have same : (UInt16.ofNat value).toNat = value := UInt16.toNat_ofNat_of_lt' small
  exact .digits (by rwa [same]) short

theorem Grammar.Group.group? (spelled : Group input group rest) (ends : EndsGroup rest) :
    group? input = some (group, rest) := by
  obtain ⟨numeral, short⟩ := spelled
  have number := numeral.shortNumber? (fun c head => (ends c head).1) short group.toNat_lt
  rw [SocketAddress.group?, number]
  exact congrArg (fun group => some (group, rest)) UInt16.ofNat_toNat

/-- The decimal digits at the start of a group are no octet. -/
theorem Grammar.Group.ipv4? (spelled : Group input group rest) (ends : EndsGroup rest) :
    ipv4? input = none := by
  obtain ⟨digits, numeral⟩ : ∃ digits, Numeral 16 input digits group.toNat rest := by
    obtain ⟨numeral, _⟩ := spelled
    exact ⟨_, numeral⟩
  apply ipv4?_of_no_dot
  rw [numeral.split, List.dropWhile_append]
  split
  · cases rest with
    | nil => simp
    | cons c rest =>
        obtain ⟨other, notDot⟩ := ends c rfl
        rw [List.dropWhile_cons_of_neg (Bool.eq_false_iff.mp (isDigitOf_sixteen other))]
        intro first head
        rwa [← Option.some.inj head]
  · next kept =>
      obtain ⟨first, others, keptEq⟩ := List.exists_cons_of_ne_nil
        (mt List.isEmpty_iff.mpr kept)
      have member : first ∈ digits := by
        apply (List.dropWhile_sublist (Text.isDigitOf 10)).mem
        rw [keptEq]
        exact List.mem_cons_self
      rw [keptEq]
      rintro c ⟨rfl⟩ rfl
      exact absurd (numeral.each _ member) (by decide)

theorem lead_iff :
    (if first then some input else expect? ':' input) = some start ↔ Lead first input start := by
  constructor
  · intro led
    cases first with
    | true =>
        cases led
        exact .first
    | false =>
        rw [expect?_eq_some_iff.mp led]
        exact .colon
  · rintro (_ | _) <;> rfl

/-- What is read is a row that fits into the room. -/
theorem row_of_groups (read : groups first room input = (found, embedded, rest)) :
    Row first input found embedded rest ∧ found.length ≤ room := by
  induction room generalizing first input found embedded rest with
  | zero =>
      cases read
      exact ⟨.none, Nat.le_refl 0⟩
  | succ room inductionHypothesis =>
      rw [groups] at read
      split at read
      · cases read
        exact ⟨.none, Nat.zero_le _⟩
      · next start led =>
          split at read
          · next address behind octets =>
              cases read
              obtain ⟨two, taken⟩ := Option.ite_none_left_eq_some.mp octets
              refine ⟨.octets (lead_iff.mp led) (octets_of_ipv4? taken), ?_⟩
              simp only [ipv4Groups, List.length_cons, List.length_nil]
              omega
          · split at read
            · cases read
              exact ⟨.none, Nat.zero_le _⟩
            · next group next taken =>
                cases read
                obtain ⟨more, fits⟩ := inductionHypothesis rfl
                exact ⟨.group (lead_iff.mp led) (group_of_group? taken) more,
                  Nat.succ_le_succ fits⟩

/-- Where no group starts, a row is empty. -/
theorem Grammar.Row.eq_none (row : Row first input found embedded rest) (unread : Unread input) :
    found = [] ∧ embedded = false ∧ rest = input := by
  cases row with
  | none => exact ⟨rfl, rfl, rfl⟩
  | octets lead octets =>
      obtain ⟨⟨numeral, _, _⟩, _, _, _⟩ := octets
      obtain ⟨c, head, digit⟩ := numeral.starts
      have other := isDigitOf_sixteen (unread _ _ lead c head)
      rw [digit] at other
      cases other
  | group lead one more =>
      obtain ⟨numeral, _⟩ := one
      obtain ⟨c, head, digit⟩ := numeral.starts
      have other := unread _ _ lead c head
      rw [digit] at other
      cases other

/-- What a row goes on with ends the group before it, if what is behind the row does. -/
theorem Grammar.Row.endsGroup (row : Row false input found embedded rest)
    (ends : EndsGroup rest) : EndsGroup input := by
  cases row with
  | none => exact ends
  | octets lead =>
      cases lead
      exact endsGroup_colon _
  | group lead =>
      cases lead
      exact endsGroup_colon _

/-- A row is read up to its end, if nothing that is behind it continues it. -/
theorem Grammar.Row.groups (row : Row first input found embedded rest) (ends : EndsGroup rest)
    (unread : Unread rest) (fits : found.length ≤ room) :
    groups first room input = (found, embedded, rest) := by
  induction row generalizing room with
  | @none first rest =>
      obtain ⟨more, _⟩ := row_of_groups (show groups first room rest = (_, _, _) from rfl)
      obtain ⟨nothing, plain, whole⟩ := more.eq_none unread
      exact Prod.ext nothing (Prod.ext plain whole)
  | octets lead octets =>
      obtain ⟨room, rfl⟩ : ∃ more, room = more + 2 := ⟨room - 2, by
        simp only [ipv4Groups, List.length_cons, List.length_nil] at fits
        omega⟩
      have taken := octets.ipv4? fun c head => isDigitOf_sixteen (ends c head).1
      rw [SocketAddress.groups, lead_iff.mpr lead]
      simp only [if_neg (Nat.succ_ne_zero room), taken]
  | group lead one more inductionHypothesis =>
      cases room with
      | zero => cases fits
      | succ room =>
          have behind := more.endsGroup ends
          have others := inductionHypothesis ends unread (Nat.le_of_succ_le_succ fits)
          rw [SocketAddress.groups, lead_iff.mpr lead]
          simp only [one.ipv4? behind, ite_self, one.group? behind, others]

end

/-! ## IPv6 addresses -/

/-- What does not continue an address. -/
def EndsAddress (rest : List Char) : Prop :=
  ∀ c ∈ rest.head?, Text.isDigitOf 16 c = false ∧ c ≠ '.' ∧ c ≠ ':'

theorem EndsAddress.endsGroup {rest : List Char} (ends : EndsAddress rest) : EndsGroup rest :=
  fun c head => ⟨(ends c head).1, (ends c head).2.1⟩

theorem EndsAddress.unread {rest : List Char} (ends : EndsAddress rest) : Unread rest := by
  rintro first start (_ | _)
  · exact fun c head => (ends c head).1
  · exact absurd rfl (ends ':' rfl).2.2

/-- Groups around a gap are filled up with zeros to the address that they were taken from. -/
theorem fill_eq {address : Ipv6} {head tail : List UInt16}
    (whole : head ++ List.replicate (8 - (head.length + tail.length)) 0 ++ tail =
      address.groups.toList) : fill head tail = address := by
  obtain ⟨groups⟩ := address
  apply congrArg Ipv6.mk
  apply Vector.ext
  intro index small
  simp [whole]

theorem toList_fill {head tail : List UInt16} (fits : head.length + tail.length ≤ 8) :
    (fill head tail).groups.toList =
      head ++ List.replicate (8 - (head.length + tail.length)) 0 ++ tail := by
  have size : (head ++ List.replicate (8 - (head.length + tail.length)) 0 ++ tail).length = 8 := by
    simp only [List.length_append, List.length_replicate]
    omega
  have whole := @fill_eq ⟨⟨⟨_⟩, size⟩⟩ head tail rfl
  rw [whole]
  rfl

section

variable {input rest : List Char} {address : Ipv6}

theorem groups_of_ipv6? (read : ipv6? input = some (address, rest)) :
    Groups input address rest := by
  unfold ipv6? at read
  generalize front : groups true 8 input = found at read
  obtain ⟨head, embedded, behind⟩ := found
  obtain ⟨row, fits⟩ := row_of_groups front
  dsimp only at read
  split at read
  · next full =>
      cases read
      have whole : (fill head []).groups.toList = head := by
        rw [toList_fill (by simpa using fits), full]
        simp
      rw [← whole] at row
      exact .whole row
  · next short =>
      split at read
      · cases read
      · next plain =>
          split at read
          · next next =>
              generalize back : groups true (8 - (head.length + 1)) next = found at read
              obtain ⟨tail, embedded', behind⟩ := found
              obtain ⟨row', fits'⟩ := row_of_groups back
              dsimp only at read
              cases read
              rw [Bool.eq_false_iff.mpr plain] at row
              have zeros : 8 - (head.length + tail.length) =
                  7 - (head.length + tail.length) + 1 := by omega
              have filled : (fill head tail).groups.toList = _ := toList_fill (by omega)
              rw [zeros] at filled
              exact .gap row row' filled
          · cases read

/-- Groups on both sides of two colons are read, and the zeros between them filled in. -/
theorem ipv6?_of_gap {next : List Char} {front behind : List UInt16} {embedded : Bool}
    {zeros : Nat} (head : Row true input front false (':' :: ':' :: next))
    (tail : Row true next behind embedded rest) (ends : EndsAddress rest)
    (filled : address.groups.toList = front ++ List.replicate (zeros + 1) 0 ++ behind) :
    ipv6? input = some (address, rest) := by
  have length := congrArg List.length filled
  simp only [Vector.length_toList, List.length_append, List.length_replicate] at length
  have short : front.length ≠ 8 := by omega
  have before : groups true 8 input = (front, false, ':' :: ':' :: next) :=
    head.groups (endsGroup_colon _) (unread_gap next) (by omega)
  have after : groups true (8 - (front.length + 1)) next = (behind, embedded, rest) :=
    tail.groups ends.endsGroup ends.unread (by omega)
  have same : fill front behind = address := by
    apply fill_eq
    rw [filled]
    congr 3
    omega
  rw [SocketAddress.ipv6?, before]
  simp only [short, if_false, Bool.false_eq_true, after, same]

theorem Grammar.Groups.ipv6? (spelled : Groups input address rest) (ends : EndsAddress rest) :
    ipv6? input = some (address, rest) := by
  cases spelled with
  | whole row =>
      have eight : address.groups.toList.length = 8 := Vector.length_toList
      have read := row.groups ends.endsGroup ends.unread (Nat.le_of_eq eight)
      have same : fill address.groups.toList [] = address := fill_eq (by simp)
      rw [SocketAddress.ipv6?, read]
      simp only [eight, if_true, same]
  | gap head tail filled => exact ipv6?_of_gap head tail ends filled

end

/-! ## Socket addresses -/

section

variable {input rest : List Char}

theorem scope_of_scope (input : List Char) : Scope input (scope input).1 (scope input).2 := by
  unfold scope
  split
  · next value rest read =>
      obtain ⟨digits, percent, number⟩ := Option.bind_eq_some_iff.mp read
      obtain rfl := expect?_eq_some_iff.mp percent
      obtain ⟨numeral, small⟩ := numeral_of_number? number
      have same : (UInt32.ofNat value).toNat = value := UInt32.toNat_ofNat_of_lt' small
      exact .percent (by rwa [same])
  · exact .none

theorem Grammar.Scope.scope {scope : UInt32} (spelled : Scope input scope (']' :: rest)) :
    SocketAddress.scope input = (scope, ']' :: rest) := by
  cases spelled with
  | none => rfl
  | percent numeral =>
      have number := numeral.number? (stops_cons rfl rest) scope.toNat_lt
      unfold SocketAddress.scope
      simp only [expect?, if_true, Option.bind_eq_bind, Option.bind_some, number,
        UInt32.ofNat_toNat]

/-- What follows an IPv6 address in brackets does not continue it. -/
theorem Grammar.Scope.endsAddress {scope : UInt32} (spelled : Scope input scope (']' :: rest)) :
    EndsAddress input := by
  cases spelled with
  | none =>
      rintro c ⟨rfl⟩
      decide
  | percent =>
      rintro c ⟨rfl⟩
      decide

theorem numeral_of_portNumber? {portNumber : UInt16}
    (read : portNumber? input = some (portNumber, rest)) :
    ∃ digits found, input = ':' :: digits ∧ Numeral 10 digits found portNumber.toNat rest := by
  simp only [portNumber?, Option.bind_eq_bind, Option.bind_eq_some_iff, Prod.exists,
    expect?_eq_some_iff] at read
  obtain ⟨digits, rfl, value, _, number, same⟩ := read
  cases same
  obtain ⟨numeral, small⟩ := numeral_of_number? number
  have same : (UInt16.ofNat value).toNat = value := UInt16.toNat_ofNat_of_lt' small
  exact ⟨digits, _, rfl, by rwa [same]⟩

/-- A port at the end is read whole. -/
theorem Grammar.Numeral.portNumber? {digits found : List Char} {portNumber : UInt16}
    (numeral : Numeral 10 digits found portNumber.toNat []) :
    portNumber? (':' :: digits) = some (portNumber, []) := by
  have number := numeral.number? (show ∀ c ∈ [].head?, _ by nofun) portNumber.toNat_lt
  simp only [SocketAddress.portNumber?, expect?, if_true, Option.bind_eq_bind, Option.bind_some,
    number, UInt16.ofNat_toNat]

theorem socket_of_readV4? {address : SocketAddress} (read : readV4? input = some (address, rest)) :
    Socket input address rest := by
  simp only [readV4?, Option.bind_eq_bind, Option.bind_eq_some_iff, Prod.exists] at read
  obtain ⟨address, _, octets, service, _, number, same⟩ := read
  cases same
  obtain ⟨digits, found, rfl, numeral⟩ := numeral_of_portNumber? number
  exact .v4 (octets_of_ipv4? octets) numeral

theorem socket_of_readV6? {address : SocketAddress} (read : readV6? input = some (address, rest)) :
    Socket input address rest := by
  simp only [readV6?, Option.bind_eq_bind, Option.bind_eq_some_iff, Prod.exists,
    expect?_eq_some_iff] at read
  obtain ⟨_, rfl, address, zoned, groups, _, closed, service, _, number, same⟩ := read
  cases same
  obtain ⟨digits, found, rfl, numeral⟩ := numeral_of_portNumber? number
  have zone := scope_of_scope zoned
  rw [closed] at zone
  exact .v6 (groups_of_ipv6? groups) zone numeral

/-- A whole text of the grammar is read, and nothing is left of it. -/
theorem Grammar.Socket.read {address : SocketAddress} (spelled : Socket input address []) :
    (readV4? input).or (readV6? input) = some (address, []) := by
  cases spelled with
  | v4 octets service =>
      have read := octets.ipv4? (stops_cons rfl _)
      simp [readV4?, read, service.portNumber?]
  | v6 groups zone service =>
      have bracket (behind : List Char) : ipv4? ('[' :: behind) = none := by
        apply ipv4?_of_no_dot
        rw [List.dropWhile_cons_of_neg (by decide)]
        rintro c ⟨rfl⟩
        decide
      have read := groups.ipv6? zone.endsAddress
      simp [readV4?, bracket, readV6?, expect?, read, zone.scope, service.portNumber?]

end

/-- The texts that are read as a socket address are those of the grammar, and are read as
what they spell. -/
theorem ofString?_eq_some_iff {text : String} {address : SocketAddress} :
    ofString? text = some address ↔ Spells text address := by
  constructor
  · intro read
    unfold ofString? at read
    split at read
    · next taken =>
        cases read
        rcases Option.or_eq_some_iff.mp taken with four | ⟨_, six⟩
        · exact socket_of_readV4? four
        · exact socket_of_readV6? six
    · cases read
  · intro spelled
    rw [ofString?, Socket.read spelled]

/-- A text that is not read is that of no socket address. -/
theorem ofString?_eq_none_iff {text : String} :
    ofString? text = none ↔ ∀ address, ¬Spells text address := by
  simp only [Option.eq_none_iff_forall_ne_some, ne_eq, ofString?_eq_some_iff]

/-- No zero before the digits of an octet, and any number of them before those of a port. -/
example :
    ofString? "127.0.0.1:0080" = some (.v4 ⟨127, 0, 0, 1⟩ 80) ∧
      ofString? "127.0.0.01:80" = none := by
  decide +kernel

end Turnstile.SocketAddress
