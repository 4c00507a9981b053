import Turnstile.Proofs.Address.RoundTrip
import Turnstile.Proofs.Caller.Separation

/-!
# Whose address a request is charged to

Three headers may name the address of a sender. `Source.Names` says what each of them names,
apart from how it is looked up, and `Source.IsUsable` that it names anything at all. The
first usable source settles the key; nothing that ranks below it is looked at, and what is
not usable may as well be missing. Without a usable source the peer settles the key, and two
peers share it exactly if they share their address, since no two addresses are written alike
and none is written `unknown`.
-/

namespace Turnstile

namespace Headers

/-- Fields of one name, taken out, are missing under this name and under no other. -/
theorem first?_filter (headers : Headers) (removed name : String) :
    first? (headers.filter fun header => header.name ≠ removed) name =
      if name = removed then none else headers.first? name := by
  unfold first?
  rw [List.find?_filter]
  split
  · next same =>
      subst same
      rw [Option.map_eq_none_iff, List.find?_eq_none]
      simp
  · next different =>
      congr 2
      funext header
      by_cases found : header.name = name
      · simp [found, different]
      · simp [found]

end Headers

namespace Caller

theorem trimmed?_eq_some_iff {text inner : String} :
    trimmed? text = some inner ↔ Text.trim text = inner ∧ inner ≠ "" := by
  unfold trimmed?
  dsimp only
  split
  · next empty =>
      rw [String.isEmpty_iff] at empty
      simp [empty, eq_comm]
  · next filled =>
      rw [String.isEmpty_iff] at filled
      simp only [Option.some.injEq]
      constructor
      · rintro rfl
        exact ⟨rfl, filled⟩
      · exact And.left

/-- A header that may name the address of a sender. -/
inductive Source where
  /-- The addresses that a request was passed on from, the sender's first. -/
  | forwarded
  | real
  | remote
  deriving DecidableEq, Repr

namespace Source

/-- The name of the header. -/
def name : Source → String
  | forwarded => "x-forwarded-for"
  | real => "x-real-ip"
  | remote => "remote-addr"

/-- How many sources are asked before this one. -/
def rank : Source → Nat
  | forwarded => 0
  | real => 1
  | remote => 2

/-- The part of a header's text that counts: of a list the first entry, of the other headers
all of it. -/
inductive Entry : Source → String → String → Prop where
  | first {entry rest : String} (noComma : ',' ∉ entry.toList) :
      Entry forwarded (entry ++ "," ++ rest) entry
  | only {entry : String} (noComma : ',' ∉ entry.toList) : Entry forwarded entry entry
  | real (text : String) : Entry real text text
  | remote (text : String) : Entry remote text text

/-- The address that a source names: what is left of the entry in its first value, without
white space around it. -/
def Names (source : Source) (headers : Headers) (address : String) : Prop :=
  ∃ value text entry, headers.first? source.name = some value ∧
    Header.text? value = some text ∧ Entry source text entry ∧
    Text.trim entry = address ∧ address ≠ ""

/-- A source that names an address. -/
def IsUsable (source : Source) (headers : Headers) : Prop :=
  ∃ address, source.Names headers address

/-! ## Looking a source up -/

/-- The part of a header's text that is looked at. -/
def entryOf : Source → String → String
  | forwarded => beforeComma
  | real => id
  | remote => id

/-- The address that is looked up in a source. -/
def address? (source : Source) (headers : Headers) : Option String :=
  (headers.text? source.name).bind fun text => trimmed? (source.entryOf text)

theorem forwardedAddress?_eq (headers : Headers) :
    forwardedAddress? headers =
      (forwarded.address? headers).or ((real.address? headers).or (remote.address? headers)) :=
  rfl

private theorem ne_comma {entry : String} (noComma : ',' ∉ entry.toList) :
    ∀ c ∈ entry.toList, decide (c ≠ ',') = true := by
  intro c member
  apply decide_eq_true
  rintro rfl
  exact noComma member

private theorem beforeComma_of_noComma {entry : String} (noComma : ',' ∉ entry.toList) :
    beforeComma entry = entry := by
  rw [beforeComma, List.takeWhile_eq_self_iff.mpr (ne_comma noComma), String.ofList_toList]

private theorem beforeComma_append {entry rest : String} (noComma : ',' ∉ entry.toList) :
    beforeComma (entry ++ "," ++ rest) = entry := by
  have spelled : (entry ++ "," ++ rest).toList = entry.toList ++ ',' :: rest.toList := by simp
  rw [beforeComma, spelled, List.takeWhile_append_of_pos (ne_comma noComma),
    List.takeWhile_cons_of_neg (by simp), List.append_nil, String.ofList_toList]

/-- The part of a text that is looked at is the one that counts. -/
theorem entry_iff {source : Source} {text entry : String} :
    Entry source text entry ↔ source.entryOf text = entry := by
  constructor
  · intro counts
    cases counts with
    | first noComma => exact beforeComma_append noComma
    | only noComma => exact beforeComma_of_noComma noComma
    | real => rfl
    | remote => rfl
  · rintro rfl
    cases source with
    | real => exact .real text
    | remote => exact .remote text
    | forwarded =>
        have noComma : ',' ∉ (beforeComma text).toList := by
          rw [beforeComma, String.toList_ofList]
          intro member
          simpa using List.mem_takeWhile_imp member
        have spelled : text.toList = (beforeComma text).toList ++
            text.toList.dropWhile (· ≠ ',') := by
          rw [beforeComma, String.toList_ofList, List.takeWhile_append_dropWhile]
        cases behind : text.toList.dropWhile (· ≠ ',') with
        | nil =>
            rw [behind, List.append_nil, String.toList_inj] at spelled
            have only := Entry.only noComma
            rw [← spelled] at only
            rwa [entryOf, ← spelled]
        | cons c rest =>
            have comma := List.head?_dropWhile_not (· ≠ ',') text.toList
            rw [behind] at comma
            obtain rfl : c = ',' := by simpa using comma
            have first : Entry forwarded (beforeComma text ++ "," ++ String.ofList rest) _ :=
              .first noComma
            have joined : beforeComma text ++ "," ++ String.ofList rest = text := by
              rw [← String.toList_inj, spelled, behind]
              simp
            rwa [joined] at first

/-- What is looked up in a source is what it names. -/
theorem address?_eq_some_iff {source : Source} {headers : Headers} {address : String} :
    source.address? headers = some address ↔ source.Names headers address := by
  unfold address? Names Headers.text?
  simp only [Option.bind_eq_some_iff, trimmed?_eq_some_iff, entry_iff]
  constructor
  · rintro ⟨text, ⟨value, found, readable⟩, trimmed, filled⟩
    exact ⟨value, text, _, found, readable, rfl, trimmed, filled⟩
  · rintro ⟨value, text, _, found, readable, rfl, trimmed, filled⟩
    exact ⟨text, ⟨value, found, readable⟩, trimmed, filled⟩

theorem address?_eq_none_iff {source : Source} {headers : Headers} :
    source.address? headers = none ↔ ¬source.IsUsable headers := by
  rw [Option.eq_none_iff_forall_ne_some]
  simp only [ne_eq, address?_eq_some_iff, IsUsable, not_exists]

/-- A source names nothing but what its first value says. -/
theorem names_congr {source : Source} {headers other : Headers}
    (same : other.first? source.name = headers.first? source.name) {address : String} :
    source.Names other address ↔ source.Names headers address := by
  unfold Names
  rw [same]

theorem name_injective : Function.Injective name := by
  intro source other same
  cases source <;> cases other <;> simp_all [name]

/-! ## The first usable source -/

variable {headers other : Headers} {source : Source} {address : String}

/-- Below a usable source, or at it, there is a first one. -/
theorem exists_first (usable : source.IsUsable headers) :
    ∃ (first : Source) (address : String), first.rank ≤ source.rank ∧ first.Names headers address ∧
      ∀ higher : Source, higher.rank < first.rank → ¬higher.IsUsable headers := by
  induction rank : source.rank using Nat.strongRecOn generalizing source with
  | ind _ inductionHypothesis =>
      by_cases better : ∃ higher : Source, higher.rank < source.rank ∧ higher.IsUsable headers
      · obtain ⟨higher, less, usable⟩ := better
        obtain ⟨first, address, least, names, none⟩ :=
          inductionHypothesis higher.rank (rank ▸ less) usable rfl
        exact ⟨first, address, by omega, names, none⟩
      · obtain ⟨address, names⟩ := usable
        refine ⟨source, address, Nat.le_of_eq rank, names, fun higher less usable => ?_⟩
        exact better ⟨higher, less, usable⟩

/-- The first usable source is the one whose address is taken. -/
theorem forwardedAddress?_of_first (names : source.Names headers address)
    (none : ∀ higher : Source, higher.rank < source.rank → ¬higher.IsUsable headers) :
    forwardedAddress? headers = some address := by
  have found := address?_eq_some_iff.mpr names
  have missing : ∀ higher : Source, higher.rank < source.rank → higher.address? headers = Option.none :=
    fun higher less => address?_eq_none_iff.mpr (none higher less)
  rw [forwardedAddress?_eq]
  cases source with
  | forwarded => rw [found, Option.some_or]
  | real => rw [missing forwarded (by decide), Option.none_or, found, Option.some_or]
  | remote =>
      rw [missing forwarded (by decide), missing real (by decide), Option.none_or, Option.none_or,
        found]

theorem forwardedAddress?_of_none (unusable : ∀ source : Source, ¬source.IsUsable headers) :
    forwardedAddress? headers = none := by
  have missing : ∀ source : Source, source.address? headers = none :=
    fun source => address?_eq_none_iff.mpr (unusable source)
  rw [forwardedAddress?_eq, missing, missing, missing]
  rfl

theorem addressKey_of_first (names : source.Names headers address)
    (none : ∀ higher : Source, higher.rank < source.rank → ¬higher.IsUsable headers)
    (peer : Option SocketAddress) : addressKey headers peer = "ip:" ++ address := by
  unfold addressKey
  rw [forwardedAddress?_of_first names none]
  rfl

/-- What is not usable may as well be missing. -/
theorem forwardedAddress?_filter (unusable : ¬source.IsUsable headers) :
    forwardedAddress? (headers.filter fun header => header.name ≠ source.name) =
      forwardedAddress? headers := by
  have each : ∀ asked : Source,
      asked.address? (headers.filter fun header => header.name ≠ source.name) =
        asked.address? headers := by
    intro asked
    by_cases same : asked = source
    · subst same
      rw [address?_eq_none_iff.mpr unusable, address?, Headers.text?, Headers.first?_filter,
        if_pos rfl]
      rfl
    · rw [address?, Headers.text?, Headers.first?_filter,
        if_neg fun named => same (name_injective named), address?, Headers.text?]
  rw [forwardedAddress?_eq, each, each, each, ← forwardedAddress?_eq]

end Source

/-! ## Peers -/

/-- No address is written like the word for an unknown one. -/
theorem render_ne_unknown (address : IpAddress) : address.render ≠ "unknown" := by
  intro same
  have chars := congrArg String.toList same
  rw [address.toList_render] at chars
  cases address with
  | v4 address =>
      have dot := address.dot_mem_chars
      rw [show address.chars = _ from chars] at dot
      exact absurd dot (by decide)
  | v6 address =>
      have colon := address.colon_mem_chars
      rw [show address.chars = _ from chars] at colon
      exact absurd colon (by decide)

private theorem addressKey_of_none {headers : Headers}
    (unusable : ∀ source : Source, ¬source.IsUsable headers) (peer : Option SocketAddress) :
    addressKey headers peer =
      Key.compose .ip (match peer with
        | some peer => peer.ip.render
        | none => "unknown") := by
  unfold addressKey
  rw [Source.forwardedAddress?_of_none unusable]
  cases peer <;> rfl

private theorem compose_injective (kind : Key.Kind) : Function.Injective (Key.compose kind) :=
  fun _ _ same => String.append_right_inj _ |>.mp same

/-- How the address is found that a request is charged to, for every list of headers and
every peer. -/
structure Located : Prop where
  /-- A request without a credential is charged to its address. -/
  charged : ∀ (resolver : Resolver) {headers : Headers} (peer : Option SocketAddress),
    ¬LeadsWithCredential headers → keyBy resolver headers peer = addressKey headers peer
  /-- The first usable source names the address. -/
  first : ∀ {source : Source} {headers : Headers} {address : String}
    (peer : Option SocketAddress), source.Names headers address →
    (∀ higher : Source, higher.rank < source.rank → ¬higher.IsUsable headers) →
    addressKey headers peer = "ip:" ++ address
  /-- A header that is not usable may be taken out, with all its values. -/
  removed : ∀ {source : Source} {headers : Headers} (peer : Option SocketAddress),
    ¬source.IsUsable headers →
    addressKey (headers.filter fun header => header.name ≠ source.name) peer =
      addressKey headers peer
  /-- Below a usable source all may change, the peer included. -/
  lower : ∀ {source : Source} {headers other : Headers}
    (peer otherPeer : Option SocketAddress), source.IsUsable headers →
    (∀ asked : Source, asked.rank ≤ source.rank →
      other.first? asked.name = headers.first? asked.name) →
    addressKey other otherPeer = addressKey headers peer
  /-- Without a usable source, requests of two peers share a key exactly if the peers share
  an address. -/
  peers : ∀ {headers other : Headers} (peer otherPeer : SocketAddress),
    (∀ source : Source, ¬source.IsUsable headers) →
    (∀ source : Source, ¬source.IsUsable other) →
    (addressKey headers (some peer) = addressKey other (some otherPeer) ↔ peer.ip = otherPeer.ip)
  /-- Without a usable source, the address is unknown exactly if no peer is known. -/
  unknown : ∀ {headers : Headers} (peer : Option SocketAddress),
    (∀ source : Source, ¬source.IsUsable headers) →
    (addressKey headers peer = "ip:unknown" ↔ peer = none)

/-- The standard look at addresses finds the first usable source, and tells peers apart by
their addresses. -/
theorem located : Located where
  charged resolver headers peer without :=
    Policy.key_of_not_leads { resolver := resolver } without peer
  first peer names none := Source.addressKey_of_first names none peer
  removed peer unusable := by
    unfold addressKey
    rw [Source.forwardedAddress?_filter unusable]
  lower {source headers other} peer otherPeer usable same := by
    obtain ⟨first, address, least, names, none⟩ := Source.exists_first usable
    have namesOther := (Source.names_congr (same first least)).mpr names
    have noneOther : ∀ higher : Source, higher.rank < first.rank → ¬higher.IsUsable other := by
      rintro higher less ⟨found, namesFound⟩
      have sameHigher := same higher (by omega)
      exact none higher less ⟨found, (Source.names_congr sameHigher).mp namesFound⟩
    rw [Source.addressKey_of_first namesOther noneOther, Source.addressKey_of_first names none]
  peers peer otherPeer unusable unusableOther := by
    rw [addressKey_of_none unusable, addressKey_of_none unusableOther,
      (compose_injective .ip).eq_iff, IpAddress.render_injective.eq_iff]
  unknown peer unusable := by
    have written : "ip:unknown" = Key.compose .ip "unknown" := by decide
    rw [addressKey_of_none unusable, written, (compose_injective .ip).eq_iff]
    cases peer with
    | none => simp
    | some peer => simp [render_ne_unknown]

/-- An empty first entry is passed over, and the ends of a peer's address that are none of it
have no part in the key. -/
theorem located_of_empty_entry :
    let headers : Headers :=
      [.ofName "X-Forwarded-For" (Header.bytesOf " , 4.4.4.4"),
        .ofName "X-Real-IP" (Header.bytesOf " 2.2.2.2")]
    let loopback : Ipv6 := ⟨#v[0, 0, 0, 0, 0, 0, 0, 1]⟩
    Source.real.Names headers "2.2.2.2" ∧ ¬Source.forwarded.IsUsable headers ∧
      addressKey headers none = "ip:2.2.2.2" ∧
      addressKey [] (some (.v6 loopback 80 0 0)) = addressKey [] (some (.v6 loopback 81 1 2)) := by
  intro headers loopback
  have names : Source.real.Names headers "2.2.2.2" :=
    Source.address?_eq_some_iff.mp (by decide +kernel)
  have unusable : ¬Source.forwarded.IsUsable headers :=
    Source.address?_eq_none_iff.mp (by decide +kernel)
  have higher : ∀ higher : Source, higher.rank < Source.real.rank → ¬higher.IsUsable headers := by
    intro higher less
    cases higher with
    | forwarded => exact unusable
    | real | remote => simp [Source.rank] at less
  have nothing : ∀ source : Source, ¬source.IsUsable [] :=
    fun source => Source.address?_eq_none_iff.mp rfl
  exact ⟨names, unusable, located.first none names higher,
    (located.peers _ _ nothing nothing).mpr rfl⟩

end Caller

end Turnstile
