import Turnstile.Caller
import Turnstile.Proofs.Event.Line
import Turnstile.Proofs.Key.Display
import Turnstile.Proofs.Key.Encoding

/-!
# What headers and addresses put on a line

A header that is no text is not used, so that nothing that is taken from a header can break a
line, and neither can a written address: a key by address is shown on one line
(`Caller.oneLine_display_addressKey`). Of any other key, the characters that are shown decide
(`Key.oneLine_display_iff`).
-/

namespace Turnstile

open Text

/-! ## Texts -/

/-- A header that is text is on one line. -/
theorem Header.oneLine_text? {value : List UInt8} {text : String}
    (read : Header.text? value = some text) : OneLine text.toList := by
  have each : ∀ n < 256, isVisible (UInt8.ofNat n) = true →
      Char.ofNat n ≠ '\n' ∧ Char.ofNat n ≠ '\r' := by
    decide +kernel
  obtain ⟨visible, same⟩ := Option.ite_none_right_eq_some.mp read
  rw [← Option.some.inj same, String.toList_ofList]
  intro c member
  obtain ⟨byte, inside, rfl⟩ := List.mem_map.mp member
  have shown := List.all_eq_true.mp visible byte inside
  exact each byte.toNat byte.toNat_lt (by rwa [UInt8.ofNat_toNat])

theorem Text.oneLine_trim {text : String} (oneLine : OneLine text.toList) :
    OneLine (trim text).toList := by
  refine oneLine.subset fun c member => ?_
  rw [trim, String.toList_ofList, trimChars, List.mem_reverse] at member
  have inner := (List.dropWhile_sublist _).mem member
  exact (List.dropWhile_sublist _).mem (List.mem_reverse.mp inner)

/-! ## Addresses -/

theorem Ipv4.oneLine_chars (address : Ipv4) : OneLine address.chars := by
  have octet (octet : UInt8) : OneLine (octetChars octet) :=
    oneLine_toDigits (by decide) (by decide) _
  simp [chars, octet]

theorem Ipv6.oneLine_joinGroups (groups : List UInt16) : OneLine (joinGroups groups) := by
  have group (group : UInt16) : OneLine (groupChars group) :=
    oneLine_toDigits (by decide) (by decide) _
  induction groups using joinGroups.induct with
  | case1 => exact oneLine_nil
  | case2 only => exact group only
  | case3 first rest _ inductionHypothesis =>
      simp [joinGroups, group, inductionHypothesis]

theorem Ipv6.oneLine_chars (address : Ipv6) : OneLine address.chars := by
  unfold chars
  split
  · next inner _ => simp [inner.oneLine_chars]
  · dsimp only
    split
    · simp [oneLine_joinGroups]
    · exact oneLine_joinGroups _

theorem IpAddress.oneLine_render (address : IpAddress) : OneLine address.render.toList := by
  cases address with
  | v4 address => simpa [render] using address.oneLine_chars
  | v6 address => simpa [render] using address.oneLine_chars

namespace Caller

variable {headers : Headers} {name text inner : String}

theorem oneLine_trimmed? (oneLine : OneLine text.toList) (found : trimmed? text = some inner) :
    OneLine inner.toList := by
  obtain ⟨_, same⟩ := Option.ite_none_left_eq_some.mp found
  rw [← Option.some.inj same]
  exact oneLine_trim oneLine

theorem oneLine_headersText? (found : headers.text? name = some text) : OneLine text.toList := by
  obtain ⟨value, _, read⟩ := Option.bind_eq_some_iff.mp found
  exact Header.oneLine_text? read

/-- An address that a header names is on one line. -/
theorem oneLine_forwardedAddress? (found : forwardedAddress? headers = some text) :
    OneLine text.toList := by
  have whole {name : String} (found : headerText? headers name = some text) :
      OneLine text.toList := by
    obtain ⟨held, there, trimmed⟩ := Option.bind_eq_some_iff.mp found
    exact oneLine_trimmed? (oneLine_headersText? there) trimmed
  rcases Option.or_eq_some_iff.mp found with forwarded | ⟨_, found⟩
  · obtain ⟨held, there, trimmed⟩ := Option.bind_eq_some_iff.mp forwarded
    refine oneLine_trimmed? ((oneLine_headersText? there).subset fun c member => ?_) trimmed
    rw [beforeComma, String.toList_ofList] at member
    exact (List.takeWhile_sublist _).mem member
  · rcases Option.or_eq_some_iff.mp found with real | ⟨_, remote⟩
    · exact whole real
    · exact whole remote

end Caller

/-! ## Shown keys -/

/-- An identifier is shown on one line exactly if its first hundred characters are on one. -/
theorem Key.oneLine_display_iff {key : String} :
    OneLine (display key).toList ↔ OneLine ((identifier key).toList.take 100) := by
  rw [display_eq, abbreviated]
  split
  · next short => rw [String.toList_ofList, List.take_of_length_le short]
  · simp

/-- The key of an address is shown on one line. -/
theorem Caller.oneLine_display_addressKey (headers : Headers) (peer : Option SocketAddress) :
    OneLine (Key.display (addressKey headers peer)).toList := by
  have named : ∃ address, addressKey headers peer = Key.compose .ip address ∧
      OneLine address.toList := by
    refine ⟨_, rfl, ?_⟩
    split
    · next found => exact oneLine_forwardedAddress? found
    · exact IpAddress.oneLine_render _
    · decide
  obtain ⟨address, key, oneLine⟩ := named
  rw [Key.oneLine_display_iff, key, Key.identifier_compose (by decide)]
  exact oneLine.subset (List.take_subset 100 _)

end Turnstile
