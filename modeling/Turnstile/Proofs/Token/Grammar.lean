import Mathlib.Data.List.TakeWhile
import Turnstile.Proofs.Base64url.RoundTrip
import Turnstile.Proofs.Json.RoundTrip
import Turnstile.Proofs.Text.Blank
import Turnstile.Token

/-!
# The tokens that have claims

A token with claims is three segments, the second of which is base64 of the UTF-8 text of
a JSON object (`read_eq_ok_iff`). All else about it is its `Frame`: the first and the last
segment, the padding that the payload keeps and the dots at the end. No frame that fits
the bytes of a token has a say in what is read, whether that is claims or a failure.
-/

namespace Turnstile.Token

/-! ## Segments -/

/-- Some segment always comes first. -/
private theorem splitDots_ne_nil (chars : List Char) : splitDots chars ≠ [] := by
  cases chars with
  | nil => nofun
  | cons c rest =>
      rw [splitDots]
      split
      · nofun
      · split <;> nofun

/-- Characters without a dot go to the first segment of what follows. -/
private theorem splitDots_append {segment : List Char} (clean : '.' ∉ segment)
    {chars first : List Char} {others : List (List Char)}
    (split : splitDots chars = first :: others) :
    splitDots (segment ++ chars) = (segment ++ first) :: others := by
  induction segment with
  | nil => exact split
  | cons c segment inductionHypothesis =>
      obtain ⟨notDot, rest⟩ := not_or.mp (mt List.mem_cons.mpr clean)
      rw [List.cons_append, splitDots, if_neg (Ne.symm notDot), inductionHypothesis rest]
      rfl

/-- Segments without dots are found again. -/
private theorem splitDots_joined {first : List Char} {others : List (List Char)}
    (clean : ∀ segment ∈ first :: others, '.' ∉ segment) :
    splitDots (first ++ others.flatMap ('.' :: ·)) = first :: others := by
  induction others generalizing first with
  | nil =>
      have whole := splitDots_append (clean first List.mem_cons_self)
        (show splitDots [] = [[]] from rfl)
      rw [List.append_nil] at whole
      rw [List.flatMap_nil, List.append_nil, whole]
  | cons second others inductionHypothesis =>
      have dot : splitDots ('.' :: (second ++ others.flatMap ('.' :: ·))) =
          [] :: second :: others := by
        rw [splitDots, if_pos rfl,
          inductionHypothesis fun segment member => clean segment (.tail first member)]
      have whole := splitDots_append (clean first List.mem_cons_self) dot
      rwa [List.append_nil] at whole

/-- The segments have no dots, and are the text with a dot before each but the first. -/
private theorem joined_of_splitDots {chars first : List Char} {others : List (List Char)}
    (split : splitDots chars = first :: others) :
    (∀ segment ∈ first :: others, '.' ∉ segment) ∧
      chars = first ++ others.flatMap ('.' :: ·) := by
  induction chars generalizing first others with
  | nil =>
      cases split
      simp
  | cons c rest inductionHypothesis =>
      obtain ⟨head, tail, behind⟩ := List.exists_cons_of_ne_nil (splitDots_ne_nil rest)
      obtain ⟨clean, joined⟩ := inductionHypothesis behind
      rw [splitDots, behind] at split
      by_cases dot : c = '.'
      · rw [if_pos dot] at split
        cases split
        refine ⟨?_, ?_⟩
        · simpa using clean
        · rw [joined, dot]
          rfl
      · rw [if_neg dot] at split
        cases split
        refine ⟨?_, ?_⟩
        · have notDot : '.' ≠ c := Ne.symm dot
          simpa [notDot] using clean
        · rw [joined]
          rfl

/-- What is left of a list without its last elements of one sort ends in an element of
another. -/
private theorem stripped_eq_iff {α : Type} {strip : α → Bool} {chain front : List α} {last : α} :
    (chain.reverse.dropWhile strip).reverse = front ++ [last] ↔
      strip last = false ∧
        ∃ behind, (∀ each ∈ behind, strip each = true) ∧ chain = front ++ last :: behind := by
  constructor
  · intro stripped
    have rest : chain.reverse.dropWhile strip = last :: front.reverse := by
      rw [← List.reverse_reverse (chain.reverse.dropWhile strip), stripped]
      simp
    refine ⟨?_, (chain.reverse.takeWhile strip).reverse, ?_, ?_⟩
    · have notStripped := List.head_dropWhile_not strip (l := chain.reverse) (by simp [rest])
      simpa [rest] using notStripped
    · intro each member
      exact List.mem_takeWhile_imp (List.mem_reverse.mp member)
    · have whole := List.takeWhile_append_dropWhile (p := strip) (l := chain.reverse)
      rw [rest] at whole
      have mirrored := congrArg List.reverse whole
      rw [List.reverse_reverse] at mirrored
      simpa using mirrored.symm
  · rintro ⟨kept, behind, all, rfl⟩
    have notStripped : ¬strip last = true := Bool.eq_false_iff.mp kept
    rw [List.reverse_append, List.reverse_cons, List.append_assoc,
      List.dropWhile_append_of_pos (by simpa using all), List.singleton_append,
      List.dropWhile_cons_of_neg notStripped]
    simp

private theorem flatMap_empty (dots : Nat) :
    (List.replicate dots []).flatMap ('.' :: ·) = List.replicate dots '.' := by
  induction dots with
  | zero => rfl
  | succ dots inductionHypothesis =>
      rw [List.replicate_succ, List.flatMap_cons, inductionHypothesis, List.replicate_succ]
      rfl

/-- A token has three segments exactly if it is three texts without dots, the last of them
not empty, with a dot between each two and any number of dots behind. -/
theorem segments_eq_iff {token : String} {header payload signature : List Char} :
    segments token = [header, payload, signature] ↔
      ('.' ∉ header ∧ '.' ∉ payload ∧ '.' ∉ signature) ∧ signature ≠ [] ∧
        ∃ dots, token.toList = header ++ '.' :: payload ++ '.' :: signature ++
          List.replicate dots '.' := by
  have three : [header, payload, signature] = [header, payload] ++ [signature] := rfl
  rw [segments, three, stripped_eq_iff]
  constructor
  · rintro ⟨signed, behind, empty, split⟩
    obtain ⟨clean, joined⟩ := joined_of_splitDots split
    have blank : behind = List.replicate behind.length [] :=
      List.eq_replicate_of_mem fun segment member => by simpa using empty segment member
    refine ⟨⟨?_, ?_, ?_⟩, ?_, behind.length, ?_⟩
    · exact clean header (by simp)
    · exact clean payload (by simp)
    · exact clean signature (by simp)
    · simpa using signed
    · rw [joined, ← flatMap_empty, ← blank]
      simp
  · rintro ⟨⟨cleanHeader, cleanPayload, cleanSignature⟩, signed, dots, spelled⟩
    refine ⟨by simpa using signed, List.replicate dots [], ?_, ?_⟩
    · intro segment member
      rw [List.eq_of_mem_replicate member]
      rfl
    · have clean : ∀ segment ∈ header :: payload :: signature :: List.replicate dots [],
          '.' ∉ segment := by
        intro segment member
        simp only [List.mem_cons, List.mem_replicate] at member
        rcases member with rfl | rfl | rfl | ⟨_, rfl⟩
        · exact cleanHeader
        · exact cleanPayload
        · exact cleanSignature
        · exact List.not_mem_nil
      have split := splitDots_joined clean
      rw [List.flatMap_cons, List.flatMap_cons, flatMap_empty] at split
      rw [spelled]
      simpa using split

/-! ## Payloads -/

/-- A payload segment holds claims exactly if it is decoded to bytes that spell a JSON
object of these claims. -/
theorem claimsOf_eq_ok_iff {payload : List Char} {claims : Claims} :
    claimsOf payload = .ok claims ↔
      ∃ bytes, Base64url.decode? (Base64url.pad (String.ofList payload)).toList = some bytes ∧
        Json.ofBytes? bytes = some (.object claims.members) := by
  unfold claimsOf
  constructor
  · intro read
    split at read
    · cases read
    · next bytes decoded =>
        split at read
        · next members spelled =>
            cases read
            exact ⟨bytes, decoded, spelled⟩
        · cases read
        · cases read
  · rintro ⟨bytes, decoded, spelled⟩
    simp only [decoded, spelled]

/-- How much of the padding a payload segment keeps does not matter. -/
theorem claimsOf_partly_padded {bytes : List UInt8} {marks : Nat}
    (within : marks ≤ Base64url.missing (Base64url.encode bytes).length) :
    claimsOf (Base64url.encode bytes ++ List.replicate marks '=') =
      claimsOf (Base64url.encode bytes) := by
  have decoded := Base64url.decode?_pad_eq_some_iff.mpr ⟨marks, within, rfl⟩
  unfold claimsOf
  rw [decoded, Base64url.decode?_pad_encode]

/-! ## Tokens -/

/-- What a token that carries some bytes is free in: the two segments beside the payload,
how much of the padding the payload keeps, and how many dots stand behind. -/
structure Frame where
  header : List Char
  signature : List Char
  marks : Nat := 0
  dots : Nat := 0

namespace Frame

/-- A frame that makes a token of some bytes. -/
structure Fits (frame : Frame) (bytes : List UInt8) : Prop where
  header : '.' ∉ frame.header
  signature : '.' ∉ frame.signature
  signed : frame.signature ≠ []
  marks : frame.marks ≤ Base64url.missing (Base64url.encode bytes).length

/-- The payload segment that carries some bytes. -/
def payload (frame : Frame) (bytes : List UInt8) : List Char :=
  Base64url.encode bytes ++ List.replicate frame.marks '='

/-- The token that carries some bytes. -/
def token (frame : Frame) (bytes : List UInt8) : String :=
  String.ofList (frame.header ++ '.' :: frame.payload bytes ++ '.' :: frame.signature ++
    List.replicate frame.dots '.')

theorem dot_notMem_payload (frame : Frame) (bytes : List UInt8) : '.' ∉ frame.payload bytes := by
  intro member
  rcases List.mem_append.mp member with inside | mark
  · obtain ⟨n, small, dot⟩ := Base64url.eq_digit_of_mem_encode inside
    exact (Base64url.digit_ne_mark n small).2 dot.symm
  · cases List.eq_of_mem_replicate mark

/-- The segments of a token in a frame are those that the frame puts together. -/
theorem segments_token {frame : Frame} {bytes : List UInt8} (fits : frame.Fits bytes) :
    segments (frame.token bytes) = [frame.header, frame.payload bytes, frame.signature] :=
  segments_eq_iff.mpr ⟨⟨fits.header, frame.dot_notMem_payload bytes, fits.signature⟩,
    fits.signed, frame.dots, String.toList_ofList⟩

end Frame

/-- A token of three segments is read as its second one says. -/
theorem read_of_segments {token : String} {header payload signature : List Char}
    (found : segments token = [header, payload, signature]) : read token = claimsOf payload := by
  have filled : Text.isBlank token = false := by
    obtain ⟨_, _, dots, spelled⟩ := segments_eq_iff.mp found
    have dot : '.' ∈ token.toList := by
      rw [spelled]
      simp
    exact Text.isBlank_of_mem dot (by decide)
  rw [read, filled, found]
  rfl

/-- A token with claims has three segments, and the claims are those of the second. -/
theorem segments_of_read {token : String} {claims : Claims} (accepted : read token = .ok claims) :
    ∃ header payload signature,
      segments token = [header, payload, signature] ∧ claimsOf payload = .ok claims := by
  unfold read at accepted
  split at accepted
  · cases accepted
  split at accepted
  · next header payload signature found => exact ⟨header, payload, signature, found, accepted⟩
  · cases accepted

/-- A token is read as the bytes that it carries say. -/
theorem read_token {frame : Frame} {bytes : List UInt8} (fits : frame.Fits bytes) :
    read (frame.token bytes) = claimsOf (Base64url.encode bytes) :=
  (read_of_segments (Frame.segments_token fits)).trans (claimsOf_partly_padded fits.marks)

/-- The claims of bytes are the members of the object that they spell. -/
theorem claimsOf_encode_eq_ok_iff {bytes : List UInt8} {claims : Claims} :
    claimsOf (Base64url.encode bytes) = .ok claims ↔
      Json.ofBytes? bytes = some (.object claims.members) := by
  simp only [claimsOf_eq_ok_iff, Base64url.decode?_pad_encode, Option.some.injEq, exists_eq_left']

/-- A token has claims exactly if it carries bytes, in some frame, that spell an object of
these claims. The frame of a token plays no part in what is read. -/
theorem read_eq_ok_iff :
    (∀ token claims, read token = .ok claims ↔
      ∃ (bytes : List UInt8) (frame : Frame), frame.Fits bytes ∧ token = frame.token bytes ∧
        Json.ofBytes? bytes = some (.object claims.members)) ∧
      ∀ (bytes : List UInt8) (frame other : Frame), frame.Fits bytes → other.Fits bytes →
        read (frame.token bytes) = read (other.token bytes) := by
  refine ⟨fun token claims => ⟨fun accepted => ?_, ?_⟩, fun bytes frame other fits fitsOther => ?_⟩
  · obtain ⟨header, payload, signature, found, accepted⟩ := segments_of_read accepted
    obtain ⟨bytes, decoded, spelled⟩ := claimsOf_eq_ok_iff.mp accepted
    obtain ⟨marks, within, rfl⟩ := Base64url.decode?_pad_eq_some_iff.mp decoded
    obtain ⟨⟨cleanHeader, _, cleanSignature⟩, signed, dots, joined⟩ := segments_eq_iff.mp found
    refine ⟨bytes, ⟨header, signature, marks, dots⟩,
      ⟨cleanHeader, cleanSignature, signed, within⟩, ?_, spelled⟩
    rw [← String.ofList_toList (s := token), joined]
    rfl
  · rintro ⟨bytes, frame, fits, rfl, spelled⟩
    rw [read_token fits, claimsOf_encode_eq_ok_iff]
    exact spelled
  · rw [read_token fits, read_token fitsOther]

/-- The token of an empty object in two frames. -/
theorem read_eq_ok_iff_of_empty_object :
    let bytes : List UInt8 := [123, 125]
    let frame : Frame := ⟨[], ['s'], 0, 0⟩
    let other : Frame := ⟨['h'], ['='], 1, 2⟩
    frame.token bytes = ".e30.s" ∧ other.token bytes = "h.e30=.=.." ∧
      read ".e30.s" = .ok ⟨[]⟩ ∧ read ".e30.s" = read "h.e30=.=.." := by
  intro bytes frame other
  have fits : frame.Fits bytes := ⟨by decide, by decide, by decide, by decide⟩
  have fitsOther : other.Fits bytes := ⟨by decide, by decide, by decide, by decide⟩
  have readable : Json.Readable Json.depthLimit (.object []) := .object (by simp) (by simp)
  have spelled : Json.ofBytes? bytes = some (.object []) := Json.ofBytes?_bytes readable
  refine ⟨by decide, by decide, ?_, read_eq_ok_iff.2 bytes frame other fits fitsOther⟩
  exact (read_eq_ok_iff.1 _ _).mpr ⟨bytes, frame, fits, rfl, spelled⟩

end Turnstile.Token
