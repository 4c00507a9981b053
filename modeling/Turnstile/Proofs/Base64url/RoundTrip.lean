import Mathlib.Data.List.Basic
import Turnstile.Base64url

/-!
# Base64 has one spelling

Decoding accepts the padded text of some bytes and nothing else, and gives back these
bytes (`decode?_eq_some_iff`). A segment is padded before it is decoded, so it is read
as the bytes whose text it is with none, some or all of the padding
(`decode?_pad_eq_some_iff`); `=` in any other place or number is not read.
-/

namespace Turnstile.Base64url

/-- The text of bytes with all of its padding. -/
def padded (bytes : List UInt8) : List Char :=
  encode bytes ++ List.replicate (missing (encode bytes).length) '='

/-! ## Digits -/

/-- A 6-bit number is read back from its character. -/
theorem value?_digit : ∀ n < 64, value? (digit n) = some n := by decide

/-- A character that stands for a 6-bit number is the one that is written for it. -/
theorem digit_of_value? {c : Char} {n : Nat} (read : value? c = some n) :
    n < 64 ∧ digit n = c := by
  have named : ∀ code, c.toNat = code → Char.ofNat code = c := by
    rintro _ rfl
    exact Char.ofNat_toNat c
  have code : c.val.toNat = c.toNat := rfl
  have ends : 'A'.val.toNat = 65 ∧ 'Z'.val.toNat = 90 ∧ 'a'.val.toNat = 97 ∧
      'z'.val.toNat = 122 ∧ '0'.val.toNat = 48 ∧ '9'.val.toNat = 57 := by decide
  simp only [value?, Char.le_def, UInt32.le_iff_toNat_le, ends, code] at read
  unfold digit
  split at read
  · next upper =>
      cases read
      refine ⟨by omega, ?_⟩
      rw [if_pos (by omega)]
      exact named _ (by omega)
  split at read
  · next lower =>
      cases read
      refine ⟨by omega, ?_⟩
      rw [if_neg (by omega), if_pos (by omega)]
      exact named _ (by omega)
  split at read
  · next figure =>
      cases read
      refine ⟨by omega, ?_⟩
      rw [if_neg (by omega), if_neg (by omega), if_pos (by omega)]
      exact named _ (by omega)
  split at read
  · next minus =>
      cases read
      exact ⟨by decide, minus.symm⟩
  split at read
  · next low =>
      cases read
      exact ⟨by decide, low.symm⟩
  · cases read

/-- A digit is none of the two marks that divide a token. -/
theorem digit_ne_mark : ∀ n < 64, digit n ≠ '=' ∧ digit n ≠ '.' := by decide

private theorem utf8Size_digit : ∀ n < 64, (digit n).utf8Size = 1 := by decide

/-- The characters of a text are digits. -/
theorem eq_digit_of_mem_encode {bytes : List UInt8} {c : Char} (member : c ∈ encode bytes) :
    ∃ n < 64, c = digit n := by
  fun_induction encode bytes with
  | case1 => cases member
  | case2 a n =>
      have bound := a.toNat_lt
      simp only [List.mem_cons, List.not_mem_nil, or_false] at member
      rcases member with rfl | rfl
      · exact ⟨_, by omega, rfl⟩
      · exact ⟨_, by omega, rfl⟩
  | case3 a b n =>
      have bound := a.toNat_lt
      have bound' := b.toNat_lt
      simp only [List.mem_cons, List.not_mem_nil, or_false] at member
      rcases member with rfl | rfl | rfl
      · exact ⟨_, by omega, rfl⟩
      · exact ⟨_, by omega, rfl⟩
      · exact ⟨_, by omega, rfl⟩
  | case4 a b c rest n ih =>
      have bound := a.toNat_lt
      have bound' := b.toNat_lt
      have bound'' := c.toNat_lt
      simp only [List.mem_cons] at member
      rcases member with rfl | rfl | rfl | rfl | further
      · exact ⟨_, by omega, rfl⟩
      · exact ⟨_, by omega, rfl⟩
      · exact ⟨_, by omega, rfl⟩
      · exact ⟨_, by omega, rfl⟩
      · exact ih further

/-! ## Groups -/

/-- A whole group is read back. -/
private theorem group?_digits (a b c : UInt8) :
    let n := (a.toNat * 256 + b.toNat) * 256 + c.toNat
    group? (digit (n / 262144)) (digit (n / 4096 % 64)) (digit (n / 64 % 64)) (digit (n % 64)) =
      some [a, b, c] := by
  intro n
  have boundA := a.toNat_lt
  have boundB := b.toNat_lt
  have boundC := c.toNat_lt
  have whole : ((n / 262144 * 64 + n / 4096 % 64) * 64 + n / 64 % 64) * 64 + n % 64 = n := by
    omega
  simp only [group?, value?_digit _ (show n / 262144 < 64 by omega),
    value?_digit _ (Nat.mod_lt _ (show 64 > 0 by decide)), Option.bind_eq_bind, Option.bind_some,
    whole, Option.some.injEq, List.cons.injEq, and_true, ← UInt8.toNat_inj, UInt8.toNat_ofNat']
  omega

/-- A last group of two characters is read back. -/
private theorem lastByte?_digits (a : UInt8) :
    let n := a.toNat * 16
    lastByte? (digit (n / 64)) (digit (n % 64)) = some [a] := by
  intro n
  have boundA := a.toNat_lt
  have whole : n / 64 * 64 + n % 64 = n := by omega
  have clear : n % 16 = 0 := by omega
  simp only [lastByte?, value?_digit _ (show n / 64 < 64 by omega),
    value?_digit _ (Nat.mod_lt _ (show 64 > 0 by decide)), Option.bind_eq_bind, Option.bind_some,
    whole, clear, if_true, Option.some.injEq, List.cons.injEq, and_true, ← UInt8.toNat_inj,
    UInt8.toNat_ofNat']
  omega

/-- A last group of three characters is read back. -/
private theorem lastPair?_digits (a b : UInt8) :
    let n := (a.toNat * 256 + b.toNat) * 4
    lastPair? (digit (n / 4096)) (digit (n / 64 % 64)) (digit (n % 64)) = some [a, b] := by
  intro n
  have boundA := a.toNat_lt
  have boundB := b.toNat_lt
  have whole : (n / 4096 * 64 + n / 64 % 64) * 64 + n % 64 = n := by omega
  have clear : n % 4 = 0 := by omega
  simp only [lastPair?, value?_digit _ (show n / 4096 < 64 by omega),
    value?_digit _ (Nat.mod_lt _ (show 64 > 0 by decide)), Option.bind_eq_bind, Option.bind_some,
    whole, clear, if_true, Option.some.injEq, List.cons.injEq, and_true, ← UInt8.toNat_inj,
    UInt8.toNat_ofNat']
  omega

/-- A whole group that is read is the text of the bytes it is read as. -/
private theorem encode_of_group? {a b c d : Char} {bytes : List UInt8}
    (read : group? a b c d = some bytes) (rest : List UInt8) :
    encode (bytes ++ rest) = a :: b :: c :: d :: encode rest := by
  simp only [group?, Option.bind_eq_bind, Option.bind_eq_some_iff, Option.some.injEq] at read
  obtain ⟨x, readA, y, readB, z, readC, w, readD, rfl⟩ := read
  obtain ⟨boundX, rfl⟩ := digit_of_value? readA
  obtain ⟨boundY, rfl⟩ := digit_of_value? readB
  obtain ⟨boundZ, rfl⟩ := digit_of_value? readC
  obtain ⟨boundW, rfl⟩ := digit_of_value? readD
  simp only [List.cons_append, List.nil_append, encode, UInt8.toNat_ofNat', List.cons.injEq,
    and_true]
  refine ⟨congrArg digit ?_, congrArg digit ?_, congrArg digit ?_, congrArg digit ?_⟩
  all_goals omega

/-- A last group of two characters that is read is the text of one byte. -/
private theorem encode_of_lastByte? {a b : Char} {bytes : List UInt8}
    (read : lastByte? a b = some bytes) : encode bytes = [a, b] := by
  simp only [lastByte?, Option.bind_eq_bind, Option.bind_eq_some_iff,
    Option.ite_none_right_eq_some, Option.some.injEq] at read
  obtain ⟨x, readA, y, readB, clear, rfl⟩ := read
  obtain ⟨boundX, rfl⟩ := digit_of_value? readA
  obtain ⟨boundY, rfl⟩ := digit_of_value? readB
  simp only [encode, UInt8.toNat_ofNat', List.cons.injEq, and_true]
  refine ⟨congrArg digit ?_, congrArg digit ?_⟩
  all_goals omega

/-- A last group of three characters that is read is the text of two bytes. -/
private theorem encode_of_lastPair? {a b c : Char} {bytes : List UInt8}
    (read : lastPair? a b c = some bytes) : encode bytes = [a, b, c] := by
  simp only [lastPair?, Option.bind_eq_bind, Option.bind_eq_some_iff,
    Option.ite_none_right_eq_some, Option.some.injEq] at read
  obtain ⟨x, readA, y, readB, z, readC, clear, rfl⟩ := read
  obtain ⟨boundX, rfl⟩ := digit_of_value? readA
  obtain ⟨boundY, rfl⟩ := digit_of_value? readB
  obtain ⟨boundZ, rfl⟩ := digit_of_value? readC
  simp only [encode, UInt8.toNat_ofNat', List.cons.injEq, and_true]
  refine ⟨congrArg digit ?_, congrArg digit ?_, congrArg digit ?_⟩
  all_goals omega

/-! ## Whole texts -/

/-- Whole groups come before the padding and do not change it. -/
private theorem padded_of_encode {bytes rest : List UInt8} {a b c d : Char}
    (group : encode bytes = a :: b :: c :: d :: encode rest) :
    padded bytes = a :: b :: c :: d :: padded rest := by
  have size : missing (encode bytes).length = missing (encode rest).length := by
    rw [group]
    simp only [missing, List.length_cons]
    omega
  rw [padded, size, group]
  rfl

/-- The padded text of bytes is read back. -/
theorem decode?_padded (bytes : List UInt8) : decode? (padded bytes) = some bytes := by
  fun_induction encode bytes with
  | case1 => rfl
  | case2 a n => exact lastByte?_digits a
  | case3 a b n =>
      have notMark := (digit_ne_mark (n % 64) (Nat.mod_lt _ (by decide))).1
      change decode? [_, _, _, '='] = _
      rw [decode?]
      · exact lastPair?_digits a b
      · exact notMark
  | case4 a b c rest n inductionHypothesis =>
      have notMark := (digit_ne_mark (n % 64) (Nat.mod_lt _ (by decide))).1
      rw [padded_of_encode (encode.eq_4 a b c rest), decode?, group?_digits, inductionHypothesis]
      · rfl
      · exact fun _ mark _ => notMark mark
      · exact fun mark _ => notMark mark

/-- A text that is read is the padded one of the bytes it is read as. -/
theorem eq_padded_of_decode? {chars : List Char} {bytes : List UInt8}
    (read : decode? chars = some bytes) : chars = padded bytes := by
  fun_induction decode? chars generalizing bytes with
  | case1 =>
      cases read
      rfl
  | case2 a b =>
      rw [padded, encode_of_lastByte? read]
      rfl
  | case3 a b c notMark =>
      rw [padded, encode_of_lastPair? read]
      rfl
  | case4 a b c d rest _ _ inductionHypothesis =>
      simp only [Option.bind_eq_bind, Option.bind_eq_some_iff, Option.some.injEq] at read
      obtain ⟨first, readFirst, further, readRest, rfl⟩ := read
      rw [inductionHypothesis readRest, padded_of_encode (encode_of_group? readFirst further)]
  | case5 => cases read

/-- Decoding accepts exactly the padded texts of bytes. -/
theorem decode?_eq_some_iff {chars : List Char} {bytes : List UInt8} :
    decode? chars = some bytes ↔ chars = padded bytes := by
  constructor
  · exact eq_padded_of_decode?
  · rintro rfl
    exact decode?_padded bytes

/-! ## Padding that is left out -/

/-- Text of one-byte characters has as many bytes as characters. -/
private theorem utf8ByteSize_of_single {chars : List Char}
    (single : ∀ c ∈ chars, c.utf8Size = 1) :
    (String.ofList chars).utf8ByteSize = chars.length := by
  induction chars with
  | nil => rfl
  | cons c rest inductionHypothesis =>
      have tail := inductionHypothesis fun other member => single other (.tail c member)
      have head : (String.ofList [c]).utf8ByteSize = 1 :=
        String.utf8ByteSize_singleton.trans (single c List.mem_cons_self)
      rw [← List.singleton_append, String.ofList_append, String.utf8ByteSize_append, tail, head,
        List.length_append, List.length_singleton]

/-- A text with some of its padding has one byte for each character. -/
private theorem utf8ByteSize_partly_padded (bytes : List UInt8) (marks : Nat) :
    (String.ofList (encode bytes ++ List.replicate marks '=')).utf8ByteSize =
      (encode bytes).length + marks := by
  rw [utf8ByteSize_of_single, List.length_append, List.length_replicate]
  intro c member
  rcases List.mem_append.mp member with inside | mark
  · obtain ⟨n, small, rfl⟩ := eq_digit_of_mem_encode inside
    exact utf8Size_digit n small
  · rw [List.eq_of_mem_replicate mark]
    rfl

/-- A text in front of `=` that differs from padded text in the count of `=` alone. -/
private theorem eq_append_of_append_replicate {payload text : List Char} {added marks : Nat}
    (clean : '=' ∉ text)
    (same : payload ++ List.replicate added '=' = text ++ List.replicate marks '=') :
    ∃ kept ≤ marks, payload = text ++ List.replicate kept '=' := by
  rcases List.append_eq_append_iff.mp same with ⟨front, rfl, behind⟩ | ⟨front, rfl, behind⟩
  · -- Characters of the text that the added marks would cover are marks themselves.
    cases front with
    | nil => exact ⟨0, Nat.zero_le _, by simp⟩
    | cons c front =>
        have member : c ∈ List.replicate added '=' := by
          rw [behind]
          exact List.mem_cons_self
        obtain rfl := List.eq_of_mem_replicate member
        exact absurd (List.mem_append_right payload List.mem_cons_self) clean
  · obtain ⟨sizes, marked, _⟩ := List.append_eq_replicate_iff.mp behind.symm
    refine ⟨front.length, by omega, ?_⟩
    rw [← marked]

/-- A segment is read, after padding, as the bytes of which it is the text with none,
some or all of the padding. -/
theorem decode?_pad_eq_some_iff {payload : List Char} {bytes : List UInt8} :
    decode? (pad (String.ofList payload)).toList = some bytes ↔
      ∃ marks ≤ missing (encode bytes).length,
        payload = encode bytes ++ List.replicate marks '=' := by
  rw [decode?_eq_some_iff, pad, String.toList_append, String.toList_ofList, String.toList_ofList,
    padded]
  constructor
  · intro same
    refine eq_append_of_append_replicate (fun member => ?_) same
    obtain ⟨n, small, mark⟩ := eq_digit_of_mem_encode member
    exact (digit_ne_mark n small).1 mark.symm
  · rintro ⟨marks, within, rfl⟩
    rw [utf8ByteSize_partly_padded, List.append_assoc, List.replicate_append_replicate]
    congr 2
    unfold missing at within ⊢
    omega

/-- Text without any padding is read as the bytes that it encodes. -/
theorem decode?_pad_encode (bytes : List UInt8) :
    decode? (pad (String.ofList (encode bytes))).toList = some bytes :=
  decode?_pad_eq_some_iff.mpr ⟨0, Nat.zero_le _, by simp⟩

end Turnstile.Base64url
