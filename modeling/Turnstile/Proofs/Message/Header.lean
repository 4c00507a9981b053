import Turnstile.Message.Header
import Turnstile.Proofs.Text.Blank

/-!
# Header values as text

Printable ASCII that is put into a header is read out of it as it was (`text?_bytesOf`).
A value is read piece by piece (`text?_append`), and spaces and tabs are read as white
space (`IsGap.text?`).
-/

namespace Turnstile

namespace Header

/-- A character that a header shows as it is. -/
def IsPrintable (c : Char) : Prop := 32 ≤ c.toNat ∧ c.toNat < 127

instance (c : Char) : Decidable (IsPrintable c) :=
  inferInstanceAs (Decidable (32 ≤ c.toNat ∧ c.toNat < 127))

private theorem toNat_ofNat {c : Char} (printable : IsPrintable c) :
    (UInt8.ofNat c.toNat).toNat = c.toNat :=
  UInt8.toNat_ofNat_of_lt' (Nat.lt_trans printable.2 (by decide))

private theorem isVisible_ofNat {c : Char} (printable : IsPrintable c) :
    isVisible (UInt8.ofNat c.toNat) = true := by
  have low : 32 ≤ UInt8.ofNat c.toNat := by
    rw [UInt8.le_iff_toNat_le, toNat_ofNat printable]
    exact printable.1
  have high : UInt8.ofNat c.toNat < 127 := by
    rw [UInt8.lt_iff_toNat_lt, toNat_ofNat printable]
    exact printable.2
  simp only [isVisible, low, high, decide_true, Bool.and_self, Bool.true_or]

/-- Printable text is read back from its bytes. -/
theorem text?_bytesOf {text : String} (printable : ∀ c ∈ text.toList, IsPrintable c) :
    text? (bytesOf text) = some text := by
  have visible : (bytesOf text).all isVisible = true := by
    rw [bytesOf, List.all_map, List.all_eq_true]
    exact fun c member => isVisible_ofNat (printable c member)
  have back : (bytesOf text).map (fun byte => Char.ofNat byte.toNat) = text.toList := by
    rw [bytesOf, List.map_map]
    refine (List.map_congr_left fun c member => ?_).trans (List.map_id _)
    rw [Function.comp_apply, toNat_ofNat (printable c member), Char.ofNat_toNat]
    rfl
  rw [text?, if_pos visible, back, String.ofList_toList]

theorem bytesOf_append (first second : String) :
    bytesOf (first ++ second) = bytesOf first ++ bytesOf second := by
  rw [bytesOf, String.toList_append, List.map_append]
  rfl

/-- Two values one after another are text exactly if both are. -/
theorem text?_append (first second : List UInt8) :
    text? (first ++ second) =
      (text? first).bind fun front => (text? second).map fun behind => front ++ behind := by
  unfold text?
  rw [List.all_append, List.map_append]
  by_cases readable : first.all isVisible = true
  · by_cases readableToo : second.all isVisible = true
    · simp [readable, readableToo]
    · simp [readable, readableToo]
  · simp [readable]

/-- Bytes that are spaces and tabs. -/
def IsGap (bytes : List UInt8) : Prop :=
  ∀ byte ∈ bytes, byte = 32 ∨ byte = 9

instance (bytes : List UInt8) : Decidable (IsGap bytes) :=
  List.decidableBAll _ bytes

/-- Spaces and tabs are blank text. -/
theorem IsGap.text? {bytes : List UInt8} (gap : IsGap bytes) :
    ∃ blank, Header.text? bytes = some blank ∧ Text.isBlank blank = true := by
  have visible : bytes.all isVisible = true := by
    rw [List.all_eq_true]
    intro byte member
    rcases gap byte member with rfl | rfl <;> rfl
  refine ⟨_, if_pos visible, ?_⟩
  rw [Text.isBlank, String.toList_ofList, List.all_map, List.all_eq_true]
  intro byte member
  rcases gap byte member with rfl | rfl <;> rfl

end Header

end Turnstile
