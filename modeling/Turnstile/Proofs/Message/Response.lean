import Turnstile.Message.Response
import Turnstile.Message.Request
import Turnstile.Proofs.Message.Header

/-!
# What the layers leave of a response

A layer may add a header that is not there yet, and the method may take the body
away. Nothing else changes: the status stays, and so do the values under all other
names (`values_withDefault`).
-/

namespace Turnstile

namespace Response

/-- The values under a name, each as text if it is text. -/
def texts (response : Response) (name : String) : List (Option String) :=
  (response.headers.filter fun header => header.name = name).map fun header =>
    Header.text? header.value

/-- The values under a name. -/
def values (response : Response) (name : String) : List (List UInt8) :=
  (response.headers.filter fun header => header.name = name).map Header.value

theorem texts_eq_map_values (response : Response) (name : String) :
    response.texts name = (response.values name).map Header.text? := by
  rw [texts, values, List.map_map]
  rfl

/-- A number in a header is read back. -/
theorem text?_numberField (name : String) (value : Nat) :
    Header.text? (numberField name value).value = some (toString value) := by
  rw [Nat.toString_eq_ofList_toDigits]
  refine Header.text?_bytesOf fun c member => ?_
  rw [String.toList_ofList] at member
  have digit := Nat.isDigit_of_mem_toDigits (by decide) (by decide) member
  simp only [Char.isDigit, Bool.and_eq_true, decide_eq_true_eq, ge_iff_le,
    UInt32.le_iff_toNat_le] at digit
  have low : '0'.val.toNat = 48 := rfl
  have high : '9'.val.toNat = 57 := rfl
  have code : c.toNat = c.val.toNat := rfl
  constructor
  · omega
  · omega

/-! ## Layers -/

@[simp] theorem withDefault_status (name : String) (value : List UInt8) (response : Response) :
    (response.withDefault name value).status = response.status := by
  unfold withDefault
  split <;> rfl

@[simp] theorem withDefault_body (name : String) (value : List UInt8) (response : Response) :
    (response.withDefault name value).body = response.body := by
  unfold withDefault
  split <;> rfl

/-- A header that is put in leaves the values under another name as they are. -/
theorem values_withDefault {name other : String} (different : other ≠ name)
    (value : List UInt8) (response : Response) :
    (response.withDefault name value).values other = response.values other := by
  unfold withDefault
  split
  · rfl
  · simp [values, Ne.symm different]

theorem texts_withDefault {name other : String} (different : other ≠ name)
    (value : List UInt8) (response : Response) :
    (response.withDefault name value).texts other = response.texts other := by
  rw [texts_eq_map_values, values_withDefault different, ← texts_eq_map_values]

/-- A header that is missing is put in with the one value. -/
theorem values_withDefault_self {name : String} {response : Response}
    (missing : response.values name = []) (value : List UInt8) :
    (response.withDefault name value).values name = [value] := by
  have none : response.headers.filter (fun header => header.name = name) = [] :=
    List.map_eq_nil_iff.mp missing
  have noFirst : response.header? name = .none := by
    rw [header?, Headers.first?, ← List.head?_filter, none]
    rfl
  rw [withDefault, noFirst, values, List.filter_append, none]
  simp

@[simp] theorem forMethod_status (method : String) (response : Response) :
    (response.forMethod method).status = response.status := by
  unfold forMethod
  split
  · rfl
  · split
    · exact withDefault_status _ _ response
    · exact withDefault_status _ _ response

/-- A response keeps its body but for two methods. -/
theorem forMethod_body {method : String} (response : Response) (notHead : method ≠ "HEAD")
    (notConnect : method ≠ "CONNECT") : (response.forMethod method).body = response.body := by
  unfold forMethod
  rw [if_neg fun tunnel => notConnect tunnel.1, if_neg notHead]
  exact withDefault_body _ _ response

/-- A method leaves the values under a name as they are, but for the length. -/
theorem values_forMethod {name : String} (different : name ≠ "content-length")
    (method : String) (response : Response) :
    (response.forMethod method).values name = response.values name := by
  unfold forMethod
  split
  · rfl
  · split
    · exact values_withDefault different _ response
    · exact values_withDefault different _ response

theorem texts_forMethod {name : String} (different : name ≠ "content-length")
    (method : String) (response : Response) :
    (response.forMethod method).texts name = response.texts name := by
  rw [texts_eq_map_values, values_forMethod different, ← texts_eq_map_values]

/-! ## Refusals -/

/-- A refusal tells the limit, what is left of it and, if there is one, the wait. -/
theorem texts_refusal (decision : Decision) :
    (refusal decision).texts "x-ratelimit-limit" = [some (toString decision.limit.toNat)] ∧
      (refusal decision).texts "x-ratelimit-remaining" =
        [some (toString decision.remaining.toNat)] ∧
      (refusal decision).texts "retry-after" =
        if decision.retryAfter = 0 then [] else [some (toString decision.retryAfter.toNat)] := by
  have headers : (refusal decision).headers =
      [field "content-type" "application/json",
        numberField "x-ratelimit-limit" decision.limit.toNat,
        numberField "x-ratelimit-remaining" decision.remaining.toNat] ++
          if decision.retryAfter = 0 then []
          else [numberField "retry-after" decision.retryAfter.toNat] := rfl
  have name : ∀ name value, (numberField name value).name = name := fun _ _ => rfl
  have contentType : ∀ value, (field "content-type" value).name = "content-type" := fun _ => rfl
  by_cases noWait : decision.retryAfter = 0
  · simp [texts, headers, name, contentType, text?_numberField, noWait]
  · simp [texts, headers, name, contentType, text?_numberField, noWait]

end Response

end Turnstile
