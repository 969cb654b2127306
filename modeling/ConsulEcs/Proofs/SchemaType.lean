import Mathlib
import ConsulEcs.Model.Schema
import ConsulEcs.Proofs.JsonRoundTrip

/-! # The `type` field of a schema

`jsonschemaType.UnmarshalJSON` reads back every `type` written as `json.Marshal` writes a string
or a `[]string`: the array through the `[]string` decode, the string through the fallback to
`string`. Whatever the data, the types it reads are appended to those already read, so a second
`type` key in one schema adds to the first instead of replacing it.
-/

namespace ConsulEcs.Docs

open Json

/-! ## How `json.Marshal` writes the field -/

/-- The elements of a `[]string` as `json.Marshal` writes them, separated by commas. -/
def quoteElements : List String → List Char
  | [] => []
  | [x] => quote x.toList
  | x :: y :: rest => quote x.toList ++ ',' :: quoteElements (y :: rest)

/-- `json.Marshal` of a non-nil `[]string`. -/
def marshalStrings (xs : List String) : String := String.mk ('[' :: quoteElements xs ++ [']'])

/-- `json.Marshal` of a `string`. -/
def marshalString (s : String) : String := String.mk (quote s.toList)

theorem length_quoteElements_ge (x : String) (rest : List String) :
    rest.length + 1 ≤ (quoteElements (x :: rest)).length := by
  induction rest generalizing x with
  | nil => simp [quoteElements, quote]
  | cons y rest ih =>
    have := ih y
    simp only [quoteElements, List.length_append, List.length_cons, List.length_cons] at this ⊢
    omega

/-! ## Reading it back -/

/-- The elements of a marshalled `[]string` parse as its strings, up to the closing bracket. -/
theorem parseElements_quoteElements (k : Nat) (after : List Char) :
    ∀ (x : String) (rest : List String) (fuel : Nat), rest.length < fuel →
      parseElements (parseValue (k + 1)) fuel (quoteElements (x :: rest) ++ ']' :: after) =
        some ((x :: rest).map .string, after)
  | x, [], fuel + 1, _ => by
    simp [quoteElements, parseElements, parseValue_quote, skipSpace, isSpace]
  | x, y :: rest, fuel + 1, enough => by
    have more := parseElements_quoteElements k after y rest fuel (by simp at enough; omega)
    simp only [quoteElements, List.append_assoc, List.cons_append] at more ⊢
    simp [parseElements, parseValue_quote, skipSpace, isSpace, more]

theorem parse_marshalStrings (xs : List String) : parse (marshalStrings xs) = some (.array (xs.map .string)) := by
  cases xs with
  | nil => rfl
  | cons x rest =>
    have long := length_quoteElements_ge x rest
    obtain ⟨n, length⟩ : ∃ n, (quoteElements (x :: rest) ++ [']']).length = n + 1 :=
      ⟨_, (Nat.succ_pred_eq_of_pos (by simp)).symm⟩
    have opening : expect ']' (skipSpace (quoteElements (x :: rest) ++ [']'])) = none := by
      cases rest <;> rfl
    have elements := parseElements_quoteElements (n + 1) [] x rest (n + 1) (by simp at length; omega)
    simp only [parse, marshalStrings, String.length, List.length_cons, length]
    rw [parseValue]
    simp [skipSpace, isSpace, opening, length, elements]

theorem parse_marshalString (s : String) : parse (marshalString s) = some (.string s) := by
  have read := parseValue_quote (marshalString s).length s.toList []
  rw [List.append_nil] at read
  simp [parse, marshalString, String.length, read] at read ⊢
  simp [skipSpace]

theorem mapM_stringElement (xs : List String) : (xs.map Value.string).mapM stringElement = some xs := by
  induction xs with
  | nil => rfl
  | cons x xs ih =>
    rw [List.map_cons, List.mapM_cons, ih]
    rfl

/-- `UnmarshalJSON` reads back a `type` written as a `[]string` or as a string, after the types
already read. -/
theorem unmarshalJSON_marshal (t : JsonschemaType) :
    (∀ xs : List String, t.unmarshalJSON (marshalStrings xs) = .ok (t ++ xs)) ∧
      ∀ s : String, t.unmarshalJSON (marshalString s) = .ok (t ++ [s]) := by
  refine ⟨fun xs => ?_, fun s => ?_⟩
  · simp only [JsonschemaType.unmarshalJSON, unmarshalStrings, parse_marshalStrings, mapM_stringElement]
  · simp [JsonschemaType.unmarshalJSON, unmarshalStrings, unmarshalString, parse_marshalString, stringElement]

end ConsulEcs.Docs
