import Mathlib
import ConsulEcs.Model.Schema

/-! # `EnumStr` against its doc comment

The doc comment of `EnumStr` promises an English list, "Must be one of `local`, `remote`, or
`none`.". The loop writes a separator only when there are more than two values, and then writes
`, ` before each value after the first and `or` with no space before the last one. So the sentence
is the documented one for no value and for one value only: two values are written with nothing
between them, and a longer list lacks the space after `or`. The loop's accumulated string is pulled
out once (`foldl_enumStep`); every case is then a computation from the empty string.
-/

namespace ConsulEcs.Docs

/-! ## The sentence the doc comment describes -/

/-- A value as `EnumStr` renders it: in backticks, `null` for nil. -/
def renderEnumValue : Option String → String
  | none => "`null`"
  | some val => "`" ++ val ++ "`"

/-- A serial list of at least two items, `x1, x2, ..., orWord xn`. -/
def serialList (orWord : String) : List String → String
  | [] => ""
  | [a] => a
  | [a, b] => a ++ ", " ++ orWord ++ b
  | a :: b :: c :: rest => a ++ ", " ++ serialList orWord (b :: c :: rest)

/-- The English list of the doc comment: the item, `a or b`, or the serial list with `, or `. -/
def englishList : List String → String
  | [] => ""
  | [a] => a
  | [a, b] => a ++ " or " ++ b
  | a :: b :: c :: rest => serialList "or " (a :: b :: c :: rest)

/-- `EnumStr` as its doc comment describes it. -/
def Schema.documentedEnumStr (s : Schema) : String :=
  if s.enum = [] then "" else "Must be one of " ++ englishList (s.enum.map renderEnumValue) ++ "."

theorem renderEnumValue_length_pos (val : Option String) : 0 < (renderEnumValue val).length := by
  cases val with
  | none => decide
  | some val =>
    simp only [renderEnumValue, String.length_append, show "`".length = 1 from rfl]
    omega

/-- The documented serial list is one character longer: the space after `or`. -/
theorem serialList_or_space_length :
    ∀ items : List String, 2 ≤ items.length →
      (serialList "or " items).length = (serialList "or" items).length + 1
  | [a, b], _ => by
    simp only [serialList, String.length_append, show "or ".length = "or".length + 1 from rfl]
    omega
  | a :: b :: c :: rest, _ => by
    simp only [serialList, String.length_append, serialList_or_space_length (b :: c :: rest) (by simp)]
    omega

/-! ## The loop of `EnumStr` -/

/-- One iteration appends the separator for index `i` of `n`, then the value. -/
theorem enumStep_eq (n : Nat) (result : String) (i : Nat) (val : Option String) :
    enumStep n result (i, val) =
      result ++ (if n > 2 ∧ i > 0 then ", " ++ (if i = n - 1 then "or" else "") else "") ++ renderEnumValue val := by
  cases val <;> simp only [enumStep, renderEnumValue] <;> split_ifs <;>
    simp only [String.append_assoc, String.append_empty, String.empty_append]

/-- The loop appends to the string it starts from. -/
theorem foldl_enumStep (n : Nat) :
    ∀ (entries : List (Nat × Option String)) (result : String),
      entries.foldl (enumStep n) result = result ++ entries.foldl (enumStep n) ""
  | [], result => by simp
  | (i, val) :: rest, result => by
    rw [List.foldl_cons, List.foldl_cons, foldl_enumStep n rest, foldl_enumStep n rest (enumStep n "" _),
      enumStep_eq, enumStep_eq]
    simp [String.append_assoc]

/-- The first value gets no separator, and a nonempty list is put in the sentence. -/
theorem enumStr_cons (a : Option String) (rest : List (Option String)) :
    (Schema.mk (a :: rest)).enumStr =
      "Must be one of " ++ renderEnumValue a ++ (rest.enumFrom 1).foldl (enumStep (rest.length + 1)) "" ++ "." := by
  have first : (a :: rest).enum.foldl (enumStep (rest.length + 1)) "" =
      renderEnumValue a ++ (rest.enumFrom 1).foldl (enumStep (rest.length + 1)) "" := by
    rw [List.enum, List.enumFrom_cons, List.foldl_cons, foldl_enumStep, enumStep_eq]
    simp
  have written : 0 < (renderEnumValue a ++ (rest.enumFrom 1).foldl (enumStep (rest.length + 1)) "").length := by
    simpa [String.length_append] using Nat.lt_add_right _ (renderEnumValue_length_pos a)
  simp only [Schema.enumStr, List.length_cons, first, if_pos written, String.append_assoc]

/-- Past the first value of more than two, each value gets `, ` and the last one `, or`. -/
theorem foldl_enumStep_serial {n : Nat} (three : 2 < n) :
    ∀ (more : List (Option String)) (b : Option String) (i : Nat), 0 < i → i + more.length + 1 = n →
      ∀ first : String, first ++ ((b :: more).enumFrom i).foldl (enumStep n) "" =
        serialList "or" (first :: renderEnumValue b :: more.map renderEnumValue)
  | [], b, i, pos, last, first => by
    rw [List.enumFrom_cons, List.foldl_cons, foldl_enumStep, enumStep_eq, if_pos ⟨three, pos⟩,
      if_pos (by simp at last; omega)]
    simp [serialList, String.append_assoc]
  | c :: more, b, i, pos, inner, first => by
    rw [List.enumFrom_cons, List.foldl_cons, foldl_enumStep, enumStep_eq, if_pos ⟨three, pos⟩,
      if_neg (by simp at inner; omega), List.map_cons, serialList,
      ← foldl_enumStep_serial three more c (i + 1) (by omega) (by simp at inner ⊢; omega)]
    simp [String.append_assoc]

/-! ## `EnumStr` for every number of values -/

theorem enumStr_of_length_le_one (s : Schema) (few : s.enum.length ≤ 1) : s.enumStr = s.documentedEnumStr := by
  rcases s with ⟨_ | ⟨a, _ | ⟨b, rest⟩⟩⟩
  · rfl
  · simp [enumStr_cons, Schema.documentedEnumStr, englishList]
  · simp at few

theorem enumStr_pair (a b : Option String) :
    (Schema.mk [a, b]).enumStr = "Must be one of " ++ renderEnumValue a ++ renderEnumValue b ++ "." := by
  simp [enumStr_cons, enumStep_eq]

theorem enumStr_serial (s : Schema) (three : 2 < s.enum.length) :
    s.enumStr = "Must be one of " ++ serialList "or" (s.enum.map renderEnumValue) ++ "." := by
  match s, three with
  | ⟨a :: b :: c :: more⟩, _ =>
    rw [enumStr_cons, String.append_assoc "Must be one of ",
      foldl_enumStep_serial (by simp) (c :: more) b 1 Nat.one_pos (by simp; omega)]
    rfl

theorem documentedEnumStr_pair (a b : Option String) :
    (Schema.mk [a, b]).documentedEnumStr =
      "Must be one of " ++ (renderEnumValue a ++ " or " ++ renderEnumValue b) ++ "." := rfl

theorem documentedEnumStr_serial (s : Schema) (three : 2 < s.enum.length) :
    s.documentedEnumStr = "Must be one of " ++ serialList "or " (s.enum.map renderEnumValue) ++ "." := by
  match s, three with
  | ⟨a :: b :: c :: more⟩, _ => rfl

/-- `EnumStr` writes the documented sentence for no value and for one, two values with nothing
between them, and more values with no space after `or`; so it writes the documented sentence
exactly when there is at most one value. -/
theorem enumStr_documented (s : Schema) :
    (s.enum.length ≤ 1 → s.enumStr = s.documentedEnumStr) ∧
    (∀ a b, s.enum = [a, b] → s.enumStr = "Must be one of " ++ renderEnumValue a ++ renderEnumValue b ++ ".") ∧
    (2 < s.enum.length → s.enumStr = "Must be one of " ++ serialList "or" (s.enum.map renderEnumValue) ++ ".") ∧
    (s.enumStr = s.documentedEnumStr ↔ s.enum.length ≤ 1) := by
  refine ⟨enumStr_of_length_le_one s, fun a b pair => ?_, enumStr_serial s, ⟨fun same => ?_, enumStr_of_length_le_one s⟩⟩
  · rcases s with ⟨values⟩
    cases pair
    exact enumStr_pair a b
  · by_contra many
    have lengths := congrArg String.length same
    rcases s with ⟨_ | ⟨a, _ | ⟨b, _ | ⟨c, more⟩⟩⟩⟩
    · simp at many
    · simp at many
    · rw [enumStr_pair, documentedEnumStr_pair] at lengths
      simp only [String.length_append, show " or ".length = 4 from rfl] at lengths
      omega
    · rw [enumStr_serial _ (by simp), documentedEnumStr_serial _ (by simp)] at lengths
      simp only [String.length_append,
        serialList_or_space_length ((a :: b :: c :: more).map renderEnumValue) (by simp)] at lengths
      omega

/-- The doc comment's own example: the loop leaves out the space after `or`. -/
theorem enumStr_doc_comment_example :
    let s : Schema := ⟨[some "local", some "remote", some "none"]⟩
    s.documentedEnumStr = "Must be one of `local`, `remote`, or `none`." ∧
      s.enumStr = "Must be one of `local`, `remote`, or`none`." ∧ s.enumStr ≠ s.documentedEnumStr :=
  ⟨rfl, rfl, fun same => absurd ((enumStr_documented _).2.2.2.mp same) (by decide)⟩

end ConsulEcs.Docs
