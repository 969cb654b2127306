import Mathlib
import ConsulEcs.Model.Json

/-! # The token secret record decodes to what was encoded

`json.Unmarshal` reads back every `tokenSecretJSON` that `json.Marshal` writes, whatever the two
strings hold. Each escape the encoder emits is one the decoder's string step undoes, character by
character; the members come back in order under their own tags, and the tags select their fields.
-/

namespace ConsulEcs.Json

theorem hexValue_hexDigit : ∀ n, n < 16 → hexValue (hexDigit n) = some n
  | 0, _ | 1, _ | 2, _ | 3, _ | 4, _ | 5, _ | 6, _ | 7, _ | 8, _ | 9, _ | 10, _ | 11, _ | 12, _
  | 13, _ | 14, _ | 15, _ => by decide
  | _ + 16, bound => absurd bound (by omega)

/-- A `\u` escape of a code point below the surrogates decodes to that character. -/
theorem stringStep_unicode {c : Char} {a b d e : Char} (code : hex4 a b d e = some c.toNat)
    (small : c.toNat < 0xD800) (rest : List Char) :
    stringStep none ('\\' :: 'u' :: a :: b :: d :: e :: rest) = .next [c] none rest := by
  have notSurrogate : isSurrogate c.toNat = false := by simp [isSurrogate]; omega
  simp [stringStep, escapeStep, unicodeStep, code, notSurrogate]

theorem hex4_low (c : Char) (small : c.toNat < 0x100) :
    hex4 '0' '0' (hexDigit (c.toNat / 16)) (hexDigit (c.toNat % 16)) = some c.toNat := by
  simp only [hex4, hexValue_hexDigit _ (by omega : c.toNat / 16 < 16),
    hexValue_hexDigit _ (Nat.mod_lt _ (by omega)), show hexValue '0' = some 0 from rfl,
    Option.bind_eq_bind, Option.some_bind, Option.pure_def]
  congr 1
  omega

theorem hex4_separator (c : Char) (separator : c = '\u2028' ∨ c = '\u2029') :
    hex4 '2' '0' '2' (hexDigit (c.toNat % 16)) = some c.toNat := by
  rcases separator with rfl | rfl <;> decide

/-- Every character survives its escape. -/
theorem stringStep_escapeChar (c : Char) (rest : List Char) :
    stringStep none (escapeChar c ++ rest) = .next [c] none rest := by
  unfold escapeChar
  split_ifs with quoted newline creturn tab low separator
  · rcases quoted with rfl | rfl <;> rfl
  · subst newline; rfl
  · subst creturn; rfl
  · subst tab; rfl
  · have small : c.toNat < 0x20 ∨ c.toNat = 0x3c ∨ c.toNat = 0x3e ∨ c.toNat = 0x26 := by
      rcases low with bound | rfl | rfl | rfl <;> simp_all
    exact stringStep_unicode (hex4_low c (by omega)) (by omega) rest
  · have small : c.toNat = 0x2028 ∨ c.toNat = 0x2029 := by rcases separator with rfl | rfl <;> simp
    exact stringStep_unicode (hex4_separator c separator) (by omega) rest
  · have printable : ¬ c.toNat < 0x20 := fun bound => low (Or.inl bound)
    simp only [List.singleton_append, stringStep, flush, List.nil_append]
    rw [if_neg (fun same => quoted (Or.inr same)), if_neg (fun same => quoted (Or.inl same)),
      if_neg printable]

/-- The body of a quoted string decodes to the string, up to the closing quote. -/
theorem parseStringBody_escaped (s rest : List Char) :
    ∀ fuel, s.length < fuel → parseStringBody fuel none (s.flatMap escapeChar ++ '"' :: rest) = some (s, rest) := by
  induction s with
  | nil => intro fuel enough; obtain ⟨fuel, rfl⟩ := Nat.exists_eq_succ_of_ne_zero (by omega : fuel ≠ 0); rfl
  | cons c s ih =>
    intro fuel enough
    obtain ⟨fuel, rfl⟩ := Nat.exists_eq_succ_of_ne_zero (by omega : fuel ≠ 0)
    rw [List.flatMap_cons, List.append_assoc, parseStringBody, stringStep_escapeChar]
    simp only [ih fuel (by simp at enough; omega)]
    rfl

/-- No character escapes to nothing: the decoder would read the next character in its place. -/
theorem escapeChar_ne_nil (c : Char) : escapeChar c ≠ [] := fun empty => by
  have decoded := stringStep_escapeChar c ['"']
  rw [empty, List.nil_append] at decoded
  cases decoded

theorem length_le_escaped (s : List Char) : s.length ≤ (s.flatMap escapeChar).length := by
  induction s with
  | nil => simp
  | cons c s ih =>
    have single := List.length_pos.mpr (escapeChar_ne_nil c)
    simp only [List.flatMap_cons, List.length_append, List.length_cons]
    omega

theorem parseString_quote (s rest : List Char) :
    parseString (s.flatMap escapeChar ++ '"' :: rest) = some (s, rest) := by
  apply parseStringBody_escaped
  have := length_le_escaped s
  simp only [List.length_append, List.length_cons]
  omega

theorem parseValue_quote (fuel : Nat) (s rest : List Char) :
    parseValue (fuel + 1) (quote s ++ rest) = some (.string (String.mk s), rest) := by
  simp only [parseValue, quote, List.cons_append, List.append_assoc, List.singleton_append, skipSpace]
  simp [isSpace, parseString_quote]


theorem skipSpace_quote (s rest : List Char) : skipSpace (quote s ++ rest) = quote s ++ rest := rfl

/-- One member `"key":"value"`, up to what follows it. -/
theorem parseMembers_quote (value : List Char → Option (Value × List Char)) (fuel : Nat)
    (key s after : List Char) (read : value (quote s ++ after) = some (.string (String.mk s), after)) :
    parseMembers value (fuel + 1) (quote key ++ ':' :: (quote s ++ after)) =
      memberEnd (parseMembers value fuel) (String.mk key, .string (String.mk s)) after := by
  simp only [parseMembers, skipSpace_quote]
  simp only [quote, List.cons_append, List.append_assoc, List.singleton_append, List.nil_append,
    expect, if_true, Option.bind_eq_bind, Option.some_bind, parseString_quote, skipSpace]
  simp only [quote, List.cons_append, List.append_assoc, List.singleton_append, List.nil_append] at read
  simp [read, isSpace]

theorem parse_marshal (secret : TokenSecretJSON) :
    parse (marshal secret) =
      some (.object [("accessor_id", .string secret.accessorID), ("token", .string secret.token)]) := by
  obtain ⟨a, t⟩ := secret
  let tail := quote "token".toList ++ ':' :: (quote t.toList ++ ['}'])
  let body := quote "accessor_id".toList ++ ':' :: (quote a.toList ++ ',' :: tail)
  have shape : (marshal ⟨a, t⟩).data = '{' :: body := by simp [marshal, body, tail, List.append_assoc]
  obtain ⟨n, long⟩ : ∃ n, body.length = n + 1 + 1 := ⟨body.length - 2, by simp [body, quote]; omega⟩
  have second : parseMembers (parseValue (n + 3)) (n + 1) tail = some ([("token", .string t)], []) := by
    rw [parseMembers_quote _ _ _ _ _ (parseValue_quote _ _ _)]; rfl
  have first : parseMembers (parseValue (n + 3)) (n + 1 + 1) body =
      some ([("accessor_id", .string a), ("token", .string t)], []) := by
    rw [parseMembers_quote _ _ _ _ _ (parseValue_quote _ _ _), memberEnd,
      show skipSpace (',' :: tail) = ',' :: tail from rfl]
    simp only [if_true, second]
    rfl
  have opening : expect '}' (skipSpace body) = none := rfl
  simp only [parse, String.length, String.toList, shape, List.length_cons, long]
  rw [parseValue, show skipSpace ('{' :: body) = '{' :: body from rfl]
  simp only [if_true, opening, long, first]
  rfl

/-- The round trip of the token secret record. -/
theorem unmarshal_marshal (secret : TokenSecretJSON) : unmarshal (marshal secret) = .ok secret := by
  rw [unmarshal, parse_marshal]
  rfl

end ConsulEcs.Json
