/-! # The token secret record and its JSON encoding

The controller stores a token in Secrets Manager as `json.Marshal` of `tokenSecretJSON` and reads
it back with `json.Unmarshal`. Both directions of Go's `encoding/json` are modelled here for this
one struct, over the characters of a string: the marshaller's escaping (HTML-safe, as `Marshal`
is), and the decoder's grammar, string unescaping (surrogate pairs included), key matching by
exact name and then by `equalFoldRight`, and the saved first type error.
-/

namespace ConsulEcs.Json

/-- A JSON value as the decoder scans it; numbers keep their literal text. -/
inductive Value where
  | null
  | bool (b : Bool)
  | number (literal : String)
  | string (s : String)
  | array (elements : List Value)
  | object (members : List (String × Value))

/-- `tokenSecretJSON`: the record stored under `secretName(prefix, family)`. -/
structure TokenSecretJSON where
  accessorID : String
  token : String
deriving DecidableEq, Repr

/-! ## Encoding -/

/-- `hex[n]` of the encoder, for `n < 16`. -/
def hexDigit (n : Nat) : Char := "0123456789abcdef".toList.getD n '0'

/-- One character as `encodeState.string` writes it with `escapeHTML` set. -/
def escapeChar (c : Char) : List Char :=
  if c = '\\' ∨ c = '"' then ['\\', c]
  else if c = '\n' then ['\\', 'n']
  else if c = '\r' then ['\\', 'r']
  else if c = '\t' then ['\\', 't']
  else if c.toNat < 0x20 ∨ c = '<' ∨ c = '>' ∨ c = '&' then
    ['\\', 'u', '0', '0', hexDigit (c.toNat / 16), hexDigit (c.toNat % 16)]
  else if c = '\u2028' ∨ c = '\u2029' then ['\\', 'u', '2', '0', '2', hexDigit (c.toNat % 16)]
  else [c]

/-- A quoted JSON string. -/
def quote (s : List Char) : List Char := '"' :: s.flatMap escapeChar ++ ['"']

/-- `json.Marshal(tokenSecretJSON{...})`: fields in declaration order, under their tags. -/
def marshal (secret : TokenSecretJSON) : String :=
  String.mk ('{' :: quote "accessor_id".toList ++ ':' :: quote secret.accessorID.toList ++
    ',' :: quote "token".toList ++ ':' :: quote secret.token.toList ++ ['}'])

/-! ## Scanning -/

/-- JSON whitespace. -/
def isSpace (c : Char) : Bool := c = ' ' || c = '\t' || c = '\n' || c = '\r'

def skipSpace : List Char → List Char
  | [] => []
  | c :: rest => if isSpace c then skipSpace rest else c :: rest

def hexValue (c : Char) : Option Nat :=
  if '0' ≤ c ∧ c ≤ '9' then some (c.toNat - '0'.toNat)
  else if 'a' ≤ c ∧ c ≤ 'f' then some (c.toNat - 'a'.toNat + 10)
  else if 'A' ≤ c ∧ c ≤ 'F' then some (c.toNat - 'A'.toNat + 10)
  else none

/-- `getu4`: the code unit of four hexadecimal digits. -/
def hex4 (a b c d : Char) : Option Nat := do
  let a ← hexValue a
  let b ← hexValue b
  let c ← hexValue c
  let d ← hexValue d
  pure (((a * 16 + b) * 16 + c) * 16 + d)

/-- The character a one-letter escape stands for. -/
def unescape : Char → Option Char
  | '"' => some '"'
  | '\\' => some '\\'
  | '/' => some '/'
  | 'b' => some '\x08'
  | 'f' => some '\x0c'
  | 'n' => some '\n'
  | 'r' => some '\r'
  | 't' => some '\t'
  | _ => none

def isSurrogate (r : Nat) : Bool := 0xD800 ≤ r && r < 0xE000

/-- `utf16.DecodeRune`: a high and a low surrogate make one rune, anything else U+FFFD. -/
def decodeSurrogates (high low : Nat) : Char :=
  if 0xD800 ≤ high ∧ high < 0xDC00 ∧ 0xDC00 ≤ low ∧ low < 0xE000 then
    Char.ofNat ((high - 0xD800) * 0x400 + (low - 0xDC00) + 0x10000)
  else '\ufffd'

def prepend (cs : List Char) : Option (List Char × List Char) → Option (List Char × List Char)
  | some (s, rest) => some (cs ++ s, rest)
  | none => none

/-- A surrogate escape not followed by its low half stands for U+FFFD. -/
def flush : Option Nat → List Char
  | some _ => ['\ufffd']
  | none => []

/-- One step of `unquote` inside a string literal. -/
inductive StringStep where
  | close (emit : List Char) (rest : List Char)
  | next (emit : List Char) (pending : Option Nat) (rest : List Char)
  | reject

/-- A `\uXXXX` escape of code unit `r`. A surrogate waits for the escape after it, which
`unquote` pairs with it when the two make a valid pair. -/
def unicodeStep (pending : Option Nat) (r : Nat) (rest : List Char) : StringStep :=
  match pending with
  | some high =>
    if decodeSurrogates high r = '\ufffd' then
      if isSurrogate r then .next ['\ufffd'] (some r) rest else .next ['\ufffd', Char.ofNat r] none rest
    else .next [decodeSurrogates high r] none rest
  | none => if isSurrogate r then .next [] (some r) rest else .next [Char.ofNat r] none rest

/-- The input after a backslash. -/
def escapeStep (pending : Option Nat) : List Char → StringStep
  | [] => .reject
  | e :: rest =>
    if e = 'u' then
      match rest with
      | a :: b :: c :: d :: rest =>
        match hex4 a b c d with
        | some r => unicodeStep pending r rest
        | none => .reject
      | _ => .reject
    else
      match unescape e with
      | some d => .next (flush pending ++ [d]) none rest
      | none => .reject

/-- The scanner's step on one character of a string literal: the closing quote, an escape, or a
raw character, which may not be a control character. -/
def stringStep (pending : Option Nat) : List Char → StringStep
  | [] => .reject
  | c :: rest =>
    if c = '"' then .close (flush pending) rest
    else if c = '\\' then escapeStep pending rest
    else if c.toNat < 0x20 then .reject
    else .next (flush pending ++ [c]) none rest

/-- The body of a string literal after its opening quote: its decoded characters and the input
after the closing quote. Every step consumes a character, so the input's length is enough fuel. -/
def parseStringBody : Nat → Option Nat → List Char → Option (List Char × List Char)
  | 0, _, _ => none
  | fuel + 1, pending, cs =>
    match stringStep pending cs with
    | .close emit rest => some (emit, rest)
    | .next emit pending rest => prepend emit (parseStringBody fuel pending rest)
    | .reject => none

/-- A string literal after its opening quote. -/
def parseString (cs : List Char) : Option (List Char × List Char) := parseStringBody cs.length none cs

def isDigit (c : Char) : Bool := '0' ≤ c && c ≤ '9'

/-- The longest run of digits. -/
def digits : List Char → List Char × List Char
  | [] => ([], [])
  | c :: rest => if isDigit c then ((digits rest).1.cons c, (digits rest).2) else ([], c :: rest)

/-- A nonempty run of digits, as the scanner requires after `.`, `e` and a leading `1`-`9`. -/
def digits1 (cs : List Char) : Option (List Char × List Char) :=
  if (digits cs).1 = [] then none else some (digits cs)

/-- The input after `c`, if it is next. -/
def expect (c : Char) : List Char → Option (List Char)
  | [] => none
  | d :: rest => if d = c then some rest else none

/-- `-? (0 | [1-9][0-9]*) (. [0-9]+)? ([eE] [+-]? [0-9]+)?`, as its literal text. -/
def parseNumber (cs : List Char) : Option (List Char × List Char) := do
  let (sign, cs) := match expect '-' cs with
    | some rest => (['-'], rest)
    | none => ([], cs)
  let (int, cs) ← match expect '0' cs with
    | some rest => some (['0'], rest)
    | none => digits1 cs
  let (frac, cs) ← match expect '.' cs with
    | some rest => (digits1 rest).map fun (ds, after) => ('.' :: ds, after)
    | none => some ([], cs)
  let (exp, cs) ← match cs with
    | [] => some ([], [])
    | e :: rest =>
      if e = 'e' ∨ e = 'E' then
        let (signE, rest) := match expect '+' rest, expect '-' rest with
          | some r, _ => (['+'], r)
          | none, some r => (['-'], r)
          | none, none => ([], rest)
        (digits1 rest).map fun (ds, after) => (e :: signE ++ ds, after)
      else some ([], e :: rest)
  pure (sign ++ int ++ frac ++ exp, cs)

/-- `true`, `false`, `null` or a number. -/
def parseLiteral (cs : List Char) : Option (Value × List Char) :=
  if "true".toList.isPrefixOf cs then some (.bool true, cs.drop 4)
  else if "false".toList.isPrefixOf cs then some (.bool false, cs.drop 5)
  else if "null".toList.isPrefixOf cs then some (.null, cs.drop 4)
  else (parseNumber cs).map fun (literal, after) => (.number (String.mk literal), after)

/-- What follows an object member: `,` and the members `more` reads, or the closing `}`. -/
def memberEnd (more : List Char → Option (List (String × Value) × List Char)) (member : String × Value)
    (rest : List Char) : Option (List (String × Value) × List Char) :=
  match skipSpace rest with
  | [] => none
  | c :: rest =>
    if c = ',' then (more rest).map fun (members, after) => (member :: members, after)
    else if c = '}' then some ([member], rest)
    else none

/-- Object members after `{`, each value read by `value`; fuel bounds the member count. -/
def parseMembers (value : List Char → Option (Value × List Char)) :
    Nat → List Char → Option (List (String × Value) × List Char)
  | 0, _ => none
  | fuel + 1, cs => do
    let rest ← expect '"' (skipSpace cs)
    let (key, rest) ← parseString rest
    let rest ← expect ':' (skipSpace rest)
    let (v, rest) ← value rest
    memberEnd (parseMembers value fuel) (String.mk key, v) rest

/-- Array elements after `[`, each read by `value`. -/
def parseElements (value : List Char → Option (Value × List Char)) :
    Nat → List Char → Option (List Value × List Char)
  | 0, _ => none
  | fuel + 1, cs => do
    let (v, rest) ← value cs
    match skipSpace rest with
    | [] => none
    | c :: rest =>
      if c = ',' then (parseElements value fuel rest).map fun (elements, after) => (v :: elements, after)
      else if c = ']' then some ([v], rest)
      else none

/-- One value with its leading whitespace; fuel bounds the nesting depth. -/
def parseValue : Nat → List Char → Option (Value × List Char)
  | 0, _ => none
  | fuel + 1, cs =>
    match skipSpace cs with
    | [] => none
    | c :: rest =>
      if c = '{' then
        match expect '}' (skipSpace rest) with
        | some after => some (.object [], after)
        | none => (parseMembers (parseValue fuel) rest.length rest).map fun (ms, after) => (.object ms, after)
      else if c = '[' then
        match expect ']' (skipSpace rest) with
        | some after => some (.array [], after)
        | none => (parseElements (parseValue fuel) rest.length rest).map fun (es, after) => (.array es, after)
      else if c = '"' then (parseString rest).map fun (s, after) => (.string (String.mk s), after)
      else parseLiteral (c :: rest)

/-- `checkValid`: one value and nothing but whitespace after it. Every nesting level consumes a
character, so the input's length is enough fuel. -/
def parse (s : String) : Option Value :=
  match parseValue (s.length + 1) s.toList with
  | some (v, rest) => if skipSpace rest = [] then some v else none
  | none => none

/-! ## Decoding into `tokenSecretJSON` -/

/-- The two fields of `tokenSecretJSON`, by their tags. -/
inductive Field where
  | accessorID
  | token
deriving DecidableEq, Repr

def Field.tag : Field → String
  | .accessorID => "accessor_id"
  | .token => "token"

/-- `equalFoldRight(name, key)` for an ASCII field name: letters match either case, an `s` also
matches U+017F and a `k` also U+212A, every other character only itself. -/
def equalFoldRight : List Char → List Char → Bool
  | [], key => key.isEmpty
  | _ :: _, [] => false
  | n :: name, k :: key =>
    let same :=
      if k.toNat < 0x80 then n = k || (n.isAlpha && n.toLower = k.toLower)
      else (n.toLower = 's' && k = '\u017f') || (n.toLower = 'k' && k = '\u212a')
    same && equalFoldRight name key

/-- The field a key selects: an exact tag first, then the first tag it folds to. -/
def fieldOf (key : String) : Option Field :=
  if key = Field.tag .accessorID then some .accessorID
  else if key = Field.tag .token then some .token
  else if equalFoldRight (Field.tag .accessorID).toList key.toList then some .accessorID
  else if equalFoldRight (Field.tag .token).toList key.toList then some .token
  else none

/-- What `json.Unmarshal` reports. -/
inductive UnmarshalError where
  | malformed
  | type (value : String) (field : Option Field)
deriving DecidableEq, Repr

def UnmarshalError.message : UnmarshalError → String
  | .malformed => "invalid character in JSON input"
  | .type value none => "json: cannot unmarshal " ++ value ++ " into Go value of type controller.tokenSecretJSON"
  | .type value (some f) =>
    "json: cannot unmarshal " ++ value ++ " into Go struct field tokenSecretJSON." ++ f.tag ++ " of type string"

/-- The name of a value's kind in a type error. -/
def Value.kind : Value → String
  | .null => "null"
  | .bool _ => "bool"
  | .number _ => "number"
  | .string _ => "string"
  | .array _ => "array"
  | .object _ => "object"

def TokenSecretJSON.set (secret : TokenSecretJSON) : Field → String → TokenSecretJSON
  | .accessorID, s => { secret with accessorID := s }
  | .token, s => { secret with token := s }

/-- The decoder's pass over an object's members: later members override earlier ones, `null`
leaves a field alone, and the first type mismatch is saved while decoding goes on. -/
def decodeMembers : List (String × Value) → TokenSecretJSON → Option UnmarshalError →
    TokenSecretJSON × Option UnmarshalError
  | [], secret, saved => (secret, saved)
  | (key, v) :: rest, secret, saved =>
    match fieldOf key, v with
    | none, _ => decodeMembers rest secret saved
    | some f, .string s => decodeMembers rest (secret.set f s) saved
    | some _, .null => decodeMembers rest secret saved
    | some f, other => decodeMembers rest secret (saved.orElse fun _ => some (.type other.kind (some f)))

/-- `json.Unmarshal(data, &currSecret)` into the zero `tokenSecretJSON`. -/
def unmarshal (s : String) : Except UnmarshalError TokenSecretJSON :=
  match parse s with
  | none => .error .malformed
  | some .null => .ok ⟨"", ""⟩
  | some (.object members) =>
    match decodeMembers members ⟨"", ""⟩ none with
    | (secret, none) => .ok secret
    | (_, some err) => .error err
  | some other => .error (.type other.kind none)

end ConsulEcs.Json
