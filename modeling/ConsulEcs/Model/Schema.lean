import Mathlib
import ConsulEcs.Model.Json
import ConsulEcs.Model.MeshInit

/-! # The schema of the configuration reference

The generator of the configuration reference reads the JSON schema of the `mesh-init`
configuration into `Schema` and renders each field's description. `EnumStr` renders the allowed
values of a field as one sentence of markdown. The `type` of a schema is a string or a list of
strings in the JSON, and `jsonschemaType.UnmarshalJSON` reads either into a list, through
`encoding/json` as `Json` models it. `RequiredStr` and `PropertyAnchor` read other fields of a
schema, which `SchemaNode` holds: its required fields, its path, and the schemas of its properties.
-/

namespace ConsulEcs.Docs

/-- `Schema`, with the field `EnumStr` reads: the enum values, a nil value as `none`. -/
structure Schema where
  enum : List (Option String)
deriving DecidableEq, Repr

/-- The body of the loop of `EnumStr`, for the value at index `i` of the `n` enum values. -/
def enumStep (n : Nat) (result : String) : Nat × Option String → String
  | (i, val) =>
    let result :=
      if n > 2 ∧ i > 0 then
        let result := result ++ ", "
        if i = n - 1 then result ++ "or" else result
      else result
    match val with
    | none => result ++ "`null`"
    | some val => result ++ "`" ++ val ++ "`"

/-- `Schema.EnumStr`. -/
def Schema.enumStr (s : Schema) : String :=
  let result := s.enum.enum.foldl (enumStep s.enum.length) ""
  if result.length > 0 then "Must be one of " ++ result ++ "." else result

/-! ## The `type` field -/

/-- `jsonschemaType`: the types of a schema, as a list. -/
abbrev JsonschemaType : Type := List String

/-- A string or `null` decoded into a Go `string`: `null` leaves it `""`; any other value is a
type error. -/
def stringElement : Json.Value → Option String
  | .string s => some s
  | .null => some ""
  | _ => none

/-- `json.Unmarshal(data, &array)` into a nil `[]string`, `none` for an error: `null` leaves the
slice nil, and an array decodes element by element. -/
def unmarshalStrings (data : String) : Option (List String) :=
  match Json.parse data with
  | some .null => some []
  | some (.array elements) => elements.mapM stringElement
  | _ => none

/-- `json.Unmarshal(data, &str)` into an empty `string`, `none` for an error. -/
def unmarshalString (data : String) : Option String := (Json.parse data).bind stringElement

/-- `(*jsonschemaType).UnmarshalJSON`: the types the data holds, appended to those already read. -/
def JsonschemaType.unmarshalJSON (t : JsonschemaType) (data : String) : Except String JsonschemaType :=
  match unmarshalStrings data with
  | some array => .ok (t ++ array)
  | none =>
    match unmarshalString data with
    | some str => .ok (t ++ [str])
    | none => .error ("cannot unmarshal type field as string or []string: " ++ data)

/-! ## Required fields and anchors -/

/-- The schema of a property as `PropertyAnchor` reads it: its types, the names of its properties,
and the names of the properties of its items if it has items. -/
structure PropertySchema where
  type : List String
  properties : List String
  items : Option (List String)
deriving DecidableEq, Repr

/-- The fields of `Schema` that `RequiredStr` and `PropertyAnchor` read: the required fields, the
path of the schema in the configuration, and the schema of each property. -/
structure SchemaNode where
  required : List String
  path : String
  properties : String → Option PropertySchema

/-- The loop of `RequiredStr` over the required fields. -/
def requiredStr : List String → String → String
  | [], _ => "optional"
  | req :: rest, field => if req = field then "required" else requiredStr rest field

/-- `(*Schema).RequiredStr`. -/
def SchemaNode.requiredStr (s : SchemaNode) (field : String) : String := Docs.requiredStr s.required field

/-- `strings.Trim(s, ".")`: every leading and trailing `.` removed. -/
def trimDots (s : String) : String := ⟨((s.data.dropWhile (· = '.')).reverse.dropWhile (· = '.')).reverse⟩

/-- `strings.ReplaceAll(s, ".", "-")`. -/
def dotsToDashes (s : String) : String := ⟨s.data.map fun c => if c = '.' then '-' else c⟩

/-- `(*Schema).PropertyAnchor`, `none` where it panics: on a field that is not a property (a nil
schema), on a property with no type, and on an array property without items. `strings.ToLower`
lowers each rune by `lowering`, `unicode.ToLower`. -/
def SchemaNode.propertyAnchor (t : SchemaNode) (lowering : MeshInit.RuneLowering) (field : String) :
    Option String :=
  match t.properties field with
  | none => none
  | some propSchema =>
    match propSchema.type with
    | [] => none
    | kind :: _ =>
      if kind = "object" ∨ kind = "array" then
        match if kind = "object" then some propSchema.properties else propSchema.items with
        | none => none
        | some fieldProperties =>
          if fieldProperties.length = 0 then some ""
          else
            let anchor := trimDots (t.path ++ "." ++ field)
            let anchor := dotsToDashes anchor
            some (MeshInit.toLower lowering anchor)
      else some ""

end ConsulEcs.Docs
