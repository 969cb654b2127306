import Mathlib
import ConsulEcs.Model.Schema
import ConsulEcs.Proofs.MeshInit

/-! # Anchors of the configuration reference

`PropertyAnchor` links an object or array field to the section that documents its properties.
The anchor is the field's dotted path with its dots made dashes, in lower case; as the comment in
the source says, `proxy.upstreams.meshGateway` becomes `proxy-upstreams-meshgateway`. So an anchor
has no dot and is its own lower case, and the anchor of a field is the path's, a dash and the
field's. The generator panics on a field that is not a property, on a property with no type and on
an array property without items. Lowering is `strings.ToLower` over any rune lowering that keeps
the laws of `unicode.ToLower`, so the anchor is its own lower case for non-ASCII names too.
-/

namespace ConsulEcs.Docs

open MeshInit (RuneLowering toLower toLower_toLower)

/-! ## The string functions -/

theorem toLower_append (lowering : RuneLowering) (a b : String) :
    toLower lowering (a ++ b) = toLower lowering a ++ toLower lowering b := by
  simp [toLower, String.ext_iff]

/-- A dash, ASCII, lowers to itself. -/
theorem toLower_dash (lowering : RuneLowering) : toLower lowering "-" = "-" := by
  simp only [toLower, show "-".data = ['-'] from rfl, List.map_cons, List.map_nil, lowering.ascii_toLower '-' (by decide)]
  rfl

theorem dotsToDashes_append (a b : String) : dotsToDashes (a ++ b) = dotsToDashes a ++ dotsToDashes b := by
  simp [dotsToDashes, String.ext_iff]

theorem dot_not_mem_toLower_dotsToDashes (lowering : RuneLowering) (s : String) :
    '.' ∉ (toLower lowering (dotsToDashes s)).data := by
  simp only [toLower, dotsToDashes, List.map_map, List.mem_map, Function.comp, not_exists, not_and]
  intro c _ lowered
  have := lowering.eq_dot _ lowered
  split_ifs at this with dot
  · cases this
  · exact dot this

/-- Dropping leading dots leaves a list that does not start with one. -/
theorem dropWhile_dot_of_head {l : List Char} (first : l.head? ≠ some '.') : l.dropWhile (· = '.') = l := by
  cases l with
  | nil => rfl
  | cons c rest => simp_all [List.dropWhile]

/-- `strings.Trim` leaves a string that neither starts nor ends with a dot. -/
theorem trimDots_of_ends {s : String} (first : s.data.head? ≠ some '.') (last : s.data.getLast? ≠ some '.') :
    trimDots s = s := by
  simp only [trimDots, dropWhile_dot_of_head first,
    dropWhile_dot_of_head (by rwa [List.head?_reverse] : s.data.reverse.head? ≠ some '.'), List.reverse_reverse]

/-! ## `PropertyAnchor` -/

/-- `PropertyAnchor` panics exactly on a field that is not a property, a property with no type,
and an array property without items. What it returns otherwise is in lower case with no dot, and
it is nonempty only for an object or array property that documents properties of its own. -/
theorem propertyAnchor_spec (t : SchemaNode) (lowering : RuneLowering) (field : String) :
    (t.propertyAnchor lowering field = none ↔ ∀ p, t.properties field = some p →
      p.type = [] ∨ (p.type.head? = some "array" ∧ p.items = none)) ∧
    (∀ anchor, t.propertyAnchor lowering field = some anchor →
      '.' ∉ anchor.data ∧ toLower lowering anchor = anchor ∧
      (anchor ≠ "" → ∃ p kind rest fieldProperties, t.properties field = some p ∧ p.type = kind :: rest ∧
        (kind = "object" ∧ p.properties = fieldProperties ∨ kind = "array" ∧ p.items = some fieldProperties) ∧
        fieldProperties ≠ [])) := by
  unfold SchemaNode.propertyAnchor
  rcases property : t.properties field with _ | p
  · simp
  · dsimp only
    rcases typed : p.type with _ | ⟨kind, rest⟩
    · simp [typed]
    · dsimp only
      have typedSome : p.type ≠ [] := by simp [typed]
      by_cases linked : kind = "object" ∨ kind = "array"
      · rw [if_pos linked]
        rcases read : (if kind = "object" then some p.properties else p.items) with _ | fieldProperties
        · have array : kind = "array" ∧ p.items = none := by
            by_cases object : kind = "object"
            · simp [object] at read
            · exact ⟨linked.resolve_left object, by simpa [object] using read⟩
          simp [typed, array]
        · dsimp only
          have documented : kind = "object" ∧ p.properties = fieldProperties ∨
              kind = "array" ∧ p.items = some fieldProperties := by
            by_cases object : kind = "object"
            · exact .inl ⟨object, by simpa [object] using read⟩
            · exact .inr ⟨linked.resolve_left object, by simpa [object] using read⟩
          have served : ¬∀ q, some p = some q → q.type = [] ∨ (q.type.head? = some "array" ∧ q.items = none) :=
            fun panics => by
              rcases panics p rfl with empty | ⟨head, missing⟩
              · exact typedSome empty
              · rcases documented with ⟨object, -⟩ | ⟨-, items⟩
                · simp [typed, object] at head
                · simp [items] at missing
          split_ifs with empty
          · refine ⟨iff_of_false (by simp) served, fun anchor returned => ?_⟩
            cases returned
            exact ⟨by simp, rfl, fun nonempty => absurd rfl nonempty⟩
          · refine ⟨iff_of_false (by simp) served, fun anchor returned => ?_⟩
            cases returned
            exact ⟨dot_not_mem_toLower_dotsToDashes lowering _, toLower_toLower lowering _,
              fun _ => ⟨p, kind, rest, fieldProperties, rfl, typed, documented, by simpa using empty⟩⟩
      · rw [if_neg linked]
        have served : ¬∀ q, some p = some q → q.type = [] ∨ (q.type.head? = some "array" ∧ q.items = none) :=
          fun panics => by
            rcases panics p rfl with empty | ⟨head, -⟩
            · exact typedSome empty
            · simp only [typed, List.head?_cons, Option.some.injEq] at head
              exact linked (.inr head)
        refine ⟨iff_of_false (by simp) served, fun anchor returned => ?_⟩
        cases returned
        exact ⟨by simp, rfl, fun nonempty => absurd rfl nonempty⟩

/-- As the source's comment says, a documented property's anchor is the dotted path with dashes
for dots, in lower case: the schema's path, a dash and the field, for a path and a field that do
not begin or end the anchor with a dot, and the field alone at the top of the configuration. -/
theorem propertyAnchor_path (t : SchemaNode) (lowering : RuneLowering) (field : String) (p : PropertySchema) (kind : String)
    (rest fieldProperties : List String) (property : t.properties field = some p) (typed : p.type = kind :: rest)
    (documented : kind = "object" ∧ p.properties = fieldProperties ∨ kind = "array" ∧ p.items = some fieldProperties)
    (nonempty : fieldProperties ≠ []) (last : field.data.getLast? ≠ some '.') (named : field ≠ "") :
    (t.path ≠ "" → t.path.data.head? ≠ some '.' → t.propertyAnchor lowering field =
      some (toLower lowering (dotsToDashes t.path) ++ "-" ++ toLower lowering (dotsToDashes field))) ∧
    (t.path = "" → field.data.head? ≠ some '.' →
      t.propertyAnchor lowering field = some (toLower lowering (dotsToDashes field))) := by
  have linked : kind = "object" ∨ kind = "array" := documented.imp And.left And.left
  have read : (if kind = "object" then some p.properties else p.items) = some fieldProperties := by
    rcases documented with ⟨object, same⟩ | ⟨array, same⟩
    · simp [object, same]
    · simp [array, same]
  have anchor : t.propertyAnchor lowering field =
      some (toLower lowering (dotsToDashes (trimDots (t.path ++ "." ++ field)))) := by
    simp only [SchemaNode.propertyAnchor, property, typed, if_pos linked, read,
      if_neg (mt List.length_eq_zero.mp nonempty)]
  have fieldData : field.data ≠ [] := fun empty => named (String.ext empty)
  refine ⟨fun pathed first => ?_, fun top first => ?_⟩
  · rw [anchor, trimDots_of_ends]
    · simp only [toLower_append, dotsToDashes_append, show dotsToDashes "." = "-" from rfl, toLower_dash]
    · obtain ⟨c, rest', same⟩ := List.exists_cons_of_ne_nil (fun empty => pathed (String.ext empty))
      simpa [same] using first
    · rw [String.data_append, List.getLast?_append_of_ne_nil _ fieldData]
      exact last
  · have trimmed : trimDots (t.path ++ "." ++ field) = trimDots field := by
      simp [trimDots, top, List.dropWhile]
    rw [anchor, trimmed, trimDots_of_ends first last]


/-- The example of the source's comment: `meshGateway` under `proxy.upstreams` links to
`proxy-upstreams-meshgateway`. -/
theorem propertyAnchor_meshGateway :
    let t : SchemaNode := ⟨[], "proxy.upstreams", fun field =>
      if field = "meshGateway" then some ⟨["object"], ["mode"], none⟩ else none⟩
    t.propertyAnchor MeshInit.RuneLowering.ascii "meshGateway" = some "proxy-upstreams-meshgateway" :=
  ((propertyAnchor_path _ _ "meshGateway" ⟨["object"], ["mode"], none⟩ "object" [] ["mode"] (by decide) rfl
    (.inl ⟨rfl, rfl⟩) (by simp) (by decide) (by decide)).1 (by decide) (by decide)).trans (by decide)

end ConsulEcs.Docs
