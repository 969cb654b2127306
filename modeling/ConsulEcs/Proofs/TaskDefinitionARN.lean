import Mathlib
import ConsulEcs.Model.Controller

/-! # Task definition ARNs

`parseFamilyNameFromTaskDefinitionARN` splits the ARN at `/`, then the second piece at `:`, and
accepts only splits into exactly two pieces. A split into exactly two pieces is exactly one
separator, with none in either piece (`splitOn_eq_pair`). So the parser accepts exactly the ARNs
`before/family:revision` with one `/` and, after it, one `:`, and returns the family; every other
ARN gets the error that quotes it.
-/

namespace ConsulEcs.Controller

/-! ## Splitting at one character -/

/-- No piece of a split holds a character that was split on. -/
theorem splitOnP_pieces {α : Type} {p : α → Bool} :
    ∀ {xs piece : List α}, piece ∈ xs.splitOnP p → ∀ c ∈ piece, p c = false
  | [], piece, member => by
    rw [List.splitOnP_nil, List.mem_singleton] at member
    simp [member]
  | x :: xs, piece, member => by
    rw [List.splitOnP_cons] at member
    split_ifs at member with split
    · rcases List.mem_cons.mp member with rfl | member
      · simp
      · exact splitOnP_pieces member
    · obtain ⟨first, rest, pieces⟩ := List.exists_cons_of_ne_nil (List.splitOnP_ne_nil p xs)
      rw [pieces, List.modifyHead_cons] at member
      rcases List.mem_cons.mp member with rfl | member
      · intro c held
        rcases List.mem_cons.mp held with rfl | held
        · simpa using split
        · exact splitOnP_pieces (pieces ▸ List.mem_cons_self _ _) c held
      · exact splitOnP_pieces (pieces ▸ List.mem_cons_of_mem _ member)

/-- A split into exactly two pieces is exactly one separator. -/
theorem splitOn_eq_pair {xs before after : List Char} {sep : Char} :
    xs.splitOn sep = [before, after] ↔ xs = before ++ sep :: after ∧ sep ∉ before ∧ sep ∉ after := by
  constructor
  · intro pair
    have clean : ∀ piece ∈ xs.splitOn sep, sep ∉ piece := fun piece member held => by
      simpa using splitOnP_pieces member sep held
    refine ⟨?_, clean before (by simp [pair]), clean after (by simp [pair])⟩
    rw [← List.intercalate_splitOn xs sep, pair]
    simp [List.intercalate]
  · rintro ⟨rfl, notBefore, notAfter⟩
    simpa [List.intercalate] using List.splitOn_intercalate [before, after] sep (by simp [notBefore, notAfter]) (by simp)

/-- A character occurs once exactly when the text is cut at it into two pieces without it. -/
theorem count_eq_one_iff {l : List Char} {c : Char} :
    l.count c = 1 ↔ ∃ before after, l = before ++ c :: after ∧ c ∉ before ∧ c ∉ after := by
  constructor
  · intro once
    obtain ⟨before, after, rfl⟩ := List.append_of_mem (List.count_pos_iff.mp (by omega : 0 < l.count c))
    rw [List.count_append, List.count_cons_self] at once
    exact ⟨before, after, rfl, List.count_eq_zero.mp (by omega), List.count_eq_zero.mp (by omega)⟩
  · rintro ⟨before, after, rfl, notBefore, notAfter⟩
    simp [List.count_append, List.count_eq_zero.mpr notBefore, List.count_eq_zero.mpr notAfter]

/-! ## The parser -/

theorem slash_not_mem {name revision : List Char} (slashName : '/' ∉ name) (slashRevision : '/' ∉ revision) :
    '/' ∉ name ++ ':' :: revision := by
  simp only [List.mem_append, List.mem_cons, not_or]
  exact ⟨slashName, by decide, slashRevision⟩

/-- The parser on the characters of the ARN: it returns the text between the one `/` and the one
`:` after it. -/
theorem parseFamilyNameFromTaskDefinitionARN_eq_ok {taskDefArn family : String} :
    parseFamilyNameFromTaskDefinitionARN taskDefArn = .ok family ↔
      ∃ before revision : List Char, taskDefArn.toList = before ++ '/' :: (family.toList ++ ':' :: revision) ∧
        '/' ∉ before ∧ '/' ∉ family.toList ∧ ':' ∉ family.toList ∧ '/' ∉ revision ∧ ':' ∉ revision := by
  constructor
  · intro parsed
    simp only [parseFamilyNameFromTaskDefinitionARN] at parsed
    split_ifs at parsed with slashes colons
    obtain ⟨before, after, first⟩ := List.length_eq_two.mp (not_not.mp slashes)
    rw [first] at colons parsed
    obtain ⟨name, revision, second⟩ := List.length_eq_two.mp (not_not.mp colons)
    rw [second] at parsed
    cases parsed
    obtain ⟨arn, notBefore, notAfter⟩ := splitOn_eq_pair.mp first
    obtain ⟨rfl, notName, notRevision⟩ := splitOn_eq_pair.mp second
    simp only [List.mem_append, List.mem_cons, not_or] at notAfter
    exact ⟨before, revision, arn, notBefore, notAfter.1, notName, notAfter.2.2, notRevision⟩
  · rintro ⟨before, revision, arn, notBefore, slashFamily, colonFamily, slashRevision, colonRevision⟩
    have first : taskDefArn.toList.splitOn '/' = [before, family.toList ++ ':' :: revision] :=
      splitOn_eq_pair.mpr ⟨arn, notBefore, slash_not_mem slashFamily slashRevision⟩
    have second : (family.toList ++ ':' :: revision).splitOn ':' = [family.toList, revision] :=
      splitOn_eq_pair.mpr ⟨rfl, colonFamily, colonRevision⟩
    simp only [parseFamilyNameFromTaskDefinitionARN, first, List.getD_cons_succ, List.getD_cons_zero, second]
    rfl

theorem parseFamilyNameFromTaskDefinitionARN_error {taskDefArn err : String}
    (failed : parseFamilyNameFromTaskDefinitionARN taskDefArn = .error err) :
    err = "cannot determine task family from task definition ARN: " ++ goQuote taskDefArn := by
  simp only [parseFamilyNameFromTaskDefinitionARN] at failed
  split_ifs at failed <;> cases failed <;> rfl

theorem toList_arn (before family revision : String) :
    (before ++ "/" ++ family ++ ":" ++ revision).toList = before.toList ++ '/' :: (family.toList ++ ':' :: revision.toList) := by
  simp [String.toList, String.data_append]

/-- The parser returns the family of `before/family:revision`. -/
theorem parseFamilyNameFromTaskDefinitionARN_append (before family revision : String)
    (slashBefore : '/' ∉ before.toList) (slashFamily : '/' ∉ family.toList) (colonFamily : ':' ∉ family.toList)
    (slashRevision : '/' ∉ revision.toList) (colonRevision : ':' ∉ revision.toList) :
    parseFamilyNameFromTaskDefinitionARN (before ++ "/" ++ family ++ ":" ++ revision) = .ok family :=
  parseFamilyNameFromTaskDefinitionARN_eq_ok.mpr ⟨_, _, toList_arn before family revision, slashBefore, slashFamily,
    colonFamily, slashRevision, colonRevision⟩

/-- The parser accepts exactly the ARNs with one `/` and one `:` after it, and returns the text
between them; so it returns `family` on `before/family:revision` whenever `before` has no `/` and
`family` and `revision` have neither `/` nor `:`. Every ARN it rejects gets the error that quotes
it. -/
theorem parseFamilyNameFromTaskDefinitionARN_grammar :
    (∀ taskDefArn family : String, parseFamilyNameFromTaskDefinitionARN taskDefArn = .ok family ↔
      ∃ before revision : String, taskDefArn = before ++ "/" ++ family ++ ":" ++ revision ∧
        '/' ∉ before.toList ∧ '/' ∉ family.toList ∧ ':' ∉ family.toList ∧
        '/' ∉ revision.toList ∧ ':' ∉ revision.toList) ∧
    (∀ taskDefArn : String, (∃ family, parseFamilyNameFromTaskDefinitionARN taskDefArn = .ok family) ↔
      ∃ before after : List Char, taskDefArn.toList = before ++ '/' :: after ∧
        taskDefArn.toList.count '/' = 1 ∧ after.count ':' = 1) ∧
    (∀ taskDefArn err : String, parseFamilyNameFromTaskDefinitionARN taskDefArn = .error err →
      err = "cannot determine task family from task definition ARN: " ++ goQuote taskDefArn) ∧
    (∀ before family revision : String, '/' ∉ before.toList → '/' ∉ family.toList → ':' ∉ family.toList →
      '/' ∉ revision.toList → ':' ∉ revision.toList →
      parseFamilyNameFromTaskDefinitionARN (before ++ "/" ++ family ++ ":" ++ revision) = .ok family) := by
  refine ⟨fun taskDefArn family => ⟨fun parsed => ?_, ?_⟩, fun taskDefArn => ⟨?_, ?_⟩,
    fun _ _ => parseFamilyNameFromTaskDefinitionARN_error, parseFamilyNameFromTaskDefinitionARN_append⟩
  · obtain ⟨before, revision, arn, conditions⟩ := parseFamilyNameFromTaskDefinitionARN_eq_ok.mp parsed
    refine ⟨⟨before⟩, ⟨revision⟩, ?_, conditions⟩
    rw [← String.toList_inj, toList_arn]
    exact arn
  · rintro ⟨before, revision, rfl, b, f, f', r, r'⟩
    exact parseFamilyNameFromTaskDefinitionARN_append before family revision b f f' r r'
  · rintro ⟨family, parsed⟩
    obtain ⟨before, revision, arn, notBefore, slashFamily, colonFamily, slashRevision, colonRevision⟩ :=
      parseFamilyNameFromTaskDefinitionARN_eq_ok.mp parsed
    exact ⟨before, _, arn, count_eq_one_iff.mpr ⟨before, _, arn, notBefore, slash_not_mem slashFamily slashRevision⟩,
      count_eq_one_iff.mpr ⟨_, _, rfl, colonFamily, colonRevision⟩⟩
  · rintro ⟨before, after, arn, slash, colon⟩
    obtain ⟨name, revision, rfl, colonName, colonRevision⟩ := count_eq_one_iff.mp colon
    rw [arn, List.count_append, List.count_cons_self] at slash
    have clean : '/' ∉ before ∧ '/' ∉ name ++ ':' :: revision :=
      ⟨List.count_eq_zero.mp (by omega), List.count_eq_zero.mp (by omega)⟩
    simp only [List.mem_append, List.mem_cons, not_or] at clean
    exact ⟨⟨name⟩, parseFamilyNameFromTaskDefinitionARN_eq_ok.mpr
      ⟨before, revision, arn, clean.1, clean.2.1, colonName, clean.2.2.2, colonRevision⟩⟩

theorem parseFamilyNameFromTaskDefinitionARN_service :
    parseFamilyNameFromTaskDefinitionARN "arn:aws:ecs:us-east-1:1234567890:task-definition/service:1" =
      .ok "service" :=
  parseFamilyNameFromTaskDefinitionARN_grammar.2.2.2 "arn:aws:ecs:us-east-1:1234567890:task-definition" "service" "1"
    (by decide) (by decide) (by decide) (by decide) (by decide)

end ConsulEcs.Controller
