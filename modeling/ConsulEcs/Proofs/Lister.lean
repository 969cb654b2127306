import Mathlib
import ConsulEcs.Model.Controller

/-! # `TaskDefinitionLister.List`

`List` walks the pages ECS serves, a `ListTasks` and a `DescribeTasks` call a page, and keeps one
set of families seen across all pages. When no call fails, what it returns depends only on the tasks
in order, however they are cut into pages: the error of the first mesh task whose task definition
ARN does not parse, or else one `TaskFamily` per family of the mesh tasks, at the family's first
occurrence. The do-while loop stops after the last page, which it has already read, so it is the
plain loop over the pages.
-/

namespace ConsulEcs.Controller

/-! ## Families in order of first occurrence -/

/-- Each family once, at its first occurrence. -/
def firstOccurrences : List String → List String
  | [] => []
  | family :: rest => family :: (firstOccurrences rest).filter (· ≠ family)

theorem mem_firstOccurrences {family : String} :
    ∀ {families : List String}, family ∈ firstOccurrences families ↔ family ∈ families
  | [] => Iff.rfl
  | first :: rest => by
    by_cases same : family = first <;> simp [firstOccurrences, same, mem_firstOccurrences]

theorem nodup_firstOccurrences : ∀ families : List String, (firstOccurrences families).Nodup
  | [] => List.nodup_nil
  | first :: rest => List.nodup_cons.mpr ⟨by simp, (nodup_firstOccurrences rest).filter _⟩

/-- The families `List` has recorded after it read `families`, starting from `seen`. -/
def addFamilies (seen families : List String) : List String :=
  seen ++ (firstOccurrences families).filter (· ∉ seen)

theorem addFamilies_nil (seen : List String) : addFamilies seen [] = seen := by
  simp [addFamilies, firstOccurrences]

/-- One family read: it is recorded unless it was seen. -/
theorem addFamilies_cons (seen : List String) (family : String) (families : List String) :
    addFamilies seen (family :: families) =
      addFamilies (if family ∈ seen then seen else seen ++ [family]) families := by
  simp only [addFamilies, firstOccurrences, List.filter_cons, List.filter_filter]
  by_cases seenBefore : family ∈ seen
  · simp only [seenBefore, if_true, not_true_eq_false, decide_False, if_false]
    congr 1
    refine List.filter_congr fun other _ => ?_
    by_cases same : other = family <;> simp [same, seenBefore]
  · simp only [seenBefore, if_false, not_false_eq_true, decide_True, if_true, List.append_assoc,
      List.singleton_append]
    congr 2
    refine List.filter_congr fun other _ => ?_
    simp [Bool.and_comm]

theorem addFamilies_append (seen : List String) :
    ∀ first second : List String, addFamilies (addFamilies seen first) second = addFamilies seen (first ++ second)
  | [], second => by rw [addFamilies_nil, List.nil_append]
  | family :: rest, second => by
    rw [List.cons_append, addFamilies_cons, addFamilies_cons, addFamilies_append _ rest]

theorem addFamilies_empty (families : List String) : addFamilies [] families = firstOccurrences families := by
  simp [addFamilies]

/-! ## The families of the mesh tasks -/

/-- The families of the mesh tasks among `tasks`, in order and repeated, or the error of the first
mesh task whose task definition ARN does not parse. -/
def meshFamilies (tasks : List (Option Task)) : Except String (List String) :=
  ((tasks.filterMap id).filter isMeshTask).mapM fun task => parseFamilyNameFromTaskDefinitionARN task.taskDefinitionArn

theorem mapM_except_cons {α β ε : Type} (f : α → Except ε β) (x : α) (rest : List α) :
    (x :: rest).mapM f = (f x).bind fun y => (rest.mapM f).map (y :: ·) := by
  rw [List.mapM_cons]
  rcases f x with err | y
  · rfl
  · rcases rest.mapM f with err | ys <;> rfl

theorem mapM_except_append {α β ε : Type} (f : α → Except ε β) (first second : List α) :
    (first ++ second).mapM f = (first.mapM f).bind fun ys => (second.mapM f).map (ys ++ ·) := by
  rw [List.mapM_append]
  rcases first.mapM f with err | ys
  · rfl
  · rcases second.mapM f with err | zs <;> rfl

theorem mapM_except_error_iff {α β ε : Type} (f : α → Except ε β) :
    ∀ l : List α, (∃ err, l.mapM f = .error err) ↔ ∃ x ∈ l, ∃ err, f x = .error err
  | [] => by rw [List.mapM_nil]; simp [pure, Except.pure]
  | x :: rest => by
    simp only [mapM_except_cons, List.mem_cons, or_and_right, exists_or, exists_eq_left,
      ← mapM_except_error_iff f rest]
    rcases f x with err | y
    · simp [Except.bind]
    · rcases rest.mapM f with err | ys <;> simp [Except.bind, Except.map]

theorem meshFamilies_nil : meshFamilies [] = .ok [] := rfl

theorem meshFamilies_mesh (task : Task) (rest : List (Option Task)) (mesh : isMeshTask task = true) :
    meshFamilies (some task :: rest) = (parseFamilyNameFromTaskDefinitionARN task.taskDefinitionArn).bind
      fun family => (meshFamilies rest).map (family :: ·) := by
  change ((task :: rest.filterMap id).filter isMeshTask).mapM _ = _
  rw [List.filter_cons_of_pos mesh, mapM_except_cons]
  rfl

theorem meshFamilies_append (tasks more : List (Option Task)) :
    meshFamilies (tasks ++ more) = (meshFamilies tasks).bind fun families =>
      (meshFamilies more).map (families ++ ·) := by
  simp only [meshFamilies, List.filterMap_append, List.filter_append, mapM_except_append]

/-! ## The loops of `List` -/

/-- The loop over one page's tasks records the families of its mesh tasks at their first
occurrences, with a resource for each, or stops at the first ARN that does not parse. -/
theorem collect_eq (t : TaskDefinitionLister) :
    ∀ (tasks : List (Option Task)) (seen : List String),
      t.collect tasks seen (seen.map t.taskFamily) =
        ((meshFamilies tasks).mapError ("parsing family from ARN: " ++ ·)).map fun families =>
          (addFamilies seen families, (addFamilies seen families).map t.taskFamily)
  | [], seen => by
    simp only [TaskDefinitionLister.collect, meshFamilies_nil, Except.mapError, Except.map, addFamilies_nil]
  | none :: rest, seen => collect_eq t rest seen
  | some task :: rest, seen => by
    by_cases mesh : isMeshTask task
    · rw [meshFamilies_mesh task rest mesh]
      simp only [TaskDefinitionLister.collect, mesh, Bool.not_true, Bool.false_eq_true, if_false]
      rcases parseFamilyNameFromTaskDefinitionARN task.taskDefinitionArn with err | family
      · rfl
      · have grown : seen.map t.taskFamily ++ [t.taskFamily family] = (seen ++ [family]).map t.taskFamily := by
          simp
        dsimp only
        split_ifs with seenBefore <;> simp only [grown, collect_eq t rest] <;>
          rcases meshFamilies rest with err | others <;>
          simp [Except.bind, Except.mapError, Except.map, addFamilies_cons, seenBefore]
    · simpa [TaskDefinitionLister.collect, meshFamilies, mesh] using collect_eq t rest seen

/-- Stopping after the last page is the same as running the loop on an empty rest. -/
theorem listPages_of_last (t : TaskDefinitionLister) (rest : List PageReply) (seen : List String)
    (resources : List TaskFamily) :
    (if rest = [] then .ok resources else t.listPages rest seen resources) = t.listPages rest seen resources := by
  split_ifs with last
  · rw [last, TaskDefinitionLister.listPages]
  · rfl

/-- The loop over pages reads the pages that answer as one list of tasks, then goes on with the
replies after them. -/
theorem listPages_append (t : TaskDefinitionLister) :
    ∀ (pages : List (List (Option Task))) (more : List PageReply) (seen : List String),
      t.listPages (pages.map .tasks ++ more) seen (seen.map t.taskFamily) =
        ((meshFamilies pages.flatten).mapError ("parsing family from ARN: " ++ ·)).bind fun families =>
          t.listPages more (addFamilies seen families) ((addFamilies seen families).map t.taskFamily)
  | [], more, seen => by
    simp only [List.map_nil, List.nil_append, List.flatten_nil, meshFamilies_nil, Except.mapError, Except.bind,
      addFamilies_nil]
  | page :: rest, more, seen => by
    simp only [List.map_cons, List.cons_append, TaskDefinitionLister.listPages, collect_eq, listPages_of_last,
      List.flatten_cons, meshFamilies_append]
    rcases meshFamilies page with err | families
    · rfl
    · simp only [Except.mapError, Except.map, Except.bind, List.append_eq]
      rw [listPages_append t rest more]
      rcases meshFamilies rest.flatten with err | others <;> simp [Except.bind, Except.mapError, addFamilies_append]

/-- The loop over pages that all answer reads the families of the concatenated pages. -/
theorem listPages_eq (t : TaskDefinitionLister) (pages : List (List (Option Task))) (seen : List String) :
    t.listPages (pages.map .tasks) seen (seen.map t.taskFamily) =
      ((meshFamilies pages.flatten).mapError ("parsing family from ARN: " ++ ·)).map fun families =>
        (addFamilies seen families).map t.taskFamily := by
  rw [← List.append_nil (pages.map _), listPages_append]
  rcases meshFamilies pages.flatten with err | families <;> rfl

/-- `List` over pages that all answer starts from no family seen. -/
theorem list_eq (t : TaskDefinitionLister) (pages : List (List (Option Task))) :
    t.list (pages.map .tasks) = ((meshFamilies pages.flatten).mapError ("parsing family from ARN: " ++ ·)).map
      fun families => (firstOccurrences families).map t.taskFamily := by
  simpa [addFamilies_empty] using listPages_eq t pages []

/-- A failed `ListTasks` or `DescribeTasks` call ends `List` with its error, unless a mesh task on
an earlier page has a task definition ARN that does not parse. -/
theorem list_of_failure (t : TaskDefinitionLister) (pages : List (List (Option Task))) (err : String)
    (rest : List PageReply) :
    let parsed := (meshFamilies pages.flatten).mapError ("parsing family from ARN: " ++ ·)
    t.list (pages.map .tasks ++ .listFailed err :: rest) = parsed.bind (fun _ => .error ("listing tasks: " ++ err)) ∧
    t.list (pages.map .tasks ++ .describeFailed err :: rest) =
      parsed.bind (fun _ => .error ("describing tasks: " ++ err)) :=
  ⟨listPages_append t pages _ [], listPages_append t pages _ []⟩

/-- `List` over pages that all answer: it fails exactly when a mesh task's task definition ARN
does not parse, and otherwise returns a resource for each family of the mesh tasks, at the family's
first occurrence across all pages, with pairwise distinct IDs; so the result depends only on the
concatenation of the pages. -/
theorem list_of_pages (t : TaskDefinitionLister) (pages : List (List (Option Task))) :
    let mesh := (pages.flatten.filterMap id).filter isMeshTask
    t.list (pages.map .tasks) = ((meshFamilies pages.flatten).mapError ("parsing family from ARN: " ++ ·)).map
        (fun families => (firstOccurrences families).map t.taskFamily) ∧
    ((∃ err, t.list (pages.map .tasks) = .error err) ↔
      ∃ task ∈ mesh, ∃ err, parseFamilyNameFromTaskDefinitionARN task.taskDefinitionArn = .error err) ∧
    (∀ families, meshFamilies pages.flatten = .ok families →
      t.list (pages.map .tasks) = .ok ((firstOccurrences families).map t.taskFamily) ∧
      (∀ family, family ∈ firstOccurrences families ↔ family ∈ families) ∧
      (((firstOccurrences families).map t.taskFamily).map TaskFamily.id).Nodup) ∧
    ∀ other : List (List (Option Task)), other.flatten = pages.flatten →
      t.list (other.map .tasks) = t.list (pages.map .tasks) := by
  intro mesh
  have listed := list_eq t
  refine ⟨listed pages, ?_, fun families found => ⟨?_, fun _ => mem_firstOccurrences, ?_⟩,
    fun other same => by rw [listed, listed, same]⟩
  · rw [← mapM_except_error_iff, listed]
    change _ ↔ ∃ err, meshFamilies pages.flatten = .error err
    rcases meshFamilies pages.flatten with err | families <;> simp [Except.mapError, Except.map]
  · rw [listed, found]
    rfl
  · rw [List.map_map, show TaskFamily.id ∘ t.taskFamily = id from rfl, List.map_id]
    exact nodup_firstOccurrences families

end ConsulEcs.Controller
