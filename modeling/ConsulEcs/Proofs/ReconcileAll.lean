import Mathlib
import ConsulEcs.Proofs.Reconcile

/-! # Reconcile passes one after another

The records stay sound over any run of passes, whatever the services fail, so long as no two
passes offer one accessor ID; the first pass in which nothing fails then converges, over families
whose names Consul accepts. Each family
keeps at most one live token, whatever the services fail short of an `Upsert`'s `UpdateSecret` or a
not-found `TokenRead`. A family no pass lists and that holds no live token keeps its record for
good, so a reset that a failed `DeleteTokenInfo` skipped is never retried; dually, no pass deletes
a token of a family it lists, so a token an `Upsert` created and could not record stays live.
-/

namespace ConsulEcs.Controller

/-! ## Convergence after any faults -/

/-- The accessor IDs a pass offers to the `Upsert`s of the families it lists. -/
def offers (t : TaskDefinitionLister) (pass : PassEnv) : List String :=
  match t.list pass.pages with
  | .ok resources => resources.map fun resource => (pass.upsertEnv resource.taskFamily).accessorID
  | .error _ => []

theorem offers_of_listed {t : TaskDefinitionLister} {pass : PassEnv} {families : List String}
    (listed : t.list pass.pages = .ok (families.map t.taskFamily)) :
    offers t pass = families.map fun family => (pass.upsertEnv family).accessorID := by
  simp [offers, listed, Function.comp_def]

/-- One pass from sound records, offering distinct fresh accessor IDs, keeps the records sound
whatever fails, and keeps fresh every ID it does not offer. -/
theorem reconcile_keeps (t : TaskDefinitionLister) (pass : PassEnv) (world : World)
    (sound : RecordsSound t.secretPrefix world) (distinct : (offers t pass).Nodup)
    (fresh : ∀ accessorID ∈ offers t pass, FreshAccessorID t.secretPrefix world accessorID) :
    RecordsSound t.secretPrefix (reconcile t pass world).2 ∧
      ∀ other, FreshAccessorID t.secretPrefix world other → other ∉ offers t pass →
        FreshAccessorID t.secretPrefix (reconcile t pass world).2 other := by
  rcases reconcile_cases t pass world with ⟨err, failed⟩ | ⟨families, groups, nodup, listed, grouped⟩
  · rw [failed]
    exact ⟨sound, fun _ fresh' _ => fresh'⟩
  rw [offers_of_listed listed] at distinct fresh ⊢
  obtain ⟨sound', -, -, -, kept⟩ := reconcile_sound t pass world nodup listed grouped sound
    (fun family member => fresh _ (List.mem_map_of_mem _ member)) fun f mf g mg => List.inj_on_of_nodup_map distinct mf mg
  exact ⟨sound', fun other fresh' unoffered =>
    kept other fresh' fun family member same => unoffered (same ▸ List.mem_map_of_mem _ member)⟩

/-- Passes from sound records, each offering accessor IDs no other pass offers, all fresh at the
start, keep the records sound whatever fails, and keep fresh every ID they do not offer. -/
theorem reconcileAll_sound (t : TaskDefinitionLister) :
    ∀ (passes : List PassEnv) (world : World), RecordsSound t.secretPrefix world →
      (passes.flatMap (offers t)).Nodup →
      (∀ accessorID ∈ passes.flatMap (offers t), FreshAccessorID t.secretPrefix world accessorID) →
      RecordsSound t.secretPrefix (reconcileAll t passes world) ∧
        ∀ other, FreshAccessorID t.secretPrefix world other → other ∉ passes.flatMap (offers t) →
          FreshAccessorID t.secretPrefix (reconcileAll t passes world) other
  | [], _, sound, _, _ => ⟨sound, fun _ fresh _ => fresh⟩
  | pass :: passes, world, sound, distinct, fresh => by
    rw [List.flatMap_cons] at distinct fresh ⊢
    obtain ⟨here, later, apart⟩ := List.nodup_append.mp distinct
    obtain ⟨sound', fresh'⟩ :=
      reconcile_keeps t pass world sound here fun a member => fresh a (List.mem_append_left _ member)
    obtain ⟨soundAll, freshAll⟩ := reconcileAll_sound t passes _ sound' later fun a member =>
      fresh' a (fresh a (List.mem_append_right _ member)) fun offered => apart offered member
    exact ⟨soundAll, fun other fresh'' unoffered =>
      freshAll other (fresh' other fresh'' fun offered => unoffered (List.mem_append_left _ offered))
        fun offered => unoffered (List.mem_append_right _ offered)⟩

/-- Whatever the services fail in any number of passes, from sound records and with every pass
offering accessor IDs that no other pass offers and that are fresh at the start, the records stay
sound after every pass, and the first pass in which nothing fails, over families whose names Consul
accepts, reports no error and converges: what a failed pass left undone is retried. -/
theorem reconcileAll_converges (t : TaskDefinitionLister) (passes : List PassEnv) (world : World)
    (pages : List PageReply) (proposal : String → String × String) (resources : List TaskFamily)
    (listed : t.list pages = .ok resources)
    (valid : ∀ family ∈ resources.map TaskFamily.id, isValidServiceIdentityName family)
    (sound : RecordsSound t.secretPrefix world)
    (distinct : (passes.flatMap (offers t) ++ offers t (PassEnv.reliable pages proposal)).Nodup)
    (fresh : ∀ accessorID ∈ passes.flatMap (offers t) ++ offers t (PassEnv.reliable pages proposal),
      FreshAccessorID t.secretPrefix world accessorID) :
    let result := reconcile t (PassEnv.reliable pages proposal) (reconcileAll t passes world)
    (∀ k, RecordsSound t.secretPrefix (reconcileAll t (passes.take k) world)) ∧
      result.1 = .ok [] ∧ Converged t.secretPrefix (resources.map TaskFamily.id) result.2 := by
  obtain ⟨families, nodup, rfl⟩ := list_ok listed
  obtain ⟨before, last, apart⟩ := List.nodup_append.mp distinct
  have early : ∀ a ∈ passes.flatMap (offers t), FreshAccessorID t.secretPrefix world a :=
    fun a member => fresh a (List.mem_append_left _ member)
  -- every prefix of the run offers a part of what the whole run offers
  have everyPass : ∀ k, RecordsSound t.secretPrefix (reconcileAll t (passes.take k) world) := fun k => by
    have whole : passes.flatMap (offers t) = (passes.take k).flatMap (offers t) ++ (passes.drop k).flatMap (offers t) := by
      rw [← List.flatMap_append, List.take_append_drop]
    rw [whole] at before early
    exact (reconcileAll_sound t (passes.take k) world sound (List.nodup_append.mp before).1
      fun a member => early a (List.mem_append_left _ member)).1
  obtain ⟨sound', fresh'⟩ := reconcileAll_sound t passes world sound before early
  have offered : offers t (PassEnv.reliable pages proposal) = families.map fun family => (proposal family).1 :=
    @offers_of_listed t (PassEnv.reliable pages proposal) families listed
  rw [offered] at last fresh apart
  rw [ids_taskFamily] at valid
  obtain ⟨ok, converged, -⟩ := reconcile_reliable t pages proposal _ nodup listed valid sound'
    (fun family member => fresh' _ (fresh _ (List.mem_append_right _ (List.mem_map_of_mem _ member)))
      fun earlier => apart earlier (List.mem_map_of_mem _ member))
    fun f mf g mg => List.inj_on_of_nodup_map last mf mg
  rw [ids_taskFamily]
  exact ⟨everyPass, ok, converged⟩

/-- A pass in which `web`'s `UpdateSecret` fails leaves a token no record names; the next pass, in
which nothing fails, converges. -/
theorem reconcileAll_converges_web :
    let t : TaskDefinitionLister := ⟨"cluster", "prefix"⟩
    let pages := [PageReply.tasks [some ⟨"arn:aws:ecs:us-east-1:123456789012:task-definition/web:1",
      [⟨some meshTag, some "true"⟩]⟩]]
    let throttled : PassEnv := ⟨pages, Env.reliable "" "",
      fun _ => ⟨fun call => match call with | .updateSecret _ _ => some "throttled" | _ => none, "accessor-1", "secret"⟩,
      fun _ => Env.reliable "" ""⟩
    let result := reconcile t (PassEnv.reliable pages fun _ => ("accessor-2", "secret"))
      (reconcileAll t [throttled] World.initial)
    (∀ k, RecordsSound t.secretPrefix (reconcileAll t ([throttled].take k) World.initial)) ∧
      result.1 = .ok [] ∧ Converged t.secretPrefix ["web"] result.2 := by
  intro t pages throttled
  exact reconcileAll_converges t [throttled] World.initial pages (fun _ => ("accessor-2", "secret"))
    [⟨"cluster", "prefix", "web"⟩] rfl (by decide) (recordsSound_initial _) (by decide)
    fun a member => freshAccessorID_initial _ fun empty => absurd (empty ▸ member) (by decide)

/-! ## At most one live token per family, pass after pass -/

/-- A `DeleteTokenInfo` keeps the invariant of every family, whatever fails, when its tokens hold
the accessor ID of every live token bound to the family it deletes. -/
theorem RecordNamesToken.deleteTokenInfo {family : String} {world : World} (t : TaskDefinitionLister)
    (inv : RecordNamesToken t.secretPrefix family world) (deleted : String) (tokens : List ACLToken) (env : Env)
    (covered : ∀ token ∈ world.tokens, token.BoundTo deleted → token.accessorID ∈ tokens.map (·.accessorID)) :
    RecordNamesToken t.secretPrefix family ((t.deleteTokenInfo deleted tokens).run env world).world := by
  obtain ⟨k, -, remaining, ok, failed⟩ := @deleteTokenInfo_take env world t deleted tokens
  have fewer : ((t.deleteTokenInfo deleted tokens).run env world).world.tokens ⊆ world.tokens :=
    remaining ▸ (List.filter_sublist _).subset
  rcases result : ((t.deleteTokenInfo deleted tokens).run env world).value with err | _
  · exact inv.mono fewer (by rw [failed err result])
  · obtain ⟨whole, secrets⟩ := ok result
    by_cases same : deleted = family
    · subst same
      refine ⟨emptySecret, ⟨"", ""⟩, by rw [secrets, Function.update_same], rfl, fun token member bound => ?_⟩
      rw [remaining, whole, List.take_length, List.mem_filter] at member
      exact absurd (covered token member.1 bound) (of_decide_eq_true member.2)
    · refine inv.mono fewer ?_
      rw [secrets, Function.update_noteq fun names => same (secretName_injective _ names).symm]

section Invariant

variable (t : TaskDefinitionLister) (pass : PassEnv)

theorem upsertAll_recordNamesToken (tolerated : ∀ family, (pass.upsertEnv family).Tolerated) :
    ∀ (families : List String) (world : World), (∀ family, RecordNamesToken t.secretPrefix family world) →
      ∀ family, RecordNamesToken t.secretPrefix family (upsertAll pass (families.map t.taskFamily) world).2
  | [], _, inv => inv
  | upserted :: rest, _, inv => upsertAll_recordNamesToken tolerated rest _ fun family => by
    by_cases same : upserted = family
    · subst same
      exact RecordNamesToken.upsert (t.taskFamily upserted) (inv upserted) (tolerated upserted)
    · exact RecordNamesToken.upsert_other (t.taskFamily upserted) (inv family) rfl same

theorem deleteAll_recordNamesToken (groups : TokenMap) :
    ∀ (orphans : List String) (world : World), (∀ family, RecordNamesToken t.secretPrefix family world) →
      (∀ g ∈ orphans, ∀ token ∈ world.tokens, token.BoundTo g → token.accessorID ∈ (groups g).map (·.accessorID)) →
      ∀ family, RecordNamesToken t.secretPrefix family (deleteAll t pass groups orphans world).2
  | [], _, inv, _ => inv
  | deleted :: rest, world, inv, covered => by
    obtain ⟨fewer, -, -⟩ := deleteTokenInfo_changes t deleted (groups deleted) (pass.deleteEnv deleted) world
    exact deleteAll_recordNamesToken groups rest _
      (fun family => (inv family).deleteTokenInfo t deleted (groups deleted) _ (covered deleted (List.mem_cons_self _ _)))
      fun g orphan token member => covered g (List.mem_cons_of_mem _ orphan) token (fewer member)

/-- A pass keeps the invariant of every family when its upserts meet only tolerated faults: the
group of an orphan holds every live token bound to it, since the upserts create tokens only for
listed families. -/
theorem reconcile_recordNamesToken (tolerated : ∀ family, (pass.upsertEnv family).Tolerated) (world : World)
    (inv : ∀ family, RecordNamesToken t.secretPrefix family world) :
    ∀ family, RecordNamesToken t.secretPrefix family (reconcile t pass world).2 := by
  rcases reconcile_cases t pass world with ⟨err, failed⟩ | ⟨families, groups, -, listed, grouped⟩
  · rw [failed]
    exact inv
  rw [reconcile_of_listed t pass world listed grouped]
  obtain ⟨-, created, -⟩ := upsertAll_changes t pass families world
  refine deleteAll_recordNamesToken t pass groups _ _ (upsertAll_recordNamesToken t pass tolerated families world inv) ?_
  intro g orphan token member bound
  by_cases old : token ∈ world.tokens
  · rw [groups_of_listed t pass grouped]
    exact List.mem_map_of_mem _ (List.mem_filter.mpr ⟨old, decide_eq_true bound⟩)
  · obtain ⟨family, listedFamily, bound'⟩ := created token member old
    exact absurd (by rw [bound.unique bound']; exact listedFamily) (of_decide_eq_true (List.mem_filter.mp orphan).2)

end Invariant

theorem reconcileAll_recordNamesToken (t : TaskDefinitionLister) :
    ∀ (passes : List PassEnv) (world : World), (∀ pass ∈ passes, ∀ family, (pass.upsertEnv family).Tolerated) →
      (∀ family, RecordNamesToken t.secretPrefix family world) →
      ∀ family, RecordNamesToken t.secretPrefix family (reconcileAll t passes world)
  | [], _, _, inv => inv
  | pass :: passes, world, tolerated, inv =>
    reconcileAll_recordNamesToken t passes _ (fun pass' member => tolerated pass' (List.mem_cons_of_mem _ member))
      (reconcile_recordNamesToken t pass (tolerated pass (List.mem_cons_self _ _)) world inv)

/-- Pass after pass from the initial state, whatever fails short of an `Upsert`'s `UpdateSecret` or
a not-found `TokenRead`, each family's record names every live token bound to it, so it has at
most one. -/
theorem reconcileAll_one_token_per_family (t : TaskDefinitionLister) (passes : List PassEnv)
    (tolerated : ∀ pass ∈ passes, ∀ family, (pass.upsertEnv family).Tolerated) (family : String) :
    RecordNamesToken t.secretPrefix family (reconcileAll t passes World.initial) ∧
      ∀ token ∈ (reconcileAll t passes World.initial).tokens, ∀ other ∈ (reconcileAll t passes World.initial).tokens,
        token.BoundTo family → other.BoundTo family → token = other :=
  have inv := reconcileAll_recordNamesToken t passes World.initial tolerated
    (recordNamesToken_initial t.secretPrefix) family
  ⟨inv, inv.unique⟩

/-- A pass whose `TokenCreate` for `web` fails, then a reliable pass, leave `web` at most one token. -/
theorem reconcileAll_one_token_per_family_web :
    let t : TaskDefinitionLister := ⟨"cluster", "prefix"⟩
    let pages := [PageReply.tasks [some ⟨"arn:aws:ecs:us-east-1:123456789012:task-definition/web:1",
      [⟨some meshTag, some "true"⟩]⟩]]
    let throttled : PassEnv := ⟨pages, Env.reliable "" "",
      fun _ => ⟨fun call => match call with | .tokenCreate _ => some "throttled" | _ => none, "a", "s"⟩,
      fun _ => Env.reliable "" ""⟩
    let world := reconcileAll t [throttled, PassEnv.reliable pages fun _ => ("b", "s")] World.initial
    RecordNamesToken t.secretPrefix "web" world ∧
      ∀ token ∈ world.tokens, ∀ other ∈ world.tokens, token.BoundTo "web" → other.BoundTo "web" → token = other := by
  intro t pages throttled world
  exact reconcileAll_one_token_per_family t _
    (fun pass member family => by
      rcases List.mem_pair.mp member with rfl | rfl
      · exact ⟨fun _ _ => rfl, fun _ _ failed => (nomatch failed)⟩
      · exact Env.reliable_tolerated _ _) "web"


/-! ## Records no pass resets -/

/-- A pass, whatever fails, leaves alone a family it does not list and that holds no live token:
it writes no record of the family and creates no token bound to it. -/
theorem reconcile_unowned (t : TaskDefinitionLister) (pass : PassEnv) (world : World) (family : String)
    (unlisted : ∀ resources, t.list pass.pages = .ok resources → family ∉ resources.map TaskFamily.id)
    (unowned : ∀ token ∈ world.tokens, ¬ token.BoundTo family) :
    (reconcile t pass world).2.secrets (secretName t.secretPrefix family) =
        world.secrets (secretName t.secretPrefix family) ∧
      ∀ token ∈ (reconcile t pass world).2.tokens, ¬ token.BoundTo family := by
  rcases reconcile_cases t pass world with ⟨err, failed⟩ | ⟨families, groups, -, listed, grouped⟩
  · rw [failed]
    exact ⟨rfl, unowned⟩
  have notListed : family ∉ families := by simpa only [ids_taskFamily] using unlisted _ listed
  obtain ⟨-, created, written⟩ := upsertAll_changes t pass families world
  obtain ⟨fewer, -, written'⟩ := deleteAll_changes t pass groups
    ((ownedFamilies world.tokens).filter fun family => family ∉ families) (upsertAll pass (families.map t.taskFamily) world).2
  rw [reconcile_of_listed t pass world listed grouped]
  refine ⟨(written' _ fun g orphan same => ?_).trans (written _ fun g listedG same => ?_), fun token member bound => ?_⟩
  · -- an orphan holds a live token
    obtain rfl := secretName_injective _ same
    obtain ⟨token, live, bound⟩ := mem_ownedFamilies.mp (List.mem_filter.mp orphan).1
    exact unowned token live bound
  · obtain rfl := secretName_injective _ same
    exact notListed listedG
  · by_cases old : token ∈ world.tokens
    · exact unowned token old bound
    · obtain ⟨g, listedG, bound'⟩ := created token (fewer member) old
      exact notListed (bound.unique bound' ▸ listedG)

/-- Whatever fails, passes that never list a family holding no live token keep its record as it
is and create no token bound to it. A record that a failed `DeleteTokenInfo` left naming a deleted
token is so never reset: `TokenList` no longer reports the family, and no later pass cleans it. -/
theorem reconcileAll_keeps_record (t : TaskDefinitionLister) (family : String) :
    ∀ (passes : List PassEnv) (world : World),
      (∀ pass ∈ passes, ∀ resources, t.list pass.pages = .ok resources → family ∉ resources.map TaskFamily.id) →
      (∀ token ∈ world.tokens, ¬ token.BoundTo family) →
      (reconcileAll t passes world).secrets (secretName t.secretPrefix family) =
          world.secrets (secretName t.secretPrefix family) ∧
        ∀ token ∈ (reconcileAll t passes world).tokens, ¬ token.BoundTo family
  | [], _, _, unowned => ⟨rfl, unowned⟩
  | pass :: passes, world, unlisted, unowned => by
    obtain ⟨record, unowned'⟩ :=
      reconcile_unowned t pass world family (unlisted pass (List.mem_cons_self _ _)) unowned
    obtain ⟨record', unownedAll⟩ := reconcileAll_keeps_record t family passes _
      (fun other member => unlisted other (List.mem_cons_of_mem _ member)) unowned'
    exact ⟨record'.trans record, unownedAll⟩

/-- `web` is served, then no longer listed, and the `UpdateSecret` of its `DeleteTokenInfo` fails
after its token is deleted: its record still names the deleted token, and a later pass in which
nothing fails keeps it so. -/
theorem reconcileAll_keeps_record_web :
    let t : TaskDefinitionLister := ⟨"cluster", "prefix"⟩
    let pages := [PageReply.tasks [some ⟨"arn:aws:ecs:us-east-1:123456789012:task-definition/web:1",
      [⟨some meshTag, some "true"⟩]⟩]]
    let throttled : PassEnv := ⟨[], Env.reliable "" "", fun _ => Env.reliable "" "",
      fun _ => ⟨fun call => match call with | .updateSecret _ _ => some "throttled" | _ => none, "", ""⟩⟩
    let world := reconcileAll t [PassEnv.reliable pages fun _ => ("accessor-1", "secret"), throttled] World.initial
    world.secrets (secretName t.secretPrefix "web") ≠ some emptySecret ∧
      (reconcileAll t [PassEnv.reliable [] fun _ => ("accessor-2", "secret")] world).secrets
        (secretName t.secretPrefix "web") = world.secrets (secretName t.secretPrefix "web") := by
  intro t pages throttled world
  have empty : world.tokens = [] := by decide
  refine ⟨by decide, (reconcileAll_keeps_record t "web" _ world (fun pass member resources listed => ?_)
    fun token member => absurd member (empty ▸ List.not_mem_nil token)).1⟩
  obtain rfl := List.mem_singleton.mp member
  cases listed
  exact List.not_mem_nil _


/-! ## Tokens no pass deletes -/

/-- A pass, whatever fails, keeps every live token bound to a family it lists. -/
theorem reconcile_keeps_listed (t : TaskDefinitionLister) (pass : PassEnv) (world : World) (family : String)
    (listed : ∀ resources, t.list pass.pages = .ok resources → family ∈ resources.map TaskFamily.id)
    {token : ACLToken} (member : token ∈ world.tokens) (bound : token.BoundTo family) :
    token ∈ (reconcile t pass world).2.tokens := by
  rcases reconcile_cases t pass world with ⟨err, failed⟩ | ⟨families, groups, -, listed', grouped⟩
  · rw [failed]
    exact member
  have listedFamily : family ∈ families := by simpa only [ids_taskFamily] using listed _ listed'
  obtain ⟨kept, -, -⟩ := upsertAll_changes t pass families world
  rw [reconcile_of_listed t pass world listed' grouped]
  by_contra gone
  obtain ⟨g, orphan, bound'⟩ := deleteAll_boundTo t pass grouped _ kept token (kept member) gone
  exact of_decide_eq_true (List.mem_filter.mp orphan).2 (bound'.unique bound ▸ listedFamily)

/-- Whatever fails, passes that all list a family keep every live token bound to it: a token an
`Upsert` created and could not record stays live beside the one the next pass creates. -/
theorem reconcileAll_keeps_tokens (t : TaskDefinitionLister) (family : String) (token : ACLToken)
    (bound : token.BoundTo family) :
    ∀ (passes : List PassEnv) (world : World),
      (∀ pass ∈ passes, ∀ resources, t.list pass.pages = .ok resources → family ∈ resources.map TaskFamily.id) →
      token ∈ world.tokens → token ∈ (reconcileAll t passes world).tokens
  | [], _, _, member => member
  | pass :: passes, world, listed, member =>
    reconcileAll_keeps_tokens t family token bound passes _ (fun other later => listed other (List.mem_cons_of_mem _ later))
      (reconcile_keeps_listed t pass world family (listed pass (List.mem_cons_self _ _)) member bound)

/-- The token a pass whose `UpdateSecret` fails leaves unrecorded is still live after a pass in
which nothing fails, which records a second token for `web`. -/
theorem reconcileAll_keeps_tokens_web :
    let t : TaskDefinitionLister := ⟨"cluster", "prefix"⟩
    let pages := [PageReply.tasks [some ⟨"arn:aws:ecs:us-east-1:123456789012:task-definition/web:1",
      [⟨some meshTag, some "true"⟩]⟩]]
    let throttled : PassEnv := ⟨pages, Env.reliable "" "",
      fun _ => ⟨fun call => match call with | .updateSecret _ _ => some "throttled" | _ => none, "accessor-1", "secret"⟩,
      fun _ => Env.reliable "" ""⟩
    let leaked : ACLToken := ⟨"accessor-1", "secret", "Token for web service", [⟨"web"⟩]⟩
    leaked ∈ (reconcileAll t [throttled] World.initial).tokens ∧
      leaked ∈ (reconcileAll t [PassEnv.reliable pages fun _ => ("accessor-2", "secret")]
        (reconcileAll t [throttled] World.initial)).tokens ∧
      (reconcileAll t [throttled, PassEnv.reliable pages fun _ => ("accessor-2", "secret")] World.initial).tokens.map
        (·.accessorID) = ["accessor-1", "accessor-2"] := by
  intro t pages throttled leaked
  have member : leaked ∈ (reconcileAll t [throttled] World.initial).tokens := by decide
  refine ⟨member, reconcileAll_keeps_tokens t "web" leaked rfl _ _ (fun pass member resources listed => ?_) member,
    by decide⟩
  obtain rfl := List.mem_singleton.mp member
  cases listed
  exact List.mem_singleton_self _

end ConsulEcs.Controller
