import Mathlib
import ConsulEcs.Model.Reconcile
import ConsulEcs.Proofs.Commute

/-! # What a reconcile pass does

Whatever fails, a pass keeps to its scope: it deletes only tokens bound to families `List` no
longer reports, creates only tokens bound to families it reports, writes only the records of those
families, and changes nothing when a listing fails. One family's faults do not hold back another:
from sound records, every family whose own operation meets no fault and whose name Consul accepts
converges, whatever the others meet, the records stay sound, and the pass reports at most one
error for each other family. When nothing fails, one pass over such families converges: every
listed family's record names a live token bound to it, no live token is bound to a family that is
not listed, and the next pass changes nothing.
-/

namespace ConsulEcs.Controller

/-! ## What `List` returns -/

theorem addFamilies_nodup {seen : List String} (distinct : seen.Nodup) (families : List String) :
    (addFamilies seen families).Nodup :=
  distinct.append ((nodup_firstOccurrences families).filter _)
    fun _ member member' => of_decide_eq_true (List.mem_filter.mp member').2 member

/-- Whatever the pages, `List` returns one resource for each of distinct families. -/
theorem listPages_ok (t : TaskDefinitionLister) :
    ∀ (pages : List PageReply) (seen : List String) (resources : List TaskFamily), seen.Nodup →
      t.listPages pages seen (seen.map t.taskFamily) = .ok resources →
      ∃ families : List String, families.Nodup ∧ resources = families.map t.taskFamily
  | [], seen, resources, distinct, listed => ⟨seen, distinct, by cases listed; rfl⟩
  | .listFailed _ :: _, _, _, _, listed => by cases listed
  | .describeFailed _ :: _, _, _, _, listed => by cases listed
  | .tasks tasks :: rest, seen, resources, distinct, listed => by
    simp only [TaskDefinitionLister.listPages, collect_eq] at listed
    rcases parsed : meshFamilies tasks with err | families <;>
      simp only [parsed, Except.mapError, Except.map, listPages_of_last] at listed
    · cases listed
    · exact listPages_ok t rest _ resources (addFamilies_nodup distinct families) listed

theorem list_ok {t : TaskDefinitionLister} {pages : List PageReply} {resources : List TaskFamily}
    (listed : t.list pages = .ok resources) :
    ∃ families : List String, families.Nodup ∧ resources = families.map t.taskFamily :=
  listPages_ok t pages [] resources List.nodup_nil listed

@[simp] theorem taskFamily_taskFamily (t : TaskDefinitionLister) (family : String) :
    (t.taskFamily family).taskFamily = family := rfl

@[simp] theorem taskFamily_secretPrefix (t : TaskDefinitionLister) (family : String) :
    (t.taskFamily family).secretPrefix = t.secretPrefix := rfl

theorem ids_taskFamily (t : TaskDefinitionLister) (families : List String) :
    (families.map t.taskFamily).map TaskFamily.id = families := by
  simp [Function.comp_def, TaskFamily.id, TaskDefinitionLister.taskFamily]

/-! ## The families `TokenList` reports -/

theorem owner_eq_some {token : ACLToken} {family : String} : owner token = some family ↔ token.BoundTo family := by
  obtain ⟨_, _, _, identities⟩ := token
  rcases identities with _ | ⟨⟨name⟩, _ | ⟨second, more⟩⟩ <;> simp [owner, ACLToken.BoundTo]

theorem mem_ownedFamilies {tokens : List ACLToken} {family : String} :
    family ∈ ownedFamilies tokens ↔ ∃ token ∈ tokens, token.BoundTo family := by
  simp [ownedFamilies, mem_firstOccurrences, owner_eq_some]

/-! ## What each operation of a pass changes, whatever fails -/

/-- An `Upsert` only adds tokens bound to its family and writes only its family's record. -/
theorem upsert_changes (r : TaskFamily) (env : Env) (world : World) :
    world.tokens ⊆ (r.upsert.run env world).world.tokens ∧
      (∀ token ∈ (r.upsert.run env world).world.tokens, token ∉ world.tokens → token.BoundTo r.taskFamily) ∧
      ∀ name ≠ r.secretName, (r.upsert.run env world).world.secrets name = world.secrets name := by
  refine ⟨upsert_tokens_subset r, ?_⟩
  rcases upsert_world r with same | ⟨tokens, secrets⟩
  · rw [same]
    exact ⟨fun _ member fresh => absurd member fresh, fun _ _ => rfl⟩
  · refine ⟨fun token member fresh => ?_, secrets⟩
    rcases mem_insertToken.mp (tokens ▸ member) with rfl | old
    · exact createdToken_boundTo r
    · exact absurd old fresh

/-- A `DeleteTokenInfo` only deletes tokens with the accessor ID of a token of its group, and
writes only its family's record. -/
theorem deleteTokenInfo_changes (t : TaskDefinitionLister) (family : String) (tokens : List ACLToken)
    (env : Env) (world : World) :
    let run := (t.deleteTokenInfo family tokens).run env world
    run.world.tokens ⊆ world.tokens ∧
      (∀ token ∈ world.tokens, token ∉ run.world.tokens → token.accessorID ∈ tokens.map (·.accessorID)) ∧
      ∀ name ≠ secretName t.secretPrefix family, run.world.secrets name = world.secrets name := by
  obtain ⟨k, -, remaining, ok, failed⟩ := @deleteTokenInfo_take env world t family tokens
  refine ⟨remaining ▸ (List.filter_sublist _).subset, fun token member gone => ?_, fun name other => ?_⟩
  · rw [remaining, List.mem_filter] at gone
    have named : token.accessorID ∈ (tokens.take k).map (·.accessorID) := by simpa [member] using gone
    exact List.map_subset _ (List.take_subset _ _) named
  · rcases result : ((t.deleteTokenInfo family tokens).run env world).value with err | _
    · rw [failed err result]
    · rw [(ok result).2, Function.update_noteq other]

section Phases

variable (t : TaskDefinitionLister) (pass : PassEnv)

/-- The upserts of a pass only add tokens, each bound to a listed family, and write only the
records of listed families. -/
theorem upsertAll_changes :
    ∀ (families : List String) (world : World),
      world.tokens ⊆ (upsertAll pass (families.map t.taskFamily) world).2.tokens ∧
      (∀ token ∈ (upsertAll pass (families.map t.taskFamily) world).2.tokens, token ∉ world.tokens →
        ∃ family ∈ families, token.BoundTo family) ∧
      ∀ name, (∀ family ∈ families, name ≠ secretName t.secretPrefix family) →
        (upsertAll pass (families.map t.taskFamily) world).2.secrets name = world.secrets name
  | [], world => ⟨List.Subset.refl _, fun _ member fresh => absurd member fresh, fun _ _ => rfl⟩
  | family :: rest, world => by
    obtain ⟨kept, created, written⟩ := upsert_changes (t.taskFamily family) (pass.upsertEnv family) world
    obtain ⟨kept', created', written'⟩ := upsertAll_changes rest
      ((t.taskFamily family).upsert.run (pass.upsertEnv family) world).world
    refine ⟨fun token member => kept' (kept member), fun token member fresh => ?_, fun name other => ?_⟩
    · by_cases old : token ∈ ((t.taskFamily family).upsert.run (pass.upsertEnv family) world).world.tokens
      · exact ⟨family, List.mem_cons_self _ _, created token old fresh⟩
      · obtain ⟨bound, listed, bound'⟩ := created' token member old
        exact ⟨bound, List.mem_cons_of_mem _ listed, bound'⟩
    · exact (written' name fun family' listed => other family' (List.mem_cons_of_mem _ listed)).trans
        (written name (other family (List.mem_cons_self _ _)))

/-- The deletes of a pass only delete tokens with the accessor ID of a token of an orphan's group,
and write only the records of the orphans. -/
theorem deleteAll_changes (groups : TokenMap) :
    ∀ (orphans : List String) (world : World),
      (deleteAll t pass groups orphans world).2.tokens ⊆ world.tokens ∧
      (∀ token ∈ world.tokens, token ∉ (deleteAll t pass groups orphans world).2.tokens →
        ∃ family ∈ orphans, token.accessorID ∈ (groups family).map (·.accessorID)) ∧
      ∀ name, (∀ family ∈ orphans, name ≠ secretName t.secretPrefix family) →
        (deleteAll t pass groups orphans world).2.secrets name = world.secrets name
  | [], world => ⟨List.Subset.refl _, fun _ member gone => absurd member gone, fun _ _ => rfl⟩
  | family :: rest, world => by
    obtain ⟨fewer, deleted, written⟩ :=
      deleteTokenInfo_changes t family (groups family) (pass.deleteEnv family) world
    obtain ⟨fewer', deleted', written'⟩ := deleteAll_changes groups rest
      ((t.deleteTokenInfo family (groups family)).run (pass.deleteEnv family) world).world
    refine ⟨fun token member => fewer (fewer' member), fun token member gone => ?_, fun name other => ?_⟩
    · by_cases kept : token ∈ ((t.deleteTokenInfo family (groups family)).run (pass.deleteEnv family) world).world.tokens
      · obtain ⟨orphan, listed, named⟩ := deleted' token kept gone
        exact ⟨orphan, List.mem_cons_of_mem _ listed, named⟩
      · exact ⟨family, List.mem_cons_self _ _, deleted token member kept⟩
    · exact (written' name fun family' listed => other family' (List.mem_cons_of_mem _ listed)).trans
        (written name (other family (List.mem_cons_self _ _)))

/-- A pass whose listings succeed runs the upserts of the listed families and then the deletes of
the families `TokenList` reported that are not listed. -/
theorem reconcile_of_listed {families : List String} {groups : TokenMap} (world : World)
    (listed : t.list pass.pages = .ok (families.map t.taskFamily))
    (grouped : (t.tokenList.run pass.listEnv world).value = (groups, none)) :
    reconcile t pass world =
      let upserted := upsertAll pass (families.map t.taskFamily) world
      let deleted := deleteAll t pass groups
        ((ownedFamilies world.tokens).filter fun family => family ∉ families) upserted.2
      (.ok (upserted.1 ++ deleted.1), deleted.2) := by
  simp only [reconcile, listed, grouped, ids_taskFamily]

/-- A pass either fails on a listing and changes nothing, or its listings succeed. -/
theorem reconcile_cases (world : World) :
    (∃ err, reconcile t pass world = (.error err, world)) ∨
      ∃ (families : List String) (groups : TokenMap), families.Nodup ∧
        t.list pass.pages = .ok (families.map t.taskFamily) ∧
        (t.tokenList.run pass.listEnv world).value = (groups, none) := by
  unfold reconcile
  rcases listed : t.list pass.pages with err | resources
  · exact .inl ⟨err, rfl⟩
  · obtain ⟨families, distinct, rfl⟩ := list_ok listed
    rcases grouped : (t.tokenList.run pass.listEnv world).value with ⟨groups, _ | err⟩
    · exact .inr ⟨families, groups, distinct, rfl, rfl⟩
    · exact .inl ⟨err, rfl⟩

/-- The group `TokenList` reports for a family is the family's live tokens. -/
theorem groups_of_listed {groups : TokenMap} {world : World}
    (grouped : (t.tokenList.run pass.listEnv world).value = (groups, none)) (family : String) :
    groups family = world.tokens.filter (·.BoundTo family) := by
  simpa [grouped] using @tokenList_group pass.listEnv world t family (by rw [grouped])

/-- Every token the deletes of a pass remove, from a store that kept the listed tokens, is bound to
an orphan: it has the accessor ID of a token of the orphan's group, so it is that token. -/
theorem deleteAll_boundTo {groups : TokenMap} {world : World}
    (grouped : (t.tokenList.run pass.listEnv world).value = (groups, none)) (orphans : List String)
    {before : World} (kept : world.tokens ⊆ before.tokens) :
    ∀ token ∈ before.tokens, token ∉ (deleteAll t pass groups orphans before).2.tokens →
      ∃ g ∈ orphans, token.BoundTo g := by
  intro token member gone
  obtain ⟨g, isOrphan, named⟩ := (deleteAll_changes t pass groups orphans before).2.1 token member gone
  obtain ⟨u, inGroup, same⟩ := List.mem_map.mp named
  rw [groups_of_listed t pass grouped, List.mem_filter] at inGroup
  obtain rfl := before.token_eq_of_accessorID_eq (kept inGroup.1) member same
  exact ⟨g, isOrphan, of_decide_eq_true inGroup.2⟩

end Phases

/-! ## The scope of a pass -/

/-- Whatever fails, a pass that ends in an error changes nothing; otherwise it deletes only tokens
bound to families `List` no longer reports, creates only tokens bound to families it reports, and
writes only the records of the families it reports and of those that held tokens. -/
theorem reconcile_scope (t : TaskDefinitionLister) (pass : PassEnv) (world : World) :
    (∀ err, (reconcile t pass world).1 = .error err → (reconcile t pass world).2 = world) ∧
    ∀ resources, t.list pass.pages = .ok resources →
      (∀ token ∈ world.tokens, token ∉ (reconcile t pass world).2.tokens →
        ∃ family, token.BoundTo family ∧ family ∉ resources.map TaskFamily.id) ∧
      (∀ token ∈ (reconcile t pass world).2.tokens, token ∉ world.tokens →
        ∃ resource ∈ resources, token.BoundTo resource.taskFamily) ∧
      ∀ name, (reconcile t pass world).2.secrets name ≠ world.secrets name →
        ∃ family, name = secretName t.secretPrefix family ∧
          (family ∈ resources.map TaskFamily.id ∨ ∃ token ∈ world.tokens, token.BoundTo family) := by
  rcases reconcile_cases t pass world with ⟨err, failed⟩ | ⟨families, groups, -, listed, grouped⟩
  · rw [failed]
    exact ⟨fun _ _ => rfl, fun _ _ => ⟨fun _ member gone => absurd member gone,
      fun _ member fresh => absurd member fresh, fun _ changed => absurd rfl changed⟩⟩
  let orphans := (ownedFamilies world.tokens).filter fun family => family ∉ families
  obtain ⟨kept, created, written⟩ := upsertAll_changes t pass families world
  obtain ⟨fewer, -, written'⟩ :=
    deleteAll_changes t pass groups orphans (upsertAll pass (families.map t.taskFamily) world).2
  rw [reconcile_of_listed t pass world listed grouped]
  refine ⟨fun err failed => (nomatch failed), fun resources listed' => ?_⟩
  obtain rfl : resources = families.map t.taskFamily := by rw [listed] at listed'; cases listed'; rfl
  rw [ids_taskFamily]
  refine ⟨fun token member gone => ?_, fun token member fresh => ?_, fun name changed => ?_⟩
  · obtain ⟨orphan, isOrphan, bound⟩ := deleteAll_boundTo t pass grouped orphans kept token (kept member) gone
    exact ⟨orphan, bound, of_decide_eq_true (List.mem_filter.mp isOrphan).2⟩
  · obtain ⟨family, listedFamily, bound⟩ := created token (fewer member) fresh
    exact ⟨t.taskFamily family, List.mem_map_of_mem _ listedFamily, bound⟩
  · by_cases upserted : ∃ family ∈ families, name = secretName t.secretPrefix family
    · obtain ⟨family, listedFamily, rfl⟩ := upserted
      exact ⟨family, rfl, .inl listedFamily⟩
    by_cases reset : ∃ family ∈ orphans, name = secretName t.secretPrefix family
    · obtain ⟨family, isOrphan, rfl⟩ := reset
      exact ⟨family, rfl, .inr (mem_ownedFamilies.mp (List.mem_filter.mp isOrphan).1)⟩
    push_neg at upserted reset
    exact absurd ((written' name reset).trans (written name upserted)) changed

/-! ## A pass in which nothing fails -/

/-- The pass in which no call fails, the `Upsert` of `family` being offered the identifiers
`proposal family` for a token it creates. -/
def PassEnv.reliable (pages : List PageReply) (proposal : String → String × String) : PassEnv :=
  ⟨pages, Env.reliable "" "", fun family => Env.reliable (proposal family).1 (proposal family).2,
    fun _ => Env.reliable "" ""⟩

@[simp] theorem PassEnv.reliable_listEnv (pages : List PageReply) (proposal : String → String × String) :
    (PassEnv.reliable pages proposal).listEnv = Env.reliable "" "" := rfl

@[simp] theorem PassEnv.reliable_upsertEnv (pages : List PageReply) (proposal : String → String × String)
    (family : String) :
    (PassEnv.reliable pages proposal).upsertEnv family = Env.reliable (proposal family).1 (proposal family).2 := rfl

@[simp] theorem PassEnv.reliable_deleteEnv (pages : List PageReply) (proposal : String → String × String)
    (family : String) : (PassEnv.reliable pages proposal).deleteEnv family = Env.reliable "" "" := rfl

/-- Every record exists and decodes, and names no live token of another family. -/
structure RecordsSound (secretPrefix : String) (world : World) : Prop where
  stored : ∀ family, ∃ value secret, world.secrets (secretName secretPrefix family) = some value ∧
    Json.unmarshal value = .ok secret
  owned : RecordsOwned secretPrefix world

/-- The family's record names a live token bound to the family. -/
def Served (secretPrefix family : String) (world : World) : Prop :=
  ∃ value secret, world.secrets (secretName secretPrefix family) = some value ∧ Json.unmarshal value = .ok secret ∧
    ∃ token ∈ world.tokens, token.accessorID = secret.accessorID ∧ token.BoundTo family

/-- What a pass converges to for the listed `families`: sound records, every listed family served,
and no live token bound to a family that is not listed. -/
structure Converged (secretPrefix : String) (families : List String) (world : World) : Prop where
  sound : RecordsSound secretPrefix world
  served : ∀ family ∈ families, Served secretPrefix family world
  listed : ∀ token ∈ world.tokens, ∀ family, token.BoundTo family → family ∈ families

open Classical in
/-- What a pass whose listings return `families` reports from `world`: the errors of the families'
`Upsert`s, then those of the orphans' `DeleteTokenInfo`s, each in the context of its operation, at
most one for each family whose operation meets a fault or whose name Consul rejects. -/
structure CollectedErrors (pass : PassEnv) (world : World) (families upsertErrors deleteErrors : List String) :
    Prop where
  upserts : upsertErrors.length ≤ (families.filter fun family =>
    ¬ ((pass.upsertEnv family).fault = (fun _ => none) ∧ isValidServiceIdentityName family)).length
  upsertContexts : ∀ err ∈ upsertErrors, ∃ context ∈ upsertErrorContexts, ∃ e, err = context ++ e
  deletes : deleteErrors.length ≤ ((ownedFamilies world.tokens).filter fun family =>
    family ∉ families ∧ ¬ (pass.deleteEnv family).fault = fun _ => none).length
  deleteContexts : ∀ err ∈ deleteErrors, ∃ context ∈ deleteTokenInfoErrorContexts, ∃ e, err = context ++ e

open Classical in
/-- A pass reports no error when no family's operation meets a fault or a rejected name. -/
theorem CollectedErrors.eq_nil {pass : PassEnv} {world : World} {families upsertErrors deleteErrors : List String}
    (collected : CollectedErrors pass world families upsertErrors deleteErrors)
    (clean : ∀ family ∈ families, (pass.upsertEnv family).fault = (fun _ => none) ∧ isValidServiceIdentityName family)
    (clean' : ∀ family, (pass.deleteEnv family).fault = fun _ => none) :
    upsertErrors = [] ∧ deleteErrors = [] := by
  have noUpserts : families.filter (fun family =>
      ¬ ((pass.upsertEnv family).fault = (fun _ => none) ∧ isValidServiceIdentityName family)) = [] :=
    List.filter_eq_nil_iff.mpr fun family member => by simpa using clean family member
  have noDeletes : (ownedFamilies world.tokens).filter (fun family =>
      family ∉ families ∧ ¬ (pass.deleteEnv family).fault = fun _ => none) = [] :=
    List.filter_eq_nil_iff.mpr fun family _ => by simp [clean' family]
  have upserts := collected.upserts
  have deletes := collected.deletes
  rw [noUpserts] at upserts
  rw [noDeletes] at deletes
  exact ⟨List.eq_nil_of_length_eq_zero (Nat.le_zero.mp upserts), List.eq_nil_of_length_eq_zero (Nat.le_zero.mp deletes)⟩

theorem recordsSound_initial (secretPrefix : String) : RecordsSound secretPrefix World.initial :=
  ⟨fun _ => ⟨emptySecret, ⟨"", ""⟩, rfl, rfl⟩, recordsOwned_initial secretPrefix⟩

theorem Served.keep {secretPrefix family : String} {world next : World} (served : Served secretPrefix family world)
    (record : next.secrets (secretName secretPrefix family) = world.secrets (secretName secretPrefix family))
    (kept : ∀ token ∈ world.tokens, token.BoundTo family → token ∈ next.tokens) : Served secretPrefix family next := by
  obtain ⟨value, secret, stored, decodes, token, member, named, bound⟩ := served
  exact ⟨value, secret, record.trans stored, decodes, token, kept token member bound, named, bound⟩

section Steps

variable {world : World}

theorem readTokens_reliable (accessorID secretID : String) :
    ∀ (tokens : List ACLToken) (groups : TokenMap), tokens ⊆ world.tokens →
      ((readTokens (tokens.map (·.accessorID)) groups).run (Env.reliable accessorID secretID) world).value.2 = none
  | [], _, _ => rfl
  | token :: rest, groups, live => by
    obtain ⟨hit, found⟩ := tokenRead_reliable_of_live accessorID secretID ⟨token, live (List.mem_cons_self _ _), rfl⟩
    have restLive : rest ⊆ world.tokens := fun _ member => live (List.mem_cons_of_mem _ member)
    simp only [List.map_cons, readTokens, Ext.run_bind, tokenRead_world, found]
    split <;> exact readTokens_reliable accessorID secretID rest _ restLive

/-- When no call fails, `TokenList` reads every token. -/
theorem tokenList_reliable (t : TaskDefinitionLister) (accessorID secretID : String) :
    (t.tokenList.run (Env.reliable accessorID secretID) world).value.2 = none := by
  simp only [TaskDefinitionLister.tokenList, Ext.run_bind, tokenList_world, tokenList_value, Env.reliable]
  exact readTokens_reliable accessorID secretID world.tokens _ (List.Subset.refl _)

/-! ## Each operation on sound records, whatever fails and when nothing does -/

/-- A token added under a fresh accessor ID keeps the records sound, and every other fresh ID
fresh, when every record that changed decodes to the new token's accessor ID and its family owns
the token. -/
theorem RecordsSound.insert {secretPrefix : String} (sound : RecordsSound secretPrefix world) {next : World}
    {token : ACLToken} (fresh : FreshAccessorID secretPrefix world token.accessorID)
    (tokens : next.tokens = insertToken token world.tokens)
    (stored : ∀ family, ∃ value secret, next.secrets (secretName secretPrefix family) = some value ∧
      Json.unmarshal value = .ok secret)
    (records : ∀ family value secret, next.secrets (secretName secretPrefix family) = some value →
      Json.unmarshal value = .ok secret →
      (secret.accessorID = token.accessorID ∧ token.BoundTo family) ∨
        world.secrets (secretName secretPrefix family) = some value) :
    RecordsSound secretPrefix next ∧
      ∀ other, FreshAccessorID secretPrefix world other → other ≠ token.accessorID →
        FreshAccessorID secretPrefix next other := by
  have live : ∀ u ∈ next.tokens, u = token ∨ u ∈ world.tokens := fun u member => mem_insertToken.mp (tokens ▸ member)
  refine ⟨⟨stored, fun family value secret stored' decodes u member named => ?_⟩,
    fun other fresh' distinct => ⟨fresh'.1, fun taken => ?_, fun family value secret stored' decodes => ?_⟩⟩
  · rcases records family value secret stored' decodes with ⟨recorded, bound⟩ | old <;>
      rcases live u member with rfl | old'
    · exact bound
    · exact absurd (List.mem_map_of_mem _ old') (named.trans recorded ▸ fresh.2.1)
    · exact absurd named.symm (fresh.2.2 family value secret old decodes)
    · exact sound.owned family value secret old decodes u old' named
  · obtain ⟨u, member, named⟩ := List.mem_map.mp taken
    rcases live u member with rfl | old
    · exact distinct named.symm
    · exact fresh'.2.1 (named ▸ List.mem_map_of_mem _ old)
  · rcases records family value secret stored' decodes with ⟨recorded, -⟩ | old
    · exact recorded ▸ distinct.symm
    · exact fresh'.2.2 family value secret old decodes

/-- Adding a token bound to `family` under a fresh accessor ID and recording it in the family's
record keeps the records sound, serves the family, and keeps every other fresh ID fresh. -/
theorem RecordsSound.record {secretPrefix family : String} (sound : RecordsSound secretPrefix world) {next : World}
    {token : ACLToken} (fresh : FreshAccessorID secretPrefix world token.accessorID) (bound : token.BoundTo family)
    (tokens : next.tokens = insertToken token world.tokens)
    (secrets : next.secrets = Function.update world.secrets (secretName secretPrefix family)
      (some (Json.marshal ⟨token.accessorID, token.secretID⟩))) :
    RecordsSound secretPrefix next ∧ Served secretPrefix family next ∧
      ∀ other, FreshAccessorID secretPrefix world other → other ≠ token.accessorID →
        FreshAccessorID secretPrefix next other := by
  -- the family's record now decodes to the new token's accessor ID; every other record is kept
  have recorded : ∀ value secret, next.secrets (secretName secretPrefix family) = some value →
      Json.unmarshal value = .ok secret → secret.accessorID = token.accessorID := fun value secret stored decodes => by
    rw [secrets, Function.update_same, Option.some_inj] at stored
    rw [← stored, Json.unmarshal_marshal, Except.ok.injEq] at decodes
    rw [← decodes]
  have others : ∀ g ≠ family, next.secrets (secretName secretPrefix g) = world.secrets (secretName secretPrefix g) :=
    fun g other => by rw [secrets, Function.update_noteq fun same => other (secretName_injective _ same)]
  have stored : next.secrets (secretName secretPrefix family) = some (Json.marshal ⟨token.accessorID, token.secretID⟩) := by
    rw [secrets, Function.update_same]
  obtain ⟨sound', fresh'⟩ := sound.insert fresh tokens
    (fun g => by
      by_cases same : g = family
      · exact same ▸ ⟨_, _, stored, Json.unmarshal_marshal _⟩
      · rw [others g same]
        exact sound.stored g)
    fun g value secret stored' decodes => by
      by_cases same : g = family
      · subst same
        exact .inl ⟨recorded value secret stored' decodes, bound⟩
      · exact .inr ((others g same).symm.trans stored')
  exact ⟨sound', ⟨_, _, stored, Json.unmarshal_marshal _, token, tokens ▸ mem_insertToken.mpr (.inl rfl), rfl, bound⟩,
    fresh'⟩

/-- An `Upsert`, whatever fails, on sound records and offered a fresh accessor ID, keeps the records
sound and every other fresh ID fresh: a token it creates and cannot record names no record. -/
theorem upsert_sound (r : TaskFamily) (env : Env) (sound : RecordsSound r.secretPrefix world)
    (fresh : FreshAccessorID r.secretPrefix world env.accessorID) :
    RecordsSound r.secretPrefix (r.upsert.run env world).world ∧
      ∀ other, FreshAccessorID r.secretPrefix world other → other ≠ env.accessorID →
        FreshAccessorID r.secretPrefix (r.upsert.run env world).world other := by
  have accepted : (r.createdToken env world).accessorID = env.accessorID := if_pos ⟨fresh.1, fresh.2.1⟩
  rw [← accepted] at fresh ⊢
  by_cases needs : r.NeedsToken env world
  · obtain ⟨calls, eq⟩ := upsert_of_needsToken r needs
    rw [eq]
    rcases @updateServiceToken_world env world r with ⟨same, -⟩ | ⟨tokens, ⟨secrets, -⟩ | ⟨-, secrets⟩⟩
    · rw [same]
      exact ⟨sound, fun _ fresh' _ => fresh'⟩
    · exact sound.insert fresh tokens (by rw [secrets]; exact sound.stored)
        fun _ _ _ stored _ => .inr (by rwa [secrets] at stored)
    · obtain ⟨sound', -, fresh'⟩ := sound.record fresh (createdToken_boundTo r) tokens secrets
      exact ⟨sound', fresh'⟩
  · rw [(upsert_of_not_needsToken r needs).1]
    exact ⟨sound, fun _ fresh' _ => fresh'⟩

/-- An environment in which no call fails is `Env.reliable` of its identifiers. -/
theorem Env.eq_reliable {env : Env} (reliable : env.fault = fun _ => none) :
    env = Env.reliable env.accessorID env.secretID := by
  cases env
  cases reliable
  rfl

/-- An `Upsert` that meets no fault, of a family whose name Consul accepts, on sound records and
offered a fresh accessor ID, succeeds and serves its family. -/
theorem upsert_reliable (r : TaskFamily) (env : Env) (reliable : env.fault = fun _ => none)
    (valid : isValidServiceIdentityName r.taskFamily) (sound : RecordsSound r.secretPrefix world) (fresh : FreshAccessorID r.secretPrefix world env.accessorID) :
    (r.upsert.run env world).value = .ok () ∧ Served r.secretPrefix r.taskFamily (r.upsert.run env world).world := by
  rw [Env.eq_reliable reliable]
  obtain ⟨value, secret, stored, decodes⟩ := sound.stored r.taskFamily
  by_cases named : secret.accessorID ≠ "" ∧ ∃ token ∈ world.tokens, token.accessorID = secret.accessorID
  · rw [upsert_of_live r _ _ stored decodes named.1 named.2]
    obtain ⟨token, member, accessor⟩ := named.2
    exact ⟨rfl, value, secret, stored, decodes, token, member, accessor,
      sound.owned r.taskFamily value secret stored decodes token member accessor⟩
  · obtain ⟨ok, tokens, secrets⟩ := upsert_reliable_of_unnamed r env.accessorID env.secretID valid stored decodes named
    have accepted : (r.createdToken (Env.reliable env.accessorID env.secretID) world).accessorID = env.accessorID :=
      if_pos ⟨fresh.1, fresh.2.1⟩
    exact ⟨ok, (sound.record (by rw [accepted]; exact fresh) (createdToken_boundTo r) tokens secrets).2.1⟩

theorem deleteTokens_reliable (accessorID secretID : String) :
    ∀ (tokens : List ACLToken) (world : World),
      ((deleteTokens tokens).run (Env.reliable accessorID secretID) world).value = .ok ()
  | [], _ => rfl
  | token :: rest, world => by
    simp only [deleteTokens, Ext.run_bind, tokenDelete_run, Env.reliable]
    exact deleteTokens_reliable accessorID secretID rest (world.deleteToken token.accessorID)

/-- A `DeleteTokenInfo` that meets no fault, of an existing record, deletes the group and resets the
record. -/
theorem deleteTokenInfo_reliable (t : TaskDefinitionLister) (family : String) (tokens : List ACLToken)
    (env : Env) (reliable : env.fault = fun _ => none) {value : String}
    (stored : world.secrets (secretName t.secretPrefix family) = some value) :
    let run := (t.deleteTokenInfo family tokens).run env world
    run.value = .ok () ∧
      run.world.tokens = world.tokens.filter (fun token => token.accessorID ∉ tokens.map (·.accessorID)) ∧
      run.world.secrets = Function.update world.secrets (secretName t.secretPrefix family) (some emptySecret) := by
  rw [Env.eq_reliable reliable]
  intro run
  obtain ⟨k, -, v, -, loop⟩ := @deleteTokens_take (Env.reliable env.accessorID env.secretID) tokens
  obtain ⟨result, kept, -⟩ := loop world
  have ok : run.value = .ok () := by
    simp only [run]
    rw [deleteTokenInfo_eq, deleteTokens_reliable]
    dsimp only
    rw [updateSecret_run, kept, stored]
    rfl
  obtain ⟨k, -, remaining, whole, -⟩ :=
    @deleteTokenInfo_take (Env.reliable env.accessorID env.secretID) world t family tokens
  obtain ⟨length, secrets⟩ := whole ok
  rw [length, List.take_length] at remaining
  exact ⟨ok, remaining, secrets⟩

/-- Removing tokens and resetting a record to `{}` keeps the records sound. -/
theorem RecordsSound.reset {secretPrefix family : String} (sound : RecordsSound secretPrefix world) {next : World}
    (fewer : next.tokens ⊆ world.tokens)
    (secrets : next.secrets = Function.update world.secrets (secretName secretPrefix family) (some emptySecret)) :
    RecordsSound secretPrefix next := by
  refine ⟨fun g => ?_, fun g value secret stored decodes u member named => ?_⟩
  · by_cases same : g = family
    · exact ⟨emptySecret, ⟨"", ""⟩, by rw [secrets, same, Function.update_same], rfl⟩
    · rw [secrets, Function.update_noteq fun names => same (secretName_injective _ names)]
      exact sound.stored g
  · by_cases same : g = family
    · rw [secrets, same, Function.update_same, Option.some_inj] at stored
      obtain rfl : secret = ⟨"", ""⟩ := by rw [← stored] at decodes; cases decodes; rfl
      exact absurd named (world.accessor_ne u (fewer member))
    · rw [secrets, Function.update_noteq fun names => same (secretName_injective _ names)] at stored
      exact sound.owned g value secret stored decodes u (fewer member) named

/-- Removing tokens and resetting a record to `{}` keeps every fresh ID fresh. -/
theorem FreshAccessorID.reset {secretPrefix other : String} (fresh : FreshAccessorID secretPrefix world other)
    (family : String) {next : World} (fewer : next.tokens ⊆ world.tokens)
    (secrets : next.secrets = world.secrets ∨
      next.secrets = Function.update world.secrets (secretName secretPrefix family) (some emptySecret)) :
    FreshAccessorID secretPrefix next other := by
  refine ⟨fresh.1, fun taken => fresh.2.1 (List.map_subset _ fewer taken), fun g value secret stored decodes => ?_⟩
  rcases secrets with same | reset
  · exact fresh.2.2 g value secret (same ▸ stored) decodes
  · by_cases own : g = family
    · rw [reset, own, Function.update_same, Option.some_inj] at stored
      obtain rfl : secret = ⟨"", ""⟩ := by rw [← stored] at decodes; cases decodes; rfl
      exact fresh.1.symm
    · rw [reset, Function.update_noteq fun names => own (secretName_injective _ names)] at stored
      exact fresh.2.2 g value secret stored decodes

/-- A `DeleteTokenInfo`, whatever fails, keeps the records sound: it deletes tokens, and writes no
record or resets its own. -/
theorem deleteTokenInfo_sound (t : TaskDefinitionLister) (family : String) (tokens : List ACLToken) (env : Env)
    (sound : RecordsSound t.secretPrefix world) :
    RecordsSound t.secretPrefix ((t.deleteTokenInfo family tokens).run env world).world := by
  obtain ⟨fewer, -, -⟩ := deleteTokenInfo_changes t family tokens env world
  obtain ⟨k, -, -, ok, failed⟩ := @deleteTokenInfo_take env world t family tokens
  rcases result : ((t.deleteTokenInfo family tokens).run env world).value with err | _
  · have same := failed err result
    exact ⟨fun g => by rw [same]; exact sound.stored g, fun g value secret stored decodes u member named =>
      sound.owned g value secret (by rwa [same] at stored) decodes u (fewer member) named⟩
  · exact sound.reset fewer (ok result).2

end Steps

/-! ## The phases of a pass on sound records -/

section Phases

variable (t : TaskDefinitionLister) (pass : PassEnv)

theorem mem_reported {value : Except String Unit} {err : String} : err ∈ reported value ↔ value = .error err := by
  cases value <;> simp [reported, eq_comm]

theorem length_reported_le (value : Except String Unit) : (reported value).length ≤ 1 := by
  cases value <;> simp [reported]

/-- A step of a loop that cannot fail when it is clean reports no error then, and at most one
otherwise: the loop's errors stay within one for each step that is not clean. -/
theorem length_reported_append_le {α : Type} {clean : α → Prop} [DecidablePred clean] {a : α} {as : List α}
    {value : Except String Unit} {rest : List String} (ok : clean a → value = .ok ())
    (counted : rest.length ≤ (as.filter fun x => ¬ clean x).length) :
    (reported value ++ rest).length ≤ ((a :: as).filter fun x => ¬ clean x).length := by
  rw [List.length_append, List.filter_cons]
  by_cases here : clean a
  · simpa [ok here, here, reported] using counted
  · have := length_reported_le value
    simp only [here, not_false_eq_true, decide_True, if_true, List.length_cons]
    omega

open Classical in
/-- The upserts of distinct families on sound records, each offered its own fresh accessor ID, keep
the records sound whatever fails, and serve every family whose `Upsert` meets no fault and whose
name Consul accepts. They report only `Upsert` errors, at most one for each other family. -/
theorem upsertAll_sound :
    ∀ (families : List String) (world : World), families.Nodup → RecordsSound t.secretPrefix world →
      (∀ family ∈ families, FreshAccessorID t.secretPrefix world (pass.upsertEnv family).accessorID) →
      (∀ f ∈ families, ∀ g ∈ families, (pass.upsertEnv f).accessorID = (pass.upsertEnv g).accessorID → f = g) →
      let upserted := upsertAll pass (families.map t.taskFamily) world
      RecordsSound t.secretPrefix upserted.2 ∧
        (∀ family ∈ families, (pass.upsertEnv family).fault = (fun _ => none) →
          isValidServiceIdentityName family → Served t.secretPrefix family upserted.2) ∧
        (upserted.1.length ≤ (families.filter fun family =>
            ¬ ((pass.upsertEnv family).fault = (fun _ => none) ∧ isValidServiceIdentityName family)).length ∧
          ∀ err ∈ upserted.1, ∃ context ∈ upsertErrorContexts, ∃ e, err = context ++ e) ∧
        ∀ other, FreshAccessorID t.secretPrefix world other →
          (∀ family ∈ families, other ≠ (pass.upsertEnv family).accessorID) →
          FreshAccessorID t.secretPrefix upserted.2 other
  | [], _, _, sound, _, _ => ⟨sound, fun _ member => absurd member (List.not_mem_nil _),
    ⟨le_refl _, fun _ member => absurd member (List.not_mem_nil _)⟩, fun _ fresh _ => fresh⟩
  | family :: rest, world, distinct, sound, fresh, apart => by
    obtain ⟨notMem, distinctRest⟩ := List.nodup_cons.mp distinct
    let step := (t.taskFamily family).upsert.run (pass.upsertEnv family) world
    have own : (pass.upsertEnv family).fault = (fun _ => none) → isValidServiceIdentityName family → _ :=
      fun reliable valid => upsert_reliable (t.taskFamily family) (pass.upsertEnv family) reliable valid sound
        (fresh family (List.mem_cons_self _ _))
    obtain ⟨sound', fresh'⟩ := upsert_sound (t.taskFamily family) (pass.upsertEnv family) sound
      (fresh family (List.mem_cons_self _ _))
    have freshRest : ∀ g ∈ rest, FreshAccessorID t.secretPrefix step.world (pass.upsertEnv g).accessorID :=
      fun g member => fresh' _ (fresh g (List.mem_cons_of_mem _ member)) fun same =>
        notMem (apart g (List.mem_cons_of_mem _ member) family (List.mem_cons_self _ _) same ▸ member)
    obtain ⟨soundAll, servedAll, ⟨counted, contexts⟩, freshAll⟩ :=
      upsertAll_sound rest step.world distinctRest sound' freshRest
        fun f mf g mg => apart f (List.mem_cons_of_mem _ mf) g (List.mem_cons_of_mem _ mg)
    obtain ⟨kept, -, written⟩ := upsertAll_changes t pass rest step.world
    have errors : (upsertAll pass ((family :: rest).map t.taskFamily) world).1 =
        reported step.value ++ (upsertAll pass (rest.map t.taskFamily) step.world).1 := rfl
    refine ⟨soundAll, fun g member reliable valid => ?_, ⟨?_, fun err member => ?_⟩,
      fun other fresh'' distinct' => freshAll other (fresh' other fresh'' (distinct' family (List.mem_cons_self _ _)))
        fun g later => distinct' g (List.mem_cons_of_mem _ later)⟩
    · rcases List.mem_cons.mp member with rfl | later
      · refine (own reliable valid).2.keep (written _ fun f listed same => ?_) fun token live _ => kept live
        obtain rfl := secretName_injective _ same
        exact notMem listed
      · exact servedAll g later reliable valid
    · rw [errors]
      exact length_reported_append_le (fun clean => (own clean.1 clean.2).1) counted
    · rw [errors, List.mem_append] at member
      rcases member with here | later
      · exact upsert_error_context _ (mem_reported.mp here)
      · exact contexts err later

open Classical in
/-- The deletes of a pass on sound records keep them sound whatever fails; an orphan whose
`DeleteTokenInfo` meets no fault keeps no token with the accessor ID of a token of its group, and
its record is `{}`. They report only `DeleteTokenInfo` errors, at most one for each other orphan. -/
theorem deleteAll_sound (groups : TokenMap) :
    ∀ (orphans : List String) (world : World), RecordsSound t.secretPrefix world →
      let deleted := deleteAll t pass groups orphans world
      RecordsSound t.secretPrefix deleted.2 ∧
        (∀ family ∈ orphans, (pass.deleteEnv family).fault = (fun _ => none) →
          (∀ token ∈ deleted.2.tokens, token.accessorID ∉ (groups family).map (·.accessorID)) ∧
          deleted.2.secrets (secretName t.secretPrefix family) = some emptySecret) ∧
        deleted.1.length ≤ (orphans.filter fun family => ¬ (pass.deleteEnv family).fault = fun _ => none).length ∧
        ∀ err ∈ deleted.1, ∃ context ∈ deleteTokenInfoErrorContexts, ∃ e, err = context ++ e
  | [], _, sound => ⟨sound, fun _ member => absurd member (List.not_mem_nil _), le_refl _,
    fun _ member => absurd member (List.not_mem_nil _)⟩
  | family :: rest, world, sound => by
    let step := (t.deleteTokenInfo family (groups family)).run (pass.deleteEnv family) world
    obtain ⟨value, -, stored, -⟩ := sound.stored family
    have own : (pass.deleteEnv family).fault = (fun _ => none) → _ := fun reliable =>
      deleteTokenInfo_reliable t family (groups family) (pass.deleteEnv family) reliable stored
    obtain ⟨soundAll, resetAll, counted, contexts⟩ := deleteAll_sound groups rest step.world
      (deleteTokenInfo_sound t family (groups family) (pass.deleteEnv family) sound)
    obtain ⟨fewer, -, written⟩ := deleteAll_changes t pass groups rest step.world
    have errors : (deleteAll t pass groups (family :: rest) world).1 =
        reported step.value ++ (deleteAll t pass groups rest step.world).1 := rfl
    refine ⟨soundAll, fun g member reliable => ?_, ?_, fun err member => ?_⟩
    · by_cases later : g ∈ rest
      · exact resetAll g later reliable
      obtain rfl : g = family := (List.mem_cons.mp member).resolve_right later
      obtain ⟨-, tokens, secrets⟩ := own reliable
      refine ⟨fun token live => ?_, ?_⟩
      · have remaining : token ∈ step.world.tokens := fewer live
        rw [tokens, List.mem_filter] at remaining
        exact of_decide_eq_true remaining.2
      · simp only [deleteAll]
        rw [written _ fun f listed same => later (by rwa [secretName_injective t.secretPrefix same]), secrets,
          Function.update_same]
    · rw [errors]
      exact length_reported_append_le (fun clean => (own clean).1) counted
    · rw [errors, List.mem_append] at member
      rcases member with here | later
      · exact deleteTokenInfo_error_context t family (groups family) (mem_reported.mp here)
      · exact contexts err later

/-- The deletes of a pass, whatever fails, keep every fresh ID fresh. -/
theorem deleteAll_fresh (groups : TokenMap) (other : String) :
    ∀ (orphans : List String) (world : World), FreshAccessorID t.secretPrefix world other →
      FreshAccessorID t.secretPrefix (deleteAll t pass groups orphans world).2 other
  | [], _, fresh => fresh
  | family :: rest, world, fresh => by
    obtain ⟨fewer, -, -⟩ := deleteTokenInfo_changes t family (groups family) (pass.deleteEnv family) world
    obtain ⟨k, -, -, ok, failed⟩ := @deleteTokenInfo_take (pass.deleteEnv family) world t family (groups family)
    refine deleteAll_fresh groups other rest _ (fresh.reset family fewer ?_)
    rcases result : ((t.deleteTokenInfo family (groups family)).run (pass.deleteEnv family) world).value with err | _
    · exact .inl (failed err result)
    · exact .inr (ok result).2

open Classical in
/-- A pass whose listings succeed, from sound records and offering each listed family its own fresh
accessor ID, keeps the records sound whatever else fails. Each family's operation that meets no
fault converges that family: a listed family whose name Consul accepts is served, an unlisted one
keeps no live token and, if it held tokens, its record is `{}`. The pass reports its families'
errors. -/
theorem reconcile_sound {families : List String} {groups : TokenMap} (world : World) (distinct : families.Nodup)
    (listed : t.list pass.pages = .ok (families.map t.taskFamily))
    (grouped : (t.tokenList.run pass.listEnv world).value = (groups, none))
    (sound : RecordsSound t.secretPrefix world)
    (fresh : ∀ family ∈ families, FreshAccessorID t.secretPrefix world (pass.upsertEnv family).accessorID)
    (apart : ∀ f ∈ families, ∀ g ∈ families, (pass.upsertEnv f).accessorID = (pass.upsertEnv g).accessorID → f = g) :
    let result := reconcile t pass world
    RecordsSound t.secretPrefix result.2 ∧
      (∀ family ∈ families, (pass.upsertEnv family).fault = (fun _ => none) → isValidServiceIdentityName family →
        Served t.secretPrefix family result.2) ∧
      (∀ family ∉ families, (pass.deleteEnv family).fault = (fun _ => none) →
        (∀ token ∈ result.2.tokens, ¬ token.BoundTo family) ∧
        ((∃ token ∈ world.tokens, token.BoundTo family) →
          result.2.secrets (secretName t.secretPrefix family) = some emptySecret)) ∧
      (∃ upsertErrors deleteErrors, result.1 = .ok (upsertErrors ++ deleteErrors) ∧
        CollectedErrors pass world families upsertErrors deleteErrors) ∧
      ∀ other, FreshAccessorID t.secretPrefix world other →
        (∀ family ∈ families, other ≠ (pass.upsertEnv family).accessorID) →
        FreshAccessorID t.secretPrefix result.2 other := by
  have grouping := groups_of_listed t pass grouped
  let orphans := (ownedFamilies world.tokens).filter fun family => family ∉ families
  let upserted := upsertAll pass (families.map t.taskFamily) world
  have orphan : ∀ family ∉ families, (∃ token ∈ world.tokens, token.BoundTo family) → family ∈ orphans :=
    fun family unlisted owned => List.mem_filter.mpr ⟨mem_ownedFamilies.mpr owned, decide_eq_true unlisted⟩
  obtain ⟨sound', served, ⟨upserts, upsertContexts⟩, kept'⟩ :=
    upsertAll_sound t pass families world distinct sound fresh apart
  obtain ⟨kept, created, -⟩ := upsertAll_changes t pass families world
  obtain ⟨sound'', reset, deletes, deleteContexts⟩ := deleteAll_sound t pass groups orphans upserted.2 sound'
  obtain ⟨fewer, -, written⟩ := deleteAll_changes t pass groups orphans upserted.2
  have orphanFaults : (orphans.filter fun family => ¬ (pass.deleteEnv family).fault = fun _ => none) =
      (ownedFamilies world.tokens).filter fun family =>
        family ∉ families ∧ ¬ (pass.deleteEnv family).fault = fun _ => none := by
    simp only [orphans, List.filter_filter, Bool.decide_and, Bool.and_comm]
  rw [reconcile_of_listed t pass world listed grouped]
  refine ⟨sound'', fun family listedFamily reliable valid => ?_, fun family unlisted reliable =>
    ⟨fun token member bound => ?_, fun owned => (reset family (orphan family unlisted owned) reliable).2⟩,
    ⟨_, _, rfl, upserts, upsertContexts, orphanFaults ▸ deletes, deleteContexts⟩,
    fun other fresh' offered => deleteAll_fresh t pass groups other orphans _ (kept' other fresh' offered)⟩
  · -- the deletes keep a listed family's record, and every token bound to it
    refine (served family listedFamily reliable valid).keep (written _ fun g isOrphan same => ?_) fun token member bound => ?_
    · obtain rfl := secretName_injective t.secretPrefix same
      exact of_decide_eq_true (List.mem_filter.mp isOrphan).2 listedFamily
    · by_contra gone
      obtain ⟨g, isOrphan, bound'⟩ := deleteAll_boundTo t pass grouped orphans kept token member gone
      exact of_decide_eq_true (List.mem_filter.mp isOrphan).2 (bound'.unique bound ▸ listedFamily)
  · -- a token bound to an unlisted family is old, so in the family's group, or created for a listed one
    by_cases old : token ∈ world.tokens
    · refine (reset family (orphan family unlisted ⟨token, old, bound⟩) reliable).1 token member
        (List.mem_map_of_mem _ ?_)
      rw [grouping]
      exact List.mem_filter.mpr ⟨old, decide_eq_true bound⟩
    · obtain ⟨g, listedG, bound'⟩ := created token (fewer member) old
      exact unlisted (bound.unique bound' ▸ listedG)

end Phases

section Converged

variable (t : TaskDefinitionLister) (pages : List PageReply) (proposal : String → String × String)

/-- Reliable upserts of served families change nothing. -/
theorem upsertAll_of_served :
    ∀ (families : List String) (world : World), (∀ family ∈ families, Served t.secretPrefix family world) →
      upsertAll (PassEnv.reliable pages proposal) (families.map t.taskFamily) world = ([], world)
  | [], _, _ => rfl
  | family :: rest, world, served => by
    obtain ⟨value, secret, stored, decodes, token, member, named, -⟩ := served family (List.mem_cons_self _ _)
    have same := upsert_of_live (t.taskFamily family) (proposal family).1 (proposal family).2 stored decodes
      (named ▸ world.accessor_ne token member) ⟨token, member, named⟩
    simp only [List.map_cons, upsertAll, PassEnv.reliable_upsertEnv, taskFamily_taskFamily, same, reported,
      List.nil_append]
    exact upsertAll_of_served rest world fun g listed => served g (List.mem_cons_of_mem _ listed)

/-- A reliable pass on a converged world changes nothing and reports no error. -/
theorem reconcile_of_converged (world : World) {families : List String}
    (listed : t.list pages = .ok (families.map t.taskFamily)) (converged : Converged t.secretPrefix families world) :
    reconcile t (PassEnv.reliable pages proposal) world = (.ok [], world) := by
  have grouped : (t.tokenList.run (PassEnv.reliable pages proposal).listEnv world).value =
      ((t.tokenList.run (PassEnv.reliable pages proposal).listEnv world).value.1, none) :=
    Prod.ext rfl (tokenList_reliable t "" "")
  have noOrphans : (ownedFamilies world.tokens).filter (fun family => family ∉ families) = [] :=
    List.filter_eq_nil_iff.mpr fun family owned unlisted => by
      obtain ⟨token, member, bound⟩ := mem_ownedFamilies.mp owned
      exact of_decide_eq_true unlisted (converged.listed token member family bound)
  rw [reconcile_of_listed t _ world listed grouped]
  simp only [upsertAll_of_served t pages proposal families world converged.served, noOrphans]
  rfl

/-- A reliable pass whose listing returns distinct `families` with names Consul accepts, from sound
records and offering each its own fresh accessor ID, reports no error, converges, and resets the
record of every family whose tokens it deleted. -/
theorem reconcile_reliable (world : World) {families : List String} (distinct : families.Nodup)
    (listed : t.list pages = .ok (families.map t.taskFamily))
    (valid : ∀ family ∈ families, isValidServiceIdentityName family) (sound : RecordsSound t.secretPrefix world)
    (fresh : ∀ family ∈ families, FreshAccessorID t.secretPrefix world (proposal family).1)
    (apart : ∀ f ∈ families, ∀ g ∈ families, (proposal f).1 = (proposal g).1 → f = g) :
    let result := reconcile t (PassEnv.reliable pages proposal) world
    result.1 = .ok [] ∧ Converged t.secretPrefix families result.2 ∧
      ∀ family ∉ families, (∃ token ∈ world.tokens, token.BoundTo family) →
        result.2.secrets (secretName t.secretPrefix family) = some emptySecret := by
  have grouped : (t.tokenList.run (PassEnv.reliable pages proposal).listEnv world).value =
      ((t.tokenList.run (PassEnv.reliable pages proposal).listEnv world).value.1, none) :=
    Prod.ext rfl (tokenList_reliable t "" "")
  obtain ⟨sound', served, unlisted, ⟨upsertErrors, deleteErrors, reported, collected⟩, -⟩ :=
    reconcile_sound t (PassEnv.reliable pages proposal) world distinct listed grouped sound fresh apart
  obtain ⟨rfl, rfl⟩ := collected.eq_nil (fun family member => ⟨rfl, valid family member⟩) fun _ => rfl
  exact ⟨reported,
    ⟨sound', fun family member => served family member rfl (valid family member), fun token member family bound =>
      by_contra fun notListed => (unlisted family notListed rfl).1 token member bound⟩,
    fun family notListed => (unlisted family notListed rfl).2⟩

end Converged

/-! ## One family's faults -/

/-- When no call fails, one pass from sound records over families whose names Consul accepts, each
offered its own fresh accessor ID, reports no error and converges: every listed family's record names a live token
bound to it, no live token is bound to a family that is not listed, the record of every family
whose tokens it deleted is `{}`, and the next pass changes nothing. -/
theorem reconcile_converges (t : TaskDefinitionLister) (pages : List PageReply)
    (proposal : String → String × String) (world : World) (resources : List TaskFamily)
    (listed : t.list pages = .ok resources)
    (valid : ∀ family ∈ resources.map TaskFamily.id, isValidServiceIdentityName family)
    (sound : RecordsSound t.secretPrefix world)
    (fresh : ∀ family ∈ resources.map TaskFamily.id, FreshAccessorID t.secretPrefix world (proposal family).1)
    (apart : ∀ f ∈ resources.map TaskFamily.id, ∀ g ∈ resources.map TaskFamily.id,
      (proposal f).1 = (proposal g).1 → f = g) :
    let result := reconcile t (PassEnv.reliable pages proposal) world
    result.1 = .ok [] ∧ Converged t.secretPrefix (resources.map TaskFamily.id) result.2 ∧
      (∀ family ∉ resources.map TaskFamily.id, (∃ token ∈ world.tokens, token.BoundTo family) →
        result.2.secrets (secretName t.secretPrefix family) = some emptySecret) ∧
      ∀ proposal', reconcile t (PassEnv.reliable pages proposal') result.2 = (.ok [], result.2) := by
  obtain ⟨families, distinct, rfl⟩ := list_ok listed
  rw [ids_taskFamily] at valid fresh apart ⊢
  obtain ⟨ok, converged, reset⟩ := reconcile_reliable t pages proposal world distinct listed valid sound fresh apart
  exact ⟨ok, converged, reset, fun proposal' => reconcile_of_converged t pages proposal' _ listed converged⟩

/-- One reliable pass over a cluster running `web` from the initial state converges. -/
theorem reconcile_converges_web :
    let t : TaskDefinitionLister := ⟨"cluster", "prefix"⟩
    let pages := [PageReply.tasks [some ⟨"arn:aws:ecs:us-east-1:123456789012:task-definition/web:1",
      [⟨some meshTag, some "true"⟩]⟩]]
    let result := reconcile t (PassEnv.reliable pages fun family => ("accessor-" ++ family, "secret")) World.initial
    result.1 = .ok [] ∧ Converged t.secretPrefix ["web"] result.2 := by
  intro t pages result
  obtain ⟨ok, converged, -⟩ := reconcile_converges t pages (fun family => ("accessor-" ++ family, "secret"))
    World.initial [⟨"cluster", "prefix", "web"⟩] rfl (by decide) (recordsSound_initial _)
    (fun family member => by
      obtain rfl : family = "web" := List.mem_singleton.mp member
      exact freshAccessorID_initial _ (by decide))
    (fun f member g member' _ => (List.mem_singleton.mp member).trans (List.mem_singleton.mp member').symm)
  exact ⟨ok, converged⟩

end ConsulEcs.Controller
