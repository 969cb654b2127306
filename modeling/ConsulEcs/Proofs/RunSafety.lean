import Mathlib
import ConsulEcs.Proofs.OneTokenPerFamily

/-! # What a run of the controller never does

Whatever the services fail, and in whatever order the operations come, a run of the controller
keeps to its own tokens and records:

* a live token is deleted only by a `DeleteTokenInfo` of the family it is bound to, so a token
  bound to no single family, such as the operator's management token, outlives every run;
* every token a run adds is the service token of a family it upserts;
* a run creates no secret and removes none, and changes only the records of the families it
  works on.

Each is proved for one operation from what `Upsert` and `DeleteTokenInfo` do to the world, and
carried along the run by induction.
-/

namespace ConsulEcs.Controller

variable {env : Env} {world : World}

/-- The family an operation works on. -/
def Op.family : Op → String
  | .upsert family _ => family
  | .deleteTokenInfo family _ _ => family

/-! ## Secrets -/

/-- A store that is left as it was, or written at `key` where a secret exists, has the same
secrets as before and differs at `key` at most. -/
theorem secrets_of_update {before after : String → Option String} (key : String)
    (changes : after = before ∨ ((before key).isSome ∧ ∃ value, after = Function.update before key (some value)))
    (name : String) : (after name).isSome = (before name).isSome ∧ (name ≠ key → after name = before name) := by
  rcases changes with rfl | ⟨stored, value, rfl⟩
  · exact ⟨rfl, fun _ => rfl⟩
  · by_cases same : name = key
    · subst same
      simp [stored]
    · simp [same]

/-- `Upsert` writes its family's record only after reading it, so only where it exists. -/
theorem upsert_secrets (t : TaskFamily) :
    (t.upsert.run env world).world.secrets = world.secrets ∨
      ((world.secrets t.secretName).isSome ∧
        ∃ value, (t.upsert.run env world).world.secrets = Function.update world.secrets t.secretName (some value)) := by
  by_cases needs : t.NeedsToken env world
  · obtain ⟨calls, eq⟩ := upsert_of_needsToken t needs
    obtain ⟨_, _, read, -⟩ := needs
    rw [eq]
    rcases @updateServiceToken_world env world t with ⟨same, -⟩ | ⟨-, ⟨secrets, -⟩ | ⟨-, secrets⟩⟩
    · exact .inl (by rw [same])
    · exact .inl secrets
    · exact .inr ⟨by simp [secrets_of_getSecretValue_ok read], _, secrets⟩
  · exact .inl (by rw [(upsert_of_not_needsToken t needs).1])

/-- `DeleteTokenInfo` resets its family's record to `{}` only where the record exists. -/
theorem deleteTokenInfo_secrets (t : TaskDefinitionLister) (serviceName : String) (tokens : List ACLToken) :
    ((t.deleteTokenInfo serviceName tokens).run env world).world.secrets = world.secrets ∨
      ((world.secrets (secretName t.secretPrefix serviceName)).isSome ∧
        ∃ value, ((t.deleteTokenInfo serviceName tokens).run env world).world.secrets =
          Function.update world.secrets (secretName t.secretPrefix serviceName) (some value)) := by
  obtain ⟨k, -, value, -, run⟩ := @deleteTokens_take env tokens
  obtain ⟨result, secrets, -⟩ := run world
  rw [deleteTokenInfo_eq, result]
  rcases value with err | _
  · exact .inl secrets
  · dsimp only
    rw [updateSecret_run, secrets]
    rcases env.fault (.updateSecret (secretName t.secretPrefix serviceName) emptySecret) with _ | err
    · rcases stored : world.secrets (secretName t.secretPrefix serviceName) with _ | record
      · exact .inl secrets
      · exact .inr ⟨by simp [stored], emptySecret, by simp [secrets]⟩
    · exact .inl secrets

/-- A `DeleteTokenInfo` operation leaves the world when its `TokenList` fails, and is otherwise a
`DeleteTokenInfo` of the group `TokenList` reported. -/
theorem Op.apply_deleteTokenInfo (cluster secretPrefix family : String) (listEnv env : Env) (world : World) :
    let lister : TaskDefinitionLister := ⟨cluster, secretPrefix⟩
    (Op.deleteTokenInfo family listEnv env).apply cluster secretPrefix world = world ∨
      ((lister.tokenList.run listEnv world).value.2 = none ∧
        (Op.deleteTokenInfo family listEnv env).apply cluster secretPrefix world =
          ((lister.deleteTokenInfo family ((lister.tokenList.run listEnv world).value.1 family)).run env world).world) := by
  intro lister
  simp only [Op.apply]
  rcases listed : (lister.tokenList.run listEnv world).value with ⟨groups, _ | err⟩
  · exact .inr ⟨rfl, rfl⟩
  · exact .inl rfl

/-- An operation creates and removes no secret, and changes none but its family's record. -/
theorem Op.apply_secrets (cluster secretPrefix : String) (op : Op) (world : World) (name : String) :
    ((op.apply cluster secretPrefix world).secrets name).isSome = (world.secrets name).isSome ∧
      (name ≠ secretName secretPrefix op.family →
        (op.apply cluster secretPrefix world).secrets name = world.secrets name) := by
  refine secrets_of_update (secretName secretPrefix op.family) ?_ name
  cases op with
  | upsert family env => exact upsert_secrets ⟨cluster, secretPrefix, family⟩
  | deleteTokenInfo family listEnv env =>
    rcases Op.apply_deleteTokenInfo cluster secretPrefix family listEnv env world with same | ⟨-, eq⟩
    · exact .inl (by rw [same])
    · rw [eq]
      exact deleteTokenInfo_secrets ⟨cluster, secretPrefix⟩ family _

/-! ## Tokens -/

/-- An operation removes a live token only when it is a `DeleteTokenInfo` of the token's family:
`TokenList` groups under a family only the tokens bound to it. -/
theorem Op.apply_keeps (cluster secretPrefix : String) (op : Op) {token : ACLToken} (live : token ∈ world.tokens)
    (spared : ∀ family listEnv env, op = .deleteTokenInfo family listEnv env → ¬ token.BoundTo family) :
    token ∈ (op.apply cluster secretPrefix world).tokens := by
  cases op with
  | upsert family env => exact upsert_tokens_subset _ live
  | deleteTokenInfo family listEnv env =>
    let lister : TaskDefinitionLister := ⟨cluster, secretPrefix⟩
    rcases Op.apply_deleteTokenInfo cluster secretPrefix family listEnv env world with same | ⟨listed, eq⟩
    · rwa [same]
    · have grouped := tokenList_group lister family listed
      obtain ⟨k, -, remaining, -⟩ :=
        @deleteTokenInfo_take env world lister family ((lister.tokenList.run listEnv world).value.1 family)
      have taken : ∀ k, ((lister.tokenList.run listEnv world).value.1 family).take k ⊆ world.tokens :=
        fun k _ member => List.mem_of_mem_filter (grouped ▸ List.mem_of_mem_take member)
      rw [eq, remaining, List.mem_filter, decide_eq_true_iff, accessorID_mem_iff (taken k) live, grouped]
      exact ⟨live, fun member => spared family listEnv env rfl
        (of_decide_eq_true (List.mem_filter.mp (List.mem_of_mem_take member)).2)⟩

/-- A token an operation adds is the token an `Upsert` created for its family. -/
theorem Op.apply_new_token (cluster secretPrefix : String) (op : Op) {token : ACLToken}
    (member : token ∈ (op.apply cluster secretPrefix world).tokens) (fresh : token ∉ world.tokens) :
    ∃ family env, op = .upsert family env ∧ token.BoundTo family ∧
      token.description = "Token for " ++ family ++ " service" ∧ token.secretID = env.secretID := by
  cases op with
  | upsert family env =>
    rcases @upsert_world env world ⟨cluster, secretPrefix, family⟩ with same | ⟨tokens, -⟩
    · exact absurd (same ▸ member) fresh
    · rcases mem_insertToken.mp (tokens ▸ member) with rfl | old
      · exact ⟨family, env, rfl, createdToken_boundTo _, rfl, rfl⟩
      · exact absurd old fresh
  | deleteTokenInfo family listEnv env =>
    rcases Op.apply_deleteTokenInfo cluster secretPrefix family listEnv env world with same | ⟨-, eq⟩
    · exact absurd (same ▸ member) fresh
    · obtain ⟨k, -, remaining, -⟩ := @deleteTokenInfo_take env world ⟨cluster, secretPrefix⟩ family
        (((TaskDefinitionLister.mk cluster secretPrefix).tokenList.run listEnv world).value.1 family)
      rw [eq, remaining] at member
      exact absurd (List.mem_of_mem_filter member) fresh

/-! ## Runs -/

/-- A run deletes a live token only through a `DeleteTokenInfo` of the family the token is bound
to: a token with no service identity or with several, bound to no family, outlives every run. -/
theorem runOps_keeps_token (cluster secretPrefix : String) (ops : List Op) (world : World) (token : ACLToken)
    (live : token ∈ world.tokens)
    (spared : ∀ family listEnv env, Op.deleteTokenInfo family listEnv env ∈ ops → ¬ token.BoundTo family) :
    token ∈ (runOps cluster secretPrefix ops world).tokens := by
  induction ops generalizing world with
  | nil => exact live
  | cons op ops ih =>
    refine ih _ (Op.apply_keeps cluster secretPrefix op live fun family listEnv env same => ?_)
      fun family listEnv env member => spared family listEnv env (List.mem_cons_of_mem _ member)
    exact spared family listEnv env (same ▸ List.mem_cons_self _ _)

/-- The operator's management token, which has no service identity, outlives an `Upsert` and a
`DeleteTokenInfo` of a family. -/
theorem runOps_keeps_management_token :
    let management : ACLToken := ⟨"m", "secret", "Initial Management Token", []⟩
    let world : World := ⟨fun _ => some emptySecret, [management], by simp, by simp⟩
    management ∈ (runOps "cluster" "prefix" [.upsert "web" (Env.reliable "a" "s"),
      .deleteTokenInfo "web" (Env.reliable "" "") (Env.reliable "" "")] world).tokens :=
  runOps_keeps_token "cluster" "prefix" _ _ _ (List.mem_singleton_self _) (by simp [ACLToken.BoundTo])

/-- Every token a run adds is a service token it created for a family it upserts: bound to the
family alone, described as the family's, with the secret ID Consul generated in that `Upsert`. -/
theorem runOps_new_tokens (cluster secretPrefix : String) (ops : List Op) (world : World) :
    ∀ token ∈ (runOps cluster secretPrefix ops world).tokens, token ∉ world.tokens →
      ∃ family env, Op.upsert family env ∈ ops ∧ token.BoundTo family ∧
        token.description = "Token for " ++ family ++ " service" ∧ token.secretID = env.secretID := by
  induction ops generalizing world with
  | nil => exact fun token member fresh => absurd member fresh
  | cons op ops ih =>
    intro token member fresh
    by_cases before : token ∈ (op.apply cluster secretPrefix world).tokens
    · obtain ⟨family, env, rfl, created⟩ := Op.apply_new_token cluster secretPrefix op before fresh
      exact ⟨family, env, List.mem_cons_self _ _, created⟩
    · obtain ⟨family, env, later, created⟩ := ih _ token member before
      exact ⟨family, env, List.mem_cons_of_mem _ later, created⟩

/-- The one token a first `Upsert` of `web` creates is bound to `web`. -/
theorem runOps_new_tokens_upsert :
    let world := runOps "cluster" "prefix" [.upsert "web" (Env.reliable "a" "s")] World.initial
    world.tokens.length = 1 ∧ ∀ token ∈ world.tokens, token.BoundTo "web" := by
  refine ⟨rfl, fun token member => ?_⟩
  obtain ⟨family, env, listed, bound, -⟩ :=
    runOps_new_tokens "cluster" "prefix" _ World.initial token member (List.not_mem_nil _)
  obtain ⟨rfl, -⟩ : family = "web" ∧ env = Env.reliable "a" "s" := by simpa using listed
  exact bound

/-- A run creates no secret and removes none, and changes a secret only when it is the record of
the family of one of its operations. -/
theorem runOps_secrets (cluster secretPrefix : String) (ops : List Op) (world : World) (name : String) :
    ((runOps cluster secretPrefix ops world).secrets name).isSome = (world.secrets name).isSome ∧
      ((∀ op ∈ ops, name ≠ secretName secretPrefix op.family) →
        (runOps cluster secretPrefix ops world).secrets name = world.secrets name) := by
  induction ops generalizing world with
  | nil => exact ⟨rfl, fun _ => rfl⟩
  | cons op ops ih =>
    obtain ⟨kept, framed⟩ := ih (op.apply cluster secretPrefix world)
    obtain ⟨keptHere, framedHere⟩ := Op.apply_secrets cluster secretPrefix op world name
    refine ⟨kept.trans keptHere, fun others => ?_⟩
    exact (framed fun o member => others o (List.mem_cons_of_mem _ member)).trans
      (framedHere (others op (List.mem_cons_self _ _)))

end ConsulEcs.Controller
