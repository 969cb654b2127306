import Mathlib
import ConsulEcs.Model.Controller

/-! # `TokenList` and `DeleteTokenInfo`

`TokenList` reads every live token and groups those with exactly one service identity under its
name, so the group of a family is the family's own tokens, in accessor order. `DeleteTokenInfo`
deletes a group token by token and stops at the first failed delete; only when every delete
went through does it reset the record to `{}`. Deleting by accessor ID removes exactly the live
tokens of a prefix of the group, because accessor IDs name live tokens uniquely.
-/

namespace ConsulEcs.Controller

variable {env : Env} {world : World}

/-! ## `TokenList` -/

theorem boundTo_cons_iff (family : String) (identity : ACLServiceIdentity) {token : ACLToken}
    (single : token.serviceIdentities = [identity]) : token.BoundTo family ↔ identity.serviceName = family := by
  cases identity
  simp [ACLToken.BoundTo, single]

/-- The read loop of `TokenList` over live tokens adds each token owned by a family to its group. -/
theorem readTokens_ok (family : String) :
    ∀ (tokens : List ACLToken) (groups : TokenMap), tokens ⊆ world.tokens →
      ((readTokens (tokens.map (·.accessorID)) groups).run env world).value.2 = none →
      ((readTokens (tokens.map (·.accessorID)) groups).run env world).value.1 family =
        groups family ++ tokens.filter (·.BoundTo family)
  | [], groups, _, _ => by simp [readTokens]
  | token :: rest, groups, live, read => by
    have restLive : rest ⊆ world.tokens := fun _ member => live (List.mem_cons_of_mem _ member)
    simp only [List.map_cons, readTokens, Ext.run_bind, tokenRead_world] at read ⊢
    rcases found : ((tokenRead token.accessorID).run env world).value with err | hit
    · simp [found] at read
    · obtain ⟨member, same⟩ := live_of_tokenRead_ok found
      obtain rfl := world.token_eq_of_accessorID_eq member (live (List.mem_cons_self _ _)) same
      simp only [found] at read ⊢
      rcases identities : hit.serviceIdentities with _ | ⟨identity, _ | ⟨second, more⟩⟩
      all_goals simp only [identities] at read ⊢
      · simp [readTokens_ok family rest groups restLive read, ACLToken.BoundTo, identities]
      · rw [readTokens_ok family rest _ restLive read, List.filter_cons, TokenMap.append]
        by_cases owner : identity.serviceName = family
        · simp [owner, (boundTo_cons_iff family identity identities).mpr owner]
        · simp [Ne.symm owner, mt (boundTo_cons_iff family identity identities).mp owner]
      · simp [readTokens_ok family rest groups restLive read, ACLToken.BoundTo, identities]

/-- Without an error, `TokenList` groups under each family exactly its own live tokens. -/
theorem tokenList_group (t : TaskDefinitionLister) (family : String)
    (listed : (t.tokenList.run env world).value.2 = none) :
    (t.tokenList.run env world).value.1 family = world.tokens.filter (·.BoundTo family) := by
  simp only [TaskDefinitionLister.tokenList, Ext.run_bind, tokenList_world, tokenList_value] at listed ⊢
  rcases fault : env.fault .tokenList with _ | err <;> simp only [fault] at listed ⊢
  · simpa using readTokens_ok family world.tokens (fun _ => []) (List.Subset.refl _) listed
  · cases listed

/-! ## The delete loop -/

theorem filter_deleteToken (tokens : List ACLToken) (accessorID : String) (accessorIDs : List String) :
    (tokens.filter fun token => token.accessorID ≠ accessorID).filter
        (fun token => token.accessorID ∉ accessorIDs) =
      tokens.filter fun token => token.accessorID ∉ accessorID :: accessorIDs := by
  rw [List.filter_filter]
  congr 1
  funext token
  simp [Bool.and_comm]

/-- The delete loop removes the live tokens of a prefix of its list, the same prefix with the same
result in every world: all of the list exactly when it succeeds. -/
theorem deleteTokens_take : ∀ tokens : List ACLToken, ∃ k ≤ tokens.length, ∃ value : Except String Unit,
    (value = .ok () ↔ k = tokens.length) ∧ ∀ world : World,
      ((deleteTokens tokens).run env world).value = value ∧
      ((deleteTokens tokens).run env world).world.secrets = world.secrets ∧
      ((deleteTokens tokens).run env world).world.tokens =
        world.tokens.filter (fun token => token.accessorID ∉ (tokens.take k).map (·.accessorID))
  | [] => ⟨0, le_refl _, .ok (), by simp, fun _ => ⟨rfl, rfl, by simp [deleteTokens]⟩⟩
  | token :: rest => by
    obtain ⟨k, bound, value, ok, run⟩ := deleteTokens_take rest
    simp only [deleteTokens, Ext.run_bind, tokenDelete_run]
    rcases env.fault (.tokenDelete token.accessorID) with _ | err
    · refine ⟨k + 1, by simpa using bound, value, by simpa using ok, fun world => ?_⟩
      obtain ⟨same, secrets, tokens⟩ := run (world.deleteToken token.accessorID)
      refine ⟨same, by simpa using secrets, ?_⟩
      simp only [tokens, World.deleteToken_tokens, filter_deleteToken, List.take_succ_cons, List.map_cons]
    · exact ⟨0, Nat.zero_le _, .error ("deleting token: " ++ err), by simp, fun _ => ⟨rfl, rfl, by simp⟩⟩

theorem deleteTokenInfo_eq (t : TaskDefinitionLister) (serviceName : String) (tokens : List ACLToken) :
    (t.deleteTokenInfo serviceName tokens).run env world =
      match ((deleteTokens tokens).run env world).value with
      | .error err => ⟨.error err, ((deleteTokens tokens).run env world).world,
          ((deleteTokens tokens).run env world).calls⟩
      | .ok () =>
        let update := (updateSecret (secretName t.secretPrefix serviceName) emptySecret).run env
          ((deleteTokens tokens).run env world).world
        ⟨match update.value with
          | .error err => .error ("updating secret: " ++ err)
          | .ok () => .ok (),
         update.world, ((deleteTokens tokens).run env world).calls ++ update.calls⟩ := by
  simp only [TaskDefinitionLister.deleteTokenInfo, Ext.run_bind]
  rcases ((deleteTokens tokens).run env world).value with err | _
  · simp
  · simp only [Ext.run_bind]
    rcases ((updateSecret _ emptySecret).run env _).value with err | _ <;> simp

/-- What `DeleteTokenInfo` leaves: on success the list's tokens are gone and the record is `{}`;
on an error the live tokens of a prefix of the list are gone and the record is as it was. -/
theorem deleteTokens_error : ∀ (tokens : List ACLToken) (world : World) {err : String},
    ((deleteTokens tokens).run env world).value = .error err → ∃ e, err = "deleting token: " ++ e
  | [], _, _, failed => (nomatch failed)
  | token :: rest, world, err, failed => by
    simp only [deleteTokens, Ext.run_bind, tokenDelete_run] at failed
    rcases fault : env.fault (.tokenDelete token.accessorID) with _ | e <;> simp only [fault] at failed
    · exact deleteTokens_error rest _ failed
    · cases failed
      exact ⟨e, rfl⟩

/-- The contexts `DeleteTokenInfo` wraps its errors in: a failed delete or a failed reset. -/
def deleteTokenInfoErrorContexts : List String := ["deleting token: ", "updating secret: "]

theorem deleteTokenInfo_error_context (t : TaskDefinitionLister) (serviceName : String) (tokens : List ACLToken)
    {err : String} (failed : ((t.deleteTokenInfo serviceName tokens).run env world).value = .error err) :
    ∃ context ∈ deleteTokenInfoErrorContexts, ∃ e, err = context ++ e := by
  rw [deleteTokenInfo_eq] at failed
  split at failed
  · cases failed
    exact ⟨_, by simp [deleteTokenInfoErrorContexts], deleteTokens_error tokens world ‹_›⟩
  · dsimp only at failed
    split at failed
    · cases failed
      exact ⟨_, by simp [deleteTokenInfoErrorContexts], _, rfl⟩
    · cases failed

theorem deleteTokenInfo_take (t : TaskDefinitionLister) (serviceName : String) (tokens : List ACLToken) :
    ∃ k ≤ tokens.length,
      let run := (t.deleteTokenInfo serviceName tokens).run env world
      run.world.tokens = world.tokens.filter (fun token => token.accessorID ∉ (tokens.take k).map (·.accessorID)) ∧
      (run.value = .ok () → k = tokens.length ∧
        run.world.secrets = Function.update world.secrets (secretName t.secretPrefix serviceName) (some emptySecret)) ∧
      (∀ err, run.value = .error err → run.world.secrets = world.secrets) := by
  obtain ⟨k, bound, value, ok, run⟩ := @deleteTokens_take env tokens
  obtain ⟨result, secrets, remaining⟩ := run world
  refine ⟨k, bound, ?_⟩
  rw [deleteTokenInfo_eq, result]
  rcases value with err | _
  · exact ⟨remaining, (nomatch ·), fun _ _ => secrets⟩
  · dsimp only
    rw [updateSecret_run]
    rcases env.fault (.updateSecret (secretName t.secretPrefix serviceName) emptySecret) with _ | err <;>
      rcases ((deleteTokens tokens).run env world).world.secrets (secretName t.secretPrefix serviceName)
        with _ | record <;> simp [remaining, secrets, ok.mp rfl]

/-! ## `DeleteTokenInfo` of a family's group -/

theorem accessorID_mem_iff {tokens : List ACLToken} {token : ACLToken} (live : tokens ⊆ world.tokens)
    (member : token ∈ world.tokens) : token.accessorID ∈ tokens.map (·.accessorID) ↔ token ∈ tokens := by
  constructor
  · intro named
    obtain ⟨other, listed, same⟩ := List.mem_map.mp named
    exact world.token_eq_of_accessorID_eq (live listed) member same ▸ listed
  · exact List.mem_map_of_mem _

/-- `DeleteTokenInfo` of the group `TokenList` reported, run when no token has been created
since: the family's tokens go and nothing else does, the record becomes `{}`, which decodes to
an empty accessor ID; a failed run removes the live tokens of a prefix of the group and leaves
the record. -/
theorem deleteTokenInfo_of_tokenList (t : TaskDefinitionLister) (family : String) (listEnv env : Env)
    (world current : World) (listed : (t.tokenList.run listEnv world).value.2 = none)
    (noneCreated : current.tokens ⊆ world.tokens) :
    let group := (t.tokenList.run listEnv world).value.1 family
    let run := (t.deleteTokenInfo family group).run env current
    (run.value = .ok () →
      (∀ token ∈ run.world.tokens, ¬ token.BoundTo family) ∧
      (∀ token ∈ current.tokens, ¬ token.BoundTo family → token ∈ run.world.tokens) ∧
      run.world.secrets (secretName t.secretPrefix family) = some emptySecret ∧
      (Json.unmarshal emptySecret).map (·.accessorID) = .ok "") ∧
    (∀ err, run.value = .error err →
      ∃ k ≤ group.length,
        run.world.tokens = current.tokens.filter (fun token => token ∉ group.take k) ∧
        run.world.secrets = current.secrets) := by
  intro group run
  have grouped : group = world.tokens.filter (·.BoundTo family) := tokenList_group t family listed
  have live : ∀ k, group.take k ⊆ world.tokens := fun k token member =>
    List.mem_of_mem_filter (grouped ▸ List.mem_of_mem_take member)
  obtain ⟨k, bound, remaining, ok, failed⟩ := @deleteTokenInfo_take env current t family group
  have byToken : run.world.tokens = current.tokens.filter (fun token => token ∉ group.take k) := by
    rw [remaining]
    refine List.filter_congr fun token member => ?_
    simp only [accessorID_mem_iff (live k) (noneCreated member)]
  have owned : ∀ token ∈ current.tokens, token ∈ group ↔ token.BoundTo family := fun token member => by
    rw [grouped, List.mem_filter, decide_eq_true_iff]
    exact and_iff_right (noneCreated member)
  refine ⟨fun succeeded => ?_, fun err error => ⟨k, bound, byToken, failed err error⟩⟩
  obtain ⟨whole, secrets⟩ := ok succeeded
  rw [whole, List.take_length] at byToken
  refine ⟨fun token member => ?_, fun token member other => ?_, by rw [secrets]; simp, rfl⟩
  · rw [byToken, List.mem_filter, decide_eq_true_iff] at member
    exact mt (owned token member.1).mpr member.2
  · rw [byToken, List.mem_filter, decide_eq_true_iff]
    exact ⟨member, mt (owned token member).mp other⟩

theorem deleteTokenInfo_of_tokenList_after_upsert :
    let world := ((TaskFamily.upsert ⟨"cluster", "prefix", "web"⟩).run (Env.reliable "a" "s") World.initial).world
    let lister : TaskDefinitionLister := ⟨"cluster", "prefix"⟩
    let run := (lister.deleteTokenInfo "web" ((lister.tokenList.run (Env.reliable "a" "s") world).value.1 "web")).run
      (Env.reliable "a" "s") world
    world.tokens.length = 1 ∧ run.value = .ok () ∧ ∀ token ∈ run.world.tokens, ¬ token.BoundTo "web" :=
  let world := ((TaskFamily.upsert ⟨"cluster", "prefix", "web"⟩).run (Env.reliable "a" "s") World.initial).world
  ⟨rfl, rfl, ((deleteTokenInfo_of_tokenList ⟨"cluster", "prefix"⟩ "web" (Env.reliable "a" "s") (Env.reliable "a" "s")
    world world rfl (List.Subset.refl _)).1 rfl).1⟩

end ConsulEcs.Controller
