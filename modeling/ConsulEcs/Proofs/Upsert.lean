import Mathlib
import ConsulEcs.Model.Controller
import ConsulEcs.Proofs.JsonRoundTrip

/-! # `TaskFamily.Upsert`, call by call

`Upsert` reads the family's record, reads the token it names, and creates a token only when the
record is empty or Consul reports that token not found. Nothing before `TokenCreate` writes, so
every earlier failure leaves both stores alone; after it, a failed `UpdateSecret` leaves the new
token behind with the old record. A second `Upsert` after a successful one reads back the record
the first wrote, finds its token live, and stops.
-/

namespace ConsulEcs.Controller

variable {env : Env} {world : World}

/-! ## Equations -/

@[simp] theorem readExistingToken_world (accessorID : String) :
    ((readExistingToken accessorID).run env world).world = world := by
  unfold readExistingToken
  split
  · simp only [Ext.run_bind]
    split <;> simp
  · rfl

theorem readExistingToken_calls (accessorID : String) :
    ((readExistingToken accessorID).run env world).calls =
      if accessorID ≠ "" then [.tokenRead accessorID] else [] := by
  unfold readExistingToken
  split
  · simp only [Ext.run_bind, tokenRead_calls]
    split <;> simp
  · rfl

theorem readExistingToken_value (accessorID : String) :
    ((readExistingToken accessorID).run env world).value =
      if accessorID ≠ "" then
        match ((tokenRead accessorID).run env world).value with
        | .ok token => .ok (some token)
        | .error err => if isACLNotFoundError err then .ok none else .error err
      else .ok none := by
  unfold readExistingToken
  split
  · simp only [Ext.run_bind]
    split <;> simp_all
  · rfl

/-- `readExistingToken` finds nothing exactly when the record is empty or the read reports the
token not found. -/
theorem readExistingToken_eq_none_iff (accessorID : String) :
    ((readExistingToken accessorID).run env world).value = .ok none ↔
      accessorID = "" ∨
        ∃ err, ((tokenRead accessorID).run env world).value = .error err ∧ isACLNotFoundError err := by
  rw [readExistingToken_value]
  by_cases empty : accessorID = ""
  · simp [empty]
  · rcases ((tokenRead accessorID).run env world).value with err | token
    · by_cases notFound : isACLNotFoundError err <;> simp [empty, notFound]
    · simp [empty]

theorem upsert_eq (t : TaskFamily) :
    t.upsert.run env world =
      match ((getSecretValue t.secretName).run env world).value with
      | .error err => ⟨.error ("retrieving secret: " ++ err), world, [.getSecretValue t.secretName]⟩
      | .ok value =>
        match Json.unmarshal value with
        | .error err =>
          ⟨.error ("unmarshalling secret value: " ++ err.message), world, [.getSecretValue t.secretName]⟩
        | .ok secret =>
          match ((readExistingToken secret.accessorID).run env world).value with
          | .error err => ⟨.error ("reading existing token: " ++ err), world,
              .getSecretValue t.secretName :: ((readExistingToken secret.accessorID).run env world).calls⟩
          | .ok (some _) => ⟨.ok (), world,
              .getSecretValue t.secretName :: ((readExistingToken secret.accessorID).run env world).calls⟩
          | .ok none =>
            ⟨match (t.updateServiceToken.run env world).value with
              | .error err => .error ("updating service token: " ++ err)
              | .ok () => .ok (),
             (t.updateServiceToken.run env world).world,
             .getSecretValue t.secretName :: ((readExistingToken secret.accessorID).run env world).calls ++
               (t.updateServiceToken.run env world).calls⟩ := by
  simp only [TaskFamily.upsert, Ext.run_bind, getSecretValue_world, getSecretValue_calls]
  rcases ((getSecretValue t.secretName).run env world).value with err | value
  · rfl
  · dsimp only
    rcases Json.unmarshal value with err | secret
    · rfl
    · simp only [Ext.run_bind, readExistingToken_world]
      rcases ((readExistingToken secret.accessorID).run env world).value with err | _ | token
      · simp
      · simp only [Ext.run_bind]
        rcases (t.updateServiceToken.run env world).value with err | _ <;> simp
      · simp

/-- The token `updateServiceToken` creates, when `TokenCreate` succeeds. -/
def TaskFamily.createdToken (t : TaskFamily) (env : Env) (world : World) : ACLToken :=
  (world.createToken env (serviceTokenRequest t.taskFamily)).1

/-- Why `TokenCreate` of the family's request fails, if it does: the environment's fault, or
Consul's rejection of the family's name. -/
def TaskFamily.createFailure (t : TaskFamily) (env : Env) : Option String :=
  match env.fault (.tokenCreate (serviceTokenRequest t.taskFamily)) with
  | some err => some err
  | none => tokenCreateRejection (serviceTokenRequest t.taskFamily)

theorem tokenCreateRejection_serviceTokenRequest (family : String) :
    tokenCreateRejection (serviceTokenRequest family) =
      if isValidServiceIdentityName family then none else some (invalidServiceIdentity family) := by
  by_cases valid : isValidServiceIdentityName family <;>
    simp [tokenCreateRejection, serviceTokenRequest, valid]

/-- With no fault, `TokenCreate` of a family's request fails exactly when Consul rejects the
family's name. -/
theorem createFailure_reliable (t : TaskFamily) (accessorID secretID : String) :
    t.createFailure (Env.reliable accessorID secretID) =
      if isValidServiceIdentityName t.taskFamily then none else some (invalidServiceIdentity t.taskFamily) :=
  tokenCreateRejection_serviceTokenRequest t.taskFamily

theorem updateServiceToken_eq (t : TaskFamily) :
    t.updateServiceToken.run env world =
      match t.createFailure env with
      | some err => ⟨.error ("creating envoy token: " ++ err), world,
          [.tokenCreate (serviceTokenRequest t.taskFamily)]⟩
      | none =>
        let update := (updateSecret t.secretName (Json.marshal
          ⟨(t.createdToken env world).accessorID, (t.createdToken env world).secretID⟩)).run env
            (world.createToken env (serviceTokenRequest t.taskFamily)).2
        ⟨match update.value with
          | .error err => .error ("updating secret: " ++ err)
          | .ok () => .ok (),
         update.world, .tokenCreate (serviceTokenRequest t.taskFamily) :: update.calls⟩ := by
  simp only [TaskFamily.updateServiceToken, Ext.run_bind, tokenCreate_run, TaskFamily.createFailure]
  rcases env.fault (.tokenCreate (serviceTokenRequest t.taskFamily)) with _ | err
  · rcases tokenCreateRejection (serviceTokenRequest t.taskFamily) with _ | err
    · simp only [Ext.run_bind, TaskFamily.createdToken]
      rcases ((updateSecret t.secretName _).run env _).value with err | _ <;> simp
    · rfl
  · rfl

theorem createdToken_boundTo (t : TaskFamily) : (t.createdToken env world).BoundTo t.taskFamily := rfl

theorem createdToken_fresh (t : TaskFamily) :
    (t.createdToken env world).accessorID ∉ world.tokens.map (·.accessorID) :=
  assignAccessorID_fresh _ _

theorem createdToken_accessor_ne (t : TaskFamily) : (t.createdToken env world).accessorID ≠ "" :=
  assignAccessorID_ne _ _

/-! ## What `updateServiceToken` leaves -/

/-- `updateServiceToken` either changes nothing, or adds its token and, when it succeeds, writes
the record that names it. -/
theorem updateServiceToken_world (t : TaskFamily) :
    let run := t.updateServiceToken.run env world
    (run.world = world ∧ ∃ err, run.value = .error err) ∨
      (run.world.tokens = insertToken (t.createdToken env world) world.tokens ∧
        ((run.world.secrets = world.secrets ∧
            ∃ err, run.value = .error ("updating secret: " ++ err) ∧
              run.calls = [.tokenCreate (serviceTokenRequest t.taskFamily), .updateSecret t.secretName
                (Json.marshal ⟨(t.createdToken env world).accessorID, (t.createdToken env world).secretID⟩)]) ∨
          (run.value = .ok () ∧ run.world.secrets = Function.update world.secrets t.secretName
            (some (Json.marshal ⟨(t.createdToken env world).accessorID, (t.createdToken env world).secretID⟩))))) := by
  rw [updateServiceToken_eq]
  rcases t.createFailure env with _ | err
  · dsimp only
    rw [updateSecret_run, World.createToken_secrets]
    rcases env.fault (.updateSecret _ _) with _ | err <;>
      rcases world.secrets t.secretName with _ | record <;> simp [TaskFamily.createdToken]
  · exact .inl ⟨rfl, _, rfl⟩

theorem updateServiceToken_calls_head (t : TaskFamily) :
    ∃ rest, (t.updateServiceToken.run env world).calls = .tokenCreate (serviceTokenRequest t.taskFamily) :: rest := by
  rw [updateServiceToken_eq]
  split
  · exact ⟨[], rfl⟩
  · exact ⟨_, rfl⟩

/-! ## Replies -/

theorem secrets_of_getSecretValue_ok {secretId value : String}
    (read : ((getSecretValue secretId).run env world).value = .ok value) : world.secrets secretId = some value := by
  rw [getSecretValue_value] at read
  split at read
  · cases read
  · split at read <;> simp_all

theorem getSecretValue_reliable {secretId value : String} (accessorID secretID : String)
    (stored : world.secrets secretId = some value) :
    ((getSecretValue secretId).run (Env.reliable accessorID secretID) world).value = .ok value := by
  simp [getSecretValue_value, Env.reliable, stored]

theorem tokenRead_reliable_of_live {accessorID : String} (proposed secretID : String)
    (live : ∃ token ∈ world.tokens, token.accessorID = accessorID) :
    ∃ token, ((tokenRead accessorID).run (Env.reliable proposed secretID) world).value = .ok token := by
  obtain ⟨token, member, same⟩ := live
  rw [tokenRead_value]
  simp only [Env.reliable]
  rcases found : world.tokens.find? (·.accessorID = accessorID) with _ | hit
  · exact absurd found (List.find?_eq_none.not.mpr (by simpa using ⟨token, member, same⟩))
  · exact ⟨hit, by simp only [found]⟩

/-- With no failures, `Upsert` stops after reading a record that names a live token. -/
theorem upsert_of_live (t : TaskFamily) {value : String} {secret : Json.TokenSecretJSON}
    (proposed secretID : String) (stored : world.secrets t.secretName = some value)
    (decodes : Json.unmarshal value = .ok secret) (named : secret.accessorID ≠ "")
    (live : ∃ token ∈ world.tokens, token.accessorID = secret.accessorID) :
    t.upsert.run (Env.reliable proposed secretID) world =
      ⟨.ok (), world, [.getSecretValue t.secretName, .tokenRead secret.accessorID]⟩ := by
  obtain ⟨token, found⟩ := tokenRead_reliable_of_live proposed secretID live
  have existing : ((readExistingToken secret.accessorID).run (Env.reliable proposed secretID) world).value =
      .ok (some token) := by
    rw [readExistingToken_value, if_pos named, found]
  rw [upsert_eq, getSecretValue_reliable proposed secretID stored]
  simp only [decodes, existing, readExistingToken_calls, if_pos named]

/-! ## Where `Upsert` stops -/

/-- `Upsert` goes on to `updateServiceToken`: the record decodes, and its accessor ID is empty or
`TokenRead` of it fails with an error `isACLNotFoundError` accepts. -/
def TaskFamily.NeedsToken (t : TaskFamily) (env : Env) (world : World) : Prop :=
  ∃ value secret, ((getSecretValue t.secretName).run env world).value = .ok value ∧
    Json.unmarshal value = .ok secret ∧
    (secret.accessorID = "" ∨
      ∃ err, ((tokenRead secret.accessorID).run env world).value = .error err ∧ isACLNotFoundError err)

theorem upsert_of_needsToken (t : TaskFamily) (needs : t.NeedsToken env world) :
    ∃ calls, t.upsert.run env world =
      ⟨match (t.updateServiceToken.run env world).value with
        | .error err => .error ("updating service token: " ++ err)
        | .ok () => .ok (),
       (t.updateServiceToken.run env world).world, calls ++ (t.updateServiceToken.run env world).calls⟩ := by
  obtain ⟨value, secret, read, decodes, empty⟩ := needs
  have none := (readExistingToken_eq_none_iff secret.accessorID).mpr empty
  rw [upsert_eq, read]
  simp only [decodes, none]
  exact ⟨_, rfl⟩

/-- Short of `updateServiceToken`, `Upsert` only reads. -/
theorem upsert_of_not_needsToken (t : TaskFamily) (skips : ¬ t.NeedsToken env world) :
    (t.upsert.run env world).world = world ∧
      ∀ request ∈ (t.upsert.run env world).calls,
        request = .getSecretValue t.secretName ∨ ∃ accessorID, request = .tokenRead accessorID := by
  rw [upsert_eq]
  rcases read : ((getSecretValue t.secretName).run env world).value with err | value
  · simp
  · rcases decodes : Json.unmarshal value with err | secret
    · simp [decodes]
    · have reads : ∀ request ∈ ((readExistingToken secret.accessorID).run env world).calls,
          request = .getSecretValue t.secretName ∨ ∃ accessorID, request = .tokenRead accessorID := by
        rw [readExistingToken_calls]; split <;> simp
      rcases existing : ((readExistingToken secret.accessorID).run env world).value with err | _ | token
      · simpa [decodes, existing] using reads
      · exact absurd ⟨value, secret, read, decodes,
          (readExistingToken_eq_none_iff secret.accessorID).mp existing⟩ skips
      · simpa [decodes, existing] using reads

/-- `Upsert` calls `TokenCreate` exactly when it needs a token. -/
theorem upsert_calls_tokenCreate_iff (t : TaskFamily) :
    (∃ request, Call.tokenCreate request ∈ (t.upsert.run env world).calls) ↔ t.NeedsToken env world := by
  constructor
  · rintro ⟨request, member⟩
    by_contra skips
    rcases (upsert_of_not_needsToken t skips).2 _ member with same | ⟨_, same⟩ <;> cases same
  · intro needs
    obtain ⟨calls, eq⟩ := upsert_of_needsToken t needs
    obtain ⟨rest, head⟩ := @updateServiceToken_calls_head env world t
    exact ⟨serviceTokenRequest t.taskFamily, by rw [eq, head]; simp⟩

theorem tokenRead_of_readExistingToken_some {accessorID : String} {token : ACLToken}
    (found : ((readExistingToken accessorID).run env world).value = .ok (some token)) :
    accessorID ≠ "" ∧ ((tokenRead accessorID).run env world).value = .ok token := by
  rw [readExistingToken_value] at found
  split_ifs at found with named
  · refine ⟨named, ?_⟩
    rcases read : ((tokenRead accessorID).run env world).value with err | hit <;> rw [read] at found
    · dsimp only at found
      split_ifs at found
      cases found
    · cases found; rfl
  · cases found

/-- When the record names no live token, a reliable `Upsert` of a family whose name Consul accepts
creates a token and records it. -/
theorem upsert_reliable_of_unnamed (r : TaskFamily) (accessorID secretID : String)
    (valid : isValidServiceIdentityName r.taskFamily) {value : String}
    {secret : Json.TokenSecretJSON} (stored : world.secrets r.secretName = some value)
    (decodes : Json.unmarshal value = .ok secret)
    (unnamed : ¬ (secret.accessorID ≠ "" ∧ ∃ token ∈ world.tokens, token.accessorID = secret.accessorID)) :
    let env := Env.reliable accessorID secretID
    let run := r.upsert.run env world
    run.value = .ok () ∧ run.world.tokens = insertToken (r.createdToken env world) world.tokens ∧
      run.world.secrets = Function.update world.secrets r.secretName
        (some (Json.marshal ⟨(r.createdToken env world).accessorID, (r.createdToken env world).secretID⟩)) := by
  intro env run
  have needs : r.NeedsToken env world := by
    refine ⟨value, secret, getSecretValue_reliable accessorID secretID stored, decodes, ?_⟩
    by_cases empty : secret.accessorID = ""
    · exact .inl empty
    · have missing : world.tokens.find? (·.accessorID = secret.accessorID) = none :=
        List.find?_eq_none.mpr fun token member same => unnamed ⟨empty, token, member, by simpa using same⟩
      exact .inr ⟨aclNotFound, by simp [tokenRead_value, env, Env.reliable, missing],
        decide_eq_true (List.infix_refl _)⟩
  obtain ⟨calls, eq⟩ := upsert_of_needsToken r needs
  have accepted : r.createFailure env = none := by rw [createFailure_reliable, if_pos valid]
  refine ⟨?_, ?_, ?_⟩ <;> simp only [run, eq, updateServiceToken_eq, accepted] <;>
    simp only [env, Env.reliable, updateSecret_run, World.createToken_secrets, stored] <;> rfl

/-! ## Failures -/

/-- Every failure before `TokenCreate` returns an error and writes nothing. -/
theorem upsert_of_read_failure (t : TaskFamily)
    (early : (∃ err, ((getSecretValue t.secretName).run env world).value = .error err) ∨
      (∃ value err, ((getSecretValue t.secretName).run env world).value = .ok value ∧
        Json.unmarshal value = .error err) ∨
      (∃ value secret err, ((getSecretValue t.secretName).run env world).value = .ok value ∧
        Json.unmarshal value = .ok secret ∧ secret.accessorID ≠ "" ∧
        ((tokenRead secret.accessorID).run env world).value = .error err ∧ isACLNotFoundError err = false)) :
    (∃ err, (t.upsert.run env world).value = .error err) ∧ (t.upsert.run env world).world = world := by
  rw [upsert_eq]
  rcases early with ⟨err, failed⟩ | ⟨value, err, read, bad⟩ | ⟨value, secret, err, read, decodes, named, failed, other⟩
  · rw [failed]; exact ⟨⟨_, rfl⟩, rfl⟩
  · rw [read]; simp [bad]
  · have existing : ((readExistingToken secret.accessorID).run env world).value = .error err := by
      rw [readExistingToken_value, if_pos named, failed]; simp [other]
    rw [read]; simp [decodes, existing]

theorem upsert_of_tokenCreate_failure (t : TaskFamily) (needs : t.NeedsToken env world) {err : String}
    (failed : ((tokenCreate (serviceTokenRequest t.taskFamily)).run env world).value = .error err) :
    (t.upsert.run env world).value = .error ("updating service token: creating envoy token: " ++ err) ∧
      (t.upsert.run env world).world = world := by
  have fault : t.createFailure env = some err := by
    rw [tokenCreate_run] at failed
    rw [TaskFamily.createFailure]
    split at failed <;> cases failed <;> simp only [*]
  obtain ⟨calls, eq⟩ := upsert_of_needsToken t needs
  rw [eq, updateServiceToken_eq, fault]
  exact ⟨congrArg Except.error (String.append_assoc _ _ _).symm, rfl⟩

/-- The one failure that writes: `UpdateSecret` fails after `TokenCreate`, and the new token
stays behind with the old record. -/
theorem upsert_error_changes (t : TaskFamily) {err : String}
    (failed : (t.upsert.run env world).value = .error err) (changed : (t.upsert.run env world).world ≠ world) :
    (t.upsert.run env world).world.secrets = world.secrets ∧
      (t.upsert.run env world).world.tokens = insertToken (t.createdToken env world) world.tokens ∧
      (∃ e, err = "updating service token: updating secret: " ++ e) ∧
      ∃ calls, (t.upsert.run env world).calls = calls ++ [.tokenCreate (serviceTokenRequest t.taskFamily),
        .updateSecret t.secretName (Json.marshal ⟨(t.createdToken env world).accessorID,
          (t.createdToken env world).secretID⟩)] := by
  by_cases needs : t.NeedsToken env world
  · obtain ⟨calls, eq⟩ := upsert_of_needsToken t needs
    rw [eq] at failed changed ⊢
    rcases @updateServiceToken_world env world t with ⟨same, -⟩ | ⟨tokens, ⟨secrets, e, update, sent⟩ | ⟨ok, -⟩⟩
    · exact absurd same changed
    · rw [update] at failed
      cases failed
      exact ⟨secrets, tokens, ⟨e, by rw [← String.append_assoc]; rfl⟩, calls, by rw [sent]⟩
    · rw [ok] at failed
      cases failed
  · exact absurd (upsert_of_not_needsToken t needs).1 changed

/-- The contexts `Upsert` wraps its errors in, one for each step that can fail. -/
def upsertErrorContexts : List String :=
  ["retrieving secret: ", "unmarshalling secret value: ", "reading existing token: ", "updating service token: "]

theorem upsert_error_context (t : TaskFamily) {err : String} (failed : (t.upsert.run env world).value = .error err) :
    ∃ context ∈ upsertErrorContexts, ∃ e, err = context ++ e := by
  rw [upsert_eq] at failed
  repeat' split at failed
  all_goals cases failed
  all_goals exact ⟨_, by simp [upsertErrorContexts], _, rfl⟩

theorem upsert_tokens_subset (t : TaskFamily) : world.tokens ⊆ (t.upsert.run env world).world.tokens := by
  intro token member
  by_cases needs : t.NeedsToken env world
  · obtain ⟨calls, eq⟩ := upsert_of_needsToken t needs
    rw [eq]
    rcases @updateServiceToken_world env world t with ⟨same, -⟩ | ⟨tokens, -⟩
    · rwa [same]
    · exact tokens ▸ mem_insertToken.mpr (.inr member)
  · rwa [(upsert_of_not_needsToken t needs).1]

/-- How `Upsert` handles each failure. -/
theorem upsert_error_handling (t : TaskFamily) (env : Env) (world : World) :
    let run := t.upsert.run env world
    let created := t.createdToken env world
    ((∃ request, Call.tokenCreate request ∈ run.calls) ↔ t.NeedsToken env world) ∧
    (((∃ err, ((getSecretValue t.secretName).run env world).value = .error err) ∨
        (∃ value err, ((getSecretValue t.secretName).run env world).value = .ok value ∧
          Json.unmarshal value = .error err) ∨
        (∃ value secret err, ((getSecretValue t.secretName).run env world).value = .ok value ∧
          Json.unmarshal value = .ok secret ∧ secret.accessorID ≠ "" ∧
          ((tokenRead secret.accessorID).run env world).value = .error err ∧ isACLNotFoundError err = false) ∨
        (t.NeedsToken env world ∧
          ∃ err, ((tokenCreate (serviceTokenRequest t.taskFamily)).run env world).value = .error err)) →
      (∃ err, run.value = .error err) ∧ run.world = world) ∧
    world.tokens ⊆ run.world.tokens ∧
    (∀ err, run.value = .error err → run.world ≠ world →
      run.world.secrets = world.secrets ∧ run.world.tokens = insertToken created world.tokens ∧
      created.accessorID ∉ world.tokens.map (·.accessorID) ∧ created.BoundTo t.taskFamily ∧
      (∃ e, err = "updating service token: updating secret: " ++ e) ∧
      ∃ calls, run.calls = calls ++ [.tokenCreate (serviceTokenRequest t.taskFamily),
        .updateSecret t.secretName (Json.marshal ⟨created.accessorID, created.secretID⟩)]) := by
  refine ⟨upsert_calls_tokenCreate_iff t, fun failure => ?_, upsert_tokens_subset t, fun err failed changed => ?_⟩
  · rcases failure with early | early | early | ⟨needs, err, failed⟩
    · exact upsert_of_read_failure t (.inl early)
    · exact upsert_of_read_failure t (.inr (.inl early))
    · exact upsert_of_read_failure t (.inr (.inr early))
    · obtain ⟨value, same⟩ := upsert_of_tokenCreate_failure t needs failed
      exact ⟨⟨_, value⟩, same⟩
  · obtain ⟨secrets, tokens, message, calls⟩ := upsert_error_changes t failed changed
    exact ⟨secrets, tokens, createdToken_fresh t, createdToken_boundTo t, message, calls⟩

/-! ## A second `Upsert` -/

/-- After a successful `Upsert` the record decodes to the accessor ID of a live token. -/
theorem record_live_of_upsert_ok (t : TaskFamily) (succeeded : (t.upsert.run env world).value = .ok ()) :
    ∃ value secret, (t.upsert.run env world).world.secrets t.secretName = some value ∧
      Json.unmarshal value = .ok secret ∧ secret.accessorID ≠ "" ∧
      ∃ token ∈ (t.upsert.run env world).world.tokens, token.accessorID = secret.accessorID := by
  by_cases needs : t.NeedsToken env world
  · obtain ⟨calls, eq⟩ := upsert_of_needsToken t needs
    rw [eq] at succeeded ⊢
    rcases @updateServiceToken_world env world t with ⟨-, err, failed⟩ | ⟨tokens, ⟨-, err, failed, -⟩ | ⟨-, secrets⟩⟩
    · rw [failed] at succeeded; cases succeeded
    · rw [failed] at succeeded; cases succeeded
    · refine ⟨_, _, by rw [secrets, Function.update_same], Json.unmarshal_marshal _, createdToken_accessor_ne t,
        t.createdToken env world, ?_, rfl⟩
      exact tokens ▸ mem_insertToken.mpr (.inl rfl)
  · rw [(upsert_of_not_needsToken t needs).1]
    rw [upsert_eq] at succeeded
    rcases read : ((getSecretValue t.secretName).run env world).value with err | value
    · simp [read] at succeeded
    · rcases decodes : Json.unmarshal value with err | secret
      · simp [read, decodes] at succeeded
      · rcases existing : ((readExistingToken secret.accessorID).run env world).value with err | _ | token
        · simp [read, decodes, existing] at succeeded
        · exact absurd ⟨value, secret, read, decodes, (readExistingToken_eq_none_iff _).mp existing⟩ needs
        · obtain ⟨named, found⟩ := tokenRead_of_readExistingToken_some existing
          exact ⟨value, secret, secrets_of_getSecretValue_ok read, decodes, named, token, live_of_tokenRead_ok found⟩

/-- A second `Upsert` right after a successful one changes nothing. -/
theorem upsert_idempotent (t : TaskFamily) (env : Env) (world : World) (accessorID secretID : String)
    (succeeded : (t.upsert.run env world).value = .ok ()) :
    let first := t.upsert.run env world
    let second := t.upsert.run (Env.reliable accessorID secretID) first.world
    (second.value = .ok () ∧ (∀ request, Call.tokenCreate request ∉ second.calls) ∧
      (∀ secretId secretString, Call.updateSecret secretId secretString ∉ second.calls) ∧
      second.world = first.world) ∧
    (∀ secret : Json.TokenSecretJSON, Json.unmarshal (Json.marshal secret) = .ok secret) ∧
    (∀ accessorID token, ((readExistingToken accessorID).run env world).value = .ok (some token) →
      token ∈ world.tokens ∧ token.accessorID = accessorID) := by
  obtain ⟨value, secret, stored, decodes, named, live⟩ := record_live_of_upsert_ok t succeeded
  have second := upsert_of_live t accessorID secretID stored decodes named live
  refine ⟨by simp [second], Json.unmarshal_marshal, fun _ token found => ?_⟩
  obtain ⟨named, read⟩ := tokenRead_of_readExistingToken_some found
  exact live_of_tokenRead_ok read

theorem upsert_idempotent_initial :
    let t : TaskFamily := ⟨"cluster", "prefix", "web"⟩
    (t.upsert.run (Env.reliable "a" "s") World.initial).value = .ok () ∧
      (t.upsert.run (Env.reliable "b" "s") (t.upsert.run (Env.reliable "a" "s") World.initial).world).value = .ok () :=
  ⟨rfl, (upsert_idempotent ⟨"cluster", "prefix", "web"⟩ (Env.reliable "a" "s") World.initial "b" "s" rfl).1.1⟩

end ConsulEcs.Controller
