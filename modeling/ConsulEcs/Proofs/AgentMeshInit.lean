import Mathlib
import ConsulEcs.Model.AgentMeshInit

/-! # What the agent-registering `mesh-init` asks for

The health checks are settled before any request: `constructChecks` fails exactly when both the
checks and the synced containers are configured, and otherwise appends one synced check per
container, whose check IDs differ as the container names do. A run then asks for one fixed
sequence, stopping at the first error: the service's registration, the registration of the proxy
that fronts it, the proxy's Envoy bootstrap, the bootstrap file and the copy of the binary. So the
bootstrap is only ever asked for a proxy registered just before, after its service, and `Run`
exits 0 only after all five requests.
-/

namespace ConsulEcs.AgentMeshInit

/-! ## Health checks -/

/-- The loop of `constructChecks` appends one synced check per container. -/
theorem foldl_syncedCheck (serviceID : String) :
    ∀ (containers : List String) (checks : List AgentServiceCheck),
      containers.foldl (fun checks containerName => checks ++ [syncedCheck serviceID containerName]) checks =
        checks ++ containers.map (syncedCheck serviceID)
  | [], checks => by simp
  | containerName :: rest, checks => by simp [foldl_syncedCheck serviceID rest]

theorem constructChecks_eq (serviceID : String) (checks : List AgentServiceCheck) (containers : List String) :
    constructChecks serviceID checks containers =
      if checks ≠ [] ∧ containers ≠ [] then .error "only one of mesh.checks or mesh.healthSyncContainers should be set"
      else .ok (checks ++ containers.map (syncedCheck serviceID)) := by
  simp only [constructChecks, List.length_pos, foldl_syncedCheck]
  split_ifs with both synced <;> simp_all

/-- A synced check's ID determines its container. -/
theorem syncedCheck_checkID_injective (serviceID : String) :
    Function.Injective fun containerName => (syncedCheck serviceID containerName).checkID := by
  intro a b same
  have lists := congrArg String.data same
  simp only [syncedCheck, String.data_append, List.append_assoc] at lists
  exact String.ext (List.append_cancel_right (List.append_cancel_left (List.append_cancel_left lists)))

/-- The service's checks: an error exactly when both checks and synced containers are configured;
otherwise the configured checks, then one synced check per container, with check IDs distinct
exactly when the container names are. -/
theorem constructChecks_spec (serviceID : String) (checks : List AgentServiceCheck) (containers : List String) :
    ((∃ err, constructChecks serviceID checks containers = .error err) ↔ checks ≠ [] ∧ containers ≠ []) ∧
    (∀ err, constructChecks serviceID checks containers = .error err →
      err = "only one of mesh.checks or mesh.healthSyncContainers should be set") ∧
    (∀ result, constructChecks serviceID checks containers = .ok result →
      result = checks ++ containers.map (syncedCheck serviceID) ∧
      ((containers.map fun containerName => (syncedCheck serviceID containerName).checkID).Nodup ↔ containers.Nodup)) := by
  rw [constructChecks_eq]
  split_ifs with both
  · exact ⟨iff_of_true ⟨_, rfl⟩ both, fun err failed => by cases failed; rfl, fun result failed => by cases failed⟩
  · refine ⟨iff_of_false (fun ⟨err, failed⟩ => by cases failed) both, fun err failed => (by cases failed),
      fun result built => ?_⟩
    cases built
    exact ⟨rfl, List.nodup_map_iff (syncedCheck_checkID_injective serviceID)⟩

/-! ## The requests of a run -/

/-- The end of a run writes the bootstrap file, then copies the binary, stopping at the first
error; it succeeds exactly when it asked for both and the copy was written. -/
theorem writeBootstrap_requests (c : Config) (env : Env) (out : String) :
    ∃ data, (writeBootstrap c env out).2 <+: [.writeFile c.bootstrapDir envoyBoostrapConfigFilename out 0o444,
        .writeFile c.bootstrapDir "consul-ecs" data 0o755] ∧ 1 ≤ (writeBootstrap c env out).2.length ∧
      ((writeBootstrap c env out).1 = .ok () ↔
        (writeBootstrap c env out).2.length = 2 ∧ env.writeFile c.bootstrapDir "consul-ecs" = none) := by
  unfold writeBootstrap
  have first : ∀ data, [Effect.writeFile c.bootstrapDir envoyBoostrapConfigFilename out 0o444] <+:
      [.writeFile c.bootstrapDir envoyBoostrapConfigFilename out 0o444, .writeFile c.bootstrapDir "consul-ecs" data 0o755] :=
    fun _ => (List.prefix_cons_inj _).mpr List.nil_prefix
  rcases env.writeFile c.bootstrapDir envoyBoostrapConfigFilename with _ | err
  · rcases env.executable with err | ex
    · exact ⟨"", first _, le_refl _, by simp⟩
    · dsimp only
      rcases env.readFile ex with err | data
      · exact ⟨"", first _, le_refl _, by simp⟩
      · dsimp only
        rcases env.writeFile c.bootstrapDir "consul-ecs" with _ | err
        · exact ⟨data, List.prefix_refl _, by simp, by simp⟩
        · exact ⟨data, List.prefix_refl _, by simp, by simp⟩
  · exact ⟨"", first _, le_refl _, by simp⟩

/-- Whatever the answers, a run asks for nothing and fails, or asks, in this order and stopping at
the first error, for the service's registration, the registration of a proxy that fronts the
service and aliases it, the proxy's Envoy bootstrap, the bootstrap file and the copy of the binary
into the bootstrap directory. It succeeds exactly when it asked for all five and the copy was
written. -/
theorem realRun_requests (c : Config) (env : Env) :
    ((Command.realRun c env).2 = [] ∧ ∃ err, (Command.realRun c env).1 = .error err) ∨
    ∃ service proxy out data,
      proxy.id = service.id ++ "-sidecar-proxy" ∧
      proxy.proxy = some ⟨service.name, service.id, service.port, c.upstreams⟩ ∧
      destinationAliasCheck service.id ∈ proxy.checks ∧
      (Command.realRun c env).2 <+: [.register service, .register proxy, .envoyBootstrap proxy.id,
        .writeFile c.bootstrapDir envoyBoostrapConfigFilename out 0o444,
        .writeFile c.bootstrapDir "consul-ecs" data 0o755] ∧
      3 ≤ (Command.realRun c env).2.length ∧
      ((Command.realRun c env).1 = .ok () ↔
        (Command.realRun c env).2.length = 5 ∧ env.writeFile c.bootstrapDir "consul-ecs" = none) := by
  unfold Command.realRun
  rcases env.newClient with _ | err
  · rcases env.taskMeta with err | taskMeta
    · exact .inl ⟨rfl, _, rfl⟩
    · dsimp only
      generalize Command.constructServiceName c taskMeta.family ++ "-" ++ taskMeta.taskID = serviceID
      generalize Command.constructServiceName c taskMeta.family = serviceName
      generalize MeshInit.mergeMeta (MeshInit.taskMetaEntries taskMeta.taskID taskMeta.taskARN) c.meta = fullMeta
      rcases constructChecks serviceID c.checks c.healthSyncContainers with err | checks
      · exact .inl ⟨rfl, _, rfl⟩
      · refine .inr ⟨serviceRegistration c serviceName serviceID fullMeta checks,
          proxyRegistration c serviceName serviceID fullMeta, ?_⟩
        have aliased : destinationAliasCheck serviceID ∈ (proxyRegistration c serviceName serviceID fullMeta).checks :=
          List.mem_cons_of_mem _ (List.mem_singleton_self _)
        rcases env.envoyBootstrap (serviceID ++ "-sidecar-proxy") with ⟨_ | err, out⟩ <;> dsimp only
        · obtain ⟨data, written, made, succeeded⟩ := writeBootstrap_requests c env out
          refine ⟨out, data, rfl, rfl, aliased, (List.prefix_append_right_inj _).mpr written, by simp, ?_⟩
          simp only [List.length_append, List.length_cons, List.length_nil, succeeded]
          constructor <;> rintro ⟨length, copied⟩ <;> exact ⟨by omega, copied⟩
        · exact ⟨out, "", rfl, rfl, aliased, ⟨[_, _], rfl⟩, le_refl _, by simp⟩
  · exact .inl ⟨rfl, _, rfl⟩

/-! ## `Run` -/

theorem realRun_of_both (c : Config) (env : Env) (both : c.checks ≠ [] ∧ c.healthSyncContainers ≠ []) :
    (Command.realRun c env).2 = [] := by
  unfold Command.realRun
  rcases env.newClient with _ | err
  · rcases env.taskMeta with err | taskMeta
    · rfl
    · dsimp only
      rw [constructChecks_eq, if_pos both]
  · rfl

/-- `Run` asks for nothing unless the configuration loads, names a bootstrap directory and does not
set both checks and synced containers; it exits 0 only after asking for every request of a run,
and otherwise exits 1 with the error shown or logged. -/
theorem run_exit (env : Env) :
    ((Command.run env).effects ≠ [] →
      ∃ c, env.config = .ok c ∧ c.bootstrapDir ≠ "" ∧ (c.checks = [] ∨ c.healthSyncContainers = [])) ∧
    ((Command.run env).code = 0 → (Command.run env).effects.length = 5) ∧
    ((Command.run env).code ≠ 0 →
      (Command.run env).code = 1 ∧ ((Command.run env).uiError.isSome ∨ (Command.run env).logged.isSome)) := by
  unfold Command.run
  rcases env.config with err | c
  · simp
  · dsimp only
    split_ifs with unset
    · simp
    · have guarded : (Command.realRun c env).2 ≠ [] → c.checks = [] ∨ c.healthSyncContainers = [] :=
        fun made => by
          by_contra both
          exact made (realRun_of_both c env (by simpa [not_or] using both))
      have succeeded : (Command.realRun c env).1 = .ok () → (Command.realRun c env).2.length = 5 := fun ok => by
        rcases realRun_requests c env with ⟨_, _, failed⟩ | ⟨_, _, _, _, _, _, _, _, _, result⟩
        · rw [ok] at failed
          cases failed
        · exact (result.mp ok).1
      rcases ran : Command.realRun c env with ⟨_ | _, effects⟩
      · rw [ran] at guarded
        exact ⟨fun made => ⟨c, rfl, unset, guarded made⟩, fun exit => by simp at exit, fun _ => ⟨rfl, by simp⟩⟩
      · rw [ran] at guarded succeeded
        exact ⟨fun made => ⟨c, rfl, unset, guarded made⟩, fun _ => succeeded rfl, fun nonzero => absurd rfl nonzero⟩

end ConsulEcs.AgentMeshInit
